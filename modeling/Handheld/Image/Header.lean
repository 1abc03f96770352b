import Handheld.Fault

namespace Handheld

/-!
# Code images

An image opens with a header of sixteen bytes: the letters `LAV`, a version
byte, and twelve bytes that are not looked at. Instructions follow, and their
addresses count from the start of the header.
-/

namespace Image

/-- The bytes that open every image. -/
def magic : List UInt8 := [0x4c, 0x41, 0x56]

/-- The only version that is accepted. -/
def version : UInt8 := 0x12

/-- Address of the first instruction. -/
def codeStart : Nat := 16

/-- The header of a new image. -/
def header : Array UInt8 :=
  (magic ++ version :: List.replicate 12 0).toArray

/-- Accept an image that has a valid header and at least one byte after it. -/
def check (code : Array UInt8) : Except ImageRefusal Unit :=
  if code.size ≤ codeStart then
    .error (.tooShort code.size)
  else if code.toList.take 3 ≠ magic then
    .error .badMagic
  else if code[3]? ≠ some version then
    .error (.unsupportedVersion (code.getD 3 0))
  else
    .ok ()

end Image

end Handheld
