import Handheld.Numeral

namespace Handheld

/-!
# Faults

A fault ends the running program. A refusal tells why a code image was not
accepted. Both carry the facts that their message states; the wording stands in
one function for each.
-/

/-- What stops a running program. -/
inductive Fault where
  /-- The byte at the program counter is not an instruction. -/
  | illegalOpcode (opcode : UInt8) (pc : Nat)
  /-- A value was pushed onto a full data stack. -/
  | stackOverflow
  /-- A value was taken from below the bottom of the data stack. -/
  | stackUnderflow
  /-- A call frame grew past the frame region. -/
  | frameOverflow (base : Nat)
  /-- A frame was used before a frame base was set. -/
  | noFrame
  /-- A tagged pointer carries an unknown width. -/
  | invalidPointer (raw : Word)
  /-- A range of memory ends past the address space. -/
  | memoryRange (address length : Nat)
  /-- No NUL follows the start of a string. -/
  | unterminatedString (address : Nat)
  /-- Division or remainder by zero. -/
  | divisionByZero
  /-- A shape was drawn with draw mode three. -/
  | invalidShapeMode (mode : Word)
  /-- An instruction or operand lies past the end of the image. -/
  | codeOutOfBounds (pc : Nat)
  /-- A run was prepared without a loaded image. -/
  | noCode
  deriving DecidableEq, Repr

/-- The text that reports a fault. -/
def Fault.message : Fault → String
  | .illegalOpcode opcode pc =>
      "Illegal opcode 0x" ++ hexadecimal 2 opcode.toNat ++
        " at 0x" ++ hexadecimal 6 pc
  | .stackOverflow =>
      "Data stack overflow"
  | .stackUnderflow =>
      "Data stack underflow"
  | .frameOverflow base =>
      "Frame stack overflow at frame base 0x" ++ hexadecimal 4 base
  | .noFrame =>
      "No active call frame"
  | .invalidPointer raw =>
      "Invalid pointer 0x" ++ hexadecimal 8 raw.bits
  | .memoryRange address length =>
      "Memory range 0x" ++ hexadecimal 4 address ++ "+" ++ toString length ++
        " is outside the address space"
  | .unterminatedString address =>
      "Unterminated string at 0x" ++ hexadecimal 4 address
  | .divisionByZero =>
      "Division by zero"
  | .invalidShapeMode mode =>
      "Invalid shape draw mode " ++ mode.decimal
  | .codeOutOfBounds pc =>
      "Code fetch out of bounds at 0x" ++ hexadecimal 6 pc
  | .noCode =>
      "No code image loaded"

/-- Why a code image was not accepted. -/
inductive ImageRefusal where
  /-- The image could not be read; the text is the reason of the host. -/
  | unreadable (reason : String)
  /-- The image holds no instruction after its header. -/
  | tooShort (size : Nat)
  /-- The image does not open with the magic bytes. -/
  | badMagic
  /-- The version byte is not the supported one. -/
  | unsupportedVersion (version : UInt8)
  /-- A jump or call names a label that is never placed. -/
  | undefinedLabel (name : String)
  deriving DecidableEq, Repr

/-- The text that reports a refused image. -/
def ImageRefusal.message : ImageRefusal → String
  | .unreadable reason =>
      "Cannot read code image: " ++ reason
  | .tooShort size =>
      "Code image too short: " ++ toString size ++ " bytes"
  | .badMagic =>
      "Not a LAV image: bad magic bytes"
  | .unsupportedVersion version =>
      "Unsupported LAV version 0x" ++ hexadecimal 2 version.toNat
  | .undefinedLabel name =>
      "Undefined label '" ++ name ++ "'"

end Handheld
