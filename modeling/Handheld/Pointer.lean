import Handheld.Memory.Access

namespace Handheld

/-!
# Tagged pointers

A pointer on the data stack packs an address and the width of what it points
to: the offset in bits 0 to 15, the number of bytes in bits 16 to 22, and in bit
23 whether the offset counts from the current frame base. The bits above are
ignored.
-/

/-- The width bits of a pointer. -/
def Width.tag (width : Width) : Word :=
  Word.ofBits (width.size * 0x10000)

/-- A pointer taken apart. -/
structure Pointer where
  offset : UInt16
  width : Width
  isLocal : Bool
  deriving DecidableEq, Repr

namespace Pointer

/-- The bit of a pointer that counts from the frame base. -/
def localFlag : Nat := 0x800000

/-- Take a word apart; the width must be a known one. -/
def decode (raw : Word) : Except Fault Pointer :=
  match Width.ofSize? (raw.bits / 0x10000 % 0x80) with
  | some width =>
      .ok {
        offset := UInt16.ofNat raw.bits
        width := width
        isLocal := raw.bits / localFlag % 2 = 1
      }
  | none =>
      .error (.invalidPointer raw)

/-- The word that packs a pointer. -/
def encode (pointer : Pointer) : Word :=
  Word.ofBits <|
    pointer.offset.toNat + pointer.width.size * 0x10000 +
      if pointer.isLocal then localFlag else 0

/-- The address a pointer names, given the frame base if there is one. -/
def resolve
    (pointer : Pointer)
    (frameBase : Option Nat) :
    Except Fault Nat :=
  if pointer.isLocal then
    match frameBase with
    | some base => .ok (pointer.offset.toNat + base)
    | none => .error .noFrame
  else
    .ok pointer.offset.toNat

end Pointer

end Handheld
