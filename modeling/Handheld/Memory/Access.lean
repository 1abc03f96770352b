import Handheld.Memory.Ram

namespace Handheld

/-!
# Little-endian access

Numbers of several bytes are stored with the least significant byte first.
`Ram.number` and `Ram.setNumber` read and write any number of bytes; the widths
that instructions name are built on them. Writing keeps the low bits of a word,
reading extends by zeros or, for the two signed widths, by the sign.
-/

/-- The number stored in `count` bytes from `address` on. -/
def Ram.number
    (ram : Ram)
    (count address : Nat) :
    Nat :=
  match count with
  | 0 => 0
  | rest + 1 => (ram.byte address).toNat + 256 * ram.number rest (address + 1)

/-- Memory with the low `count` bytes of a number stored from `address` on. -/
def Ram.setNumber
    (ram : Ram)
    (count address value : Nat) :
    Ram :=
  match count with
  | 0 => ram
  | rest + 1 =>
      (ram.setByte address (UInt8.ofNat value)).setNumber rest (address + 1) (value / 256)

/-- The signed 16 bit value at an address. -/
def Ram.signed16
    (ram : Ram)
    (address : Nat) :
    Word :=
  Word.ofSigned16 (ram.number 2 address)

/-- The signed 32 bit value at an address. -/
def Ram.signed32
    (ram : Ram)
    (address : Nat) :
    Word :=
  Word.ofBits (ram.number 4 address)

/-- Memory with the low `count` bytes of a word stored from `address` on. -/
def Ram.setWord
    (ram : Ram)
    (count address : Nat)
    (value : Word) :
    Ram :=
  ram.setNumber count address value.bits

/-- The widths in which instructions load and store. -/
inductive Width where
  /-- One unsigned byte. -/
  | byte
  /-- Two bytes, signed. -/
  | half
  /-- Four bytes, signed. -/
  | full
  deriving DecidableEq, Repr

/-- Number of bytes of a width. -/
def Width.size : Width → Nat
  | .byte => 1
  | .half => 2
  | .full => 4

/-- The width of a number of bytes, if it is one. -/
def Width.ofSize? : Nat → Option Width
  | 1 => some .byte
  | 2 => some .half
  | 4 => some .full
  | _ => none

/-- The value of the given width at an address. -/
def Width.load
    (width : Width)
    (ram : Ram)
    (address : Nat) :
    Word :=
  match width with
  | .byte => Word.ofByte (ram.byte address)
  | .half => ram.signed16 address
  | .full => ram.signed32 address

/-- Memory with a word stored in the given width. -/
def Width.store
    (width : Width)
    (ram : Ram)
    (address : Nat)
    (value : Word) :
    Ram :=
  ram.setWord width.size address value

end Handheld
