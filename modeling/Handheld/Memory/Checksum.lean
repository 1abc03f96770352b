import Handheld.Memory.Ram

namespace Handheld

/-!
# Checksum and cipher

The checksum is the 16 bit cyclic redundancy check with polynomial `0x1021`,
initial value zero, no reflection and no final change. It takes each byte as two
nibbles, the high one first, and looks the effect of a nibble up in a table. The
accumulator is wider than the result, whose bits above the sixteenth are dropped
at the end.

The cipher combines a range of memory with a password by exclusive or, starting
the password over whenever it is used up.
-/

/-- The remainder that each nibble leaves behind. -/
def Checksum.table : Vector UInt32 16 :=
  #v[0x0000, 0x1021, 0x2042, 0x3063, 0x4084, 0x50a5, 0x60c6, 0x70e7,
    0x8108, 0x9129, 0xa14a, 0xb16b, 0xc18c, 0xd1ad, 0xe1ce, 0xf1ef]

/-- Take one nibble into the accumulator. -/
def Checksum.nibble
    (accumulator nibble : UInt32) :
    UInt32 :=
  let index := ((accumulator >>> 12) &&& 0xf) ^^^ nibble
  (accumulator <<< 4) ^^^ Checksum.table[index.toNat % 16]

/-- Take one byte into the accumulator. -/
def Checksum.byte
    (accumulator : UInt32)
    (byte : UInt8) :
    UInt32 :=
  let high := (byte >>> 4).toUInt32
  let low := (byte &&& 0xf).toUInt32
  Checksum.nibble (Checksum.nibble accumulator high) low

/-- The checksum of a list of bytes. -/
def Checksum.ofBytes (bytes : List UInt8) : UInt32 :=
  bytes.foldl Checksum.byte 0 &&& 0xffff

/-- The checksum of `length` bytes of memory. -/
def Ram.checksum
    (ram : Ram)
    (address length : Nat) :
    UInt32 :=
  Checksum.ofBytes (ram.bytes address length)

/-- Combine `count` bytes with a password that is not empty, starting at its byte `index`. -/
def Ram.encryptFrom
    (ram : Ram)
    (password : Array UInt8)
    (nonempty : 0 < password.size)
    (address index count : Nat) :
    Ram :=
  match count with
  | 0 => ram
  | rest + 1 =>
      have bound : index % password.size < password.size := Nat.mod_lt index nonempty
      let key := password[index % password.size]
      (ram.setByte address (ram.byte address ^^^ key)).encryptFrom
        password nonempty (address + 1) (index + 1) rest

/-- Combine `count` bytes with a password; an empty one changes nothing. -/
def Ram.encrypt
    (ram : Ram)
    (address count : Nat)
    (password : List UInt8) :
    Ram :=
  if nonempty : 0 < password.toArray.size then
    ram.encryptFrom password.toArray nonempty address 0 count
  else
    ram

end Handheld
