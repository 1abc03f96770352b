import Handheld.Memory.Access

namespace Handheld

/-!
# Windows

A window is a part of main memory seen from its own start. It holds no bytes:
offset `o` of a window is address `start + o` of memory, whether or not it lies
before the window's end. Only scanning and whole-window operations look at the
size. Numbers are read and written byte by byte at their offsets; copying and
filling are left to the memory behind the window.
-/

/-- A part of main memory. -/
structure Window where
  start : Nat
  size : Nat
  deriving DecidableEq, Repr

/-- The address of an offset into the window. -/
def Window.address
    (window : Window)
    (offset : Nat) :
    Nat :=
  window.start + offset

/-- The byte at an offset. -/
def Window.byte
    (window : Window)
    (ram : Ram)
    (offset : Nat) :
    UInt8 :=
  ram.byte (window.address offset)

/-- Memory with the byte at an offset replaced. -/
def Window.setByte
    (window : Window)
    (ram : Ram)
    (offset : Nat)
    (value : UInt8) :
    Ram :=
  ram.setByte (window.address offset) value

/-- The number stored in `count` bytes from an offset on. -/
def Window.number
    (window : Window)
    (ram : Ram)
    (count offset : Nat) :
    Nat :=
  match count with
  | 0 => 0
  | rest + 1 => (window.byte ram offset).toNat + 256 * window.number ram rest (offset + 1)

/-- Memory with the low `count` bytes of a number stored from an offset on. -/
def Window.setNumber
    (window : Window)
    (ram : Ram)
    (count offset value : Nat) :
    Ram :=
  match count with
  | 0 => ram
  | rest + 1 =>
      window.setNumber (window.setByte ram offset (UInt8.ofNat value)) rest (offset + 1)
        (value / 256)

/-- The signed 16 bit value at an offset. -/
def Window.signed16
    (window : Window)
    (ram : Ram)
    (offset : Nat) :
    Word :=
  Word.ofSigned16 (window.number ram 2 offset)

/-- The signed 32 bit value at an offset. -/
def Window.signed32
    (window : Window)
    (ram : Ram)
    (offset : Nat) :
    Word :=
  Word.ofBits (window.number ram 4 offset)

/-- Memory with the low `count` bytes of a word stored from an offset on. -/
def Window.setWord
    (window : Window)
    (ram : Ram)
    (count offset : Nat)
    (value : Word) :
    Ram :=
  window.setNumber ram count offset value.bits

/-- Copy `count` bytes from one offset to another. -/
def Window.copy
    (window : Window)
    (ram : Ram)
    (dest source count : Nat) :
    Ram :=
  ram.copy (window.address dest) (window.address source) count

/-- Memory with `count` bytes from an offset on set to `value`. -/
def Window.fill
    (window : Window)
    (ram : Ram)
    (offset count : Nat)
    (value : UInt8) :
    Ram :=
  ram.fill (window.address offset) count value

/-- The bytes of the window. -/
def Window.bytes
    (window : Window)
    (ram : Ram) :
    List UInt8 :=
  ram.bytes window.start window.size

/-- Memory with every byte of the window set to zero. -/
def Window.zero
    (window : Window)
    (ram : Ram) :
    Ram :=
  window.fill ram 0 window.size 0

/-- The string at an offset, whose NUL must come before the window's end. -/
def Window.string?
    (window : Window)
    (ram : Ram)
    (offset : Nat) :
    Option (List UInt8) :=
  ram.stringBefore? (window.address offset) (window.address window.size)

end Handheld
