import Handheld.Fault

namespace Handheld

/-!
# Main memory

The machine has one flat address space of 65536 bytes. Every address is reduced
modulo 65536 in `Ram.byte` and `Ram.setByte`, and all other operations are built
on these two, so the wrap-around is decided in one place.
-/

/-- Number of bytes of the address space. -/
abbrev Ram.capacity : Nat := 0x10000

/-- The main memory. -/
structure Ram where
  cells : Vector UInt8 0x10000

/-- Memory in which every byte is zero. -/
def Ram.blank : Ram :=
  { cells := Vector.replicate 0x10000 0 }

/-- The byte at an address, modulo the size of the address space. -/
def Ram.byte
    (ram : Ram)
    (address : Nat) :
    UInt8 :=
  ram.cells[address % 0x10000]

/-- Memory with one byte replaced. -/
def Ram.setByte
    (ram : Ram)
    (address : Nat)
    (value : UInt8) :
    Ram :=
  { cells := ram.cells.set (address % 0x10000) value }

/-- The written byte is read back at every address that names the same cell. -/
theorem Ram.byte_setByte
    (ram : Ram)
    (written read : Nat)
    (value : UInt8) :
    (ram.setByte written value).byte read =
      if written % 0x10000 = read % 0x10000 then value else ram.byte read := by
  simp only [Ram.byte, Ram.setByte, Vector.getElem_set]

/-- Two memories are the same when all their bytes are. -/
theorem Ram.ext_byte
    {left right : Ram}
    (agree : ∀ address, address < Ram.capacity → left.byte address = right.byte address) :
    left = right := by
  obtain ⟨leftCells⟩ := left
  obtain ⟨rightCells⟩ := right
  congr 1
  apply Vector.ext
  intro address bound
  have same := agree address bound
  simpa [Ram.byte, Nat.mod_eq_of_lt bound] using same

/-- The `length` bytes from `address` on. -/
def Ram.bytes
    (ram : Ram)
    (address length : Nat) :
    List UInt8 :=
  (List.range' address length).map ram.byte

/-- Memory with the listed bytes stored from `address` on. -/
def Ram.write
    (ram : Ram)
    (address : Nat) :
    List UInt8 → Ram
  | [] => ram
  | byte :: rest => (ram.setByte address byte).write (address + 1) rest

/-- How far an address lies behind a start, around the address space. -/
def Ram.distance
    (start address : Nat) :
    Nat :=
  (address + (0x10000 - start % 0x10000)) % 0x10000

/--
Behind the start of a write the listed bytes are read back, and past them what
was there, as long as the list does not go around the address space.
-/
theorem Ram.byte_write
    (ram : Ram)
    (address read : Nat)
    (bytes : List UInt8)
    (fits : bytes.length ≤ Ram.capacity) :
    (ram.write address bytes).byte read =
      bytes[Ram.distance address read]?.getD (ram.byte read) := by
  induction bytes generalizing ram address with
  | nil => rfl
  | cons byte rest inductionHypothesis =>
      have shorter : rest.length < Ram.capacity := fits
      rw [Ram.write, inductionHypothesis _ _ (Nat.le_of_lt shorter), Ram.byte_setByte]
      by_cases same : address % 0x10000 = read % 0x10000
      · have here : Ram.distance address read = 0 := by
          unfold Ram.distance
          omega
        have around : Ram.distance (address + 1) read = 0xffff := by
          unfold Ram.distance
          omega
        have past : rest.length ≤ 0xffff := Nat.le_of_lt_succ shorter
        rw [here, around, List.getElem?_eq_none past, if_pos same]
        rfl
      · have next : Ram.distance address read = Ram.distance (address + 1) read + 1 := by
          unfold Ram.distance
          omega
        rw [next, if_neg same, List.getElem?_cons_succ]

/-- Memory with `count` bytes from `address` on set to `value`. -/
def Ram.fill
    (ram : Ram)
    (address count : Nat)
    (value : UInt8) :
    Ram :=
  match count with
  | 0 => ram
  | rest + 1 => (ram.setByte address value).fill (address + 1) rest value

/-- Filling is writing the same byte over and over. -/
theorem Ram.fill_eq_write
    (ram : Ram)
    (address count : Nat)
    (value : UInt8) :
    ram.fill address count value = ram.write address (List.replicate count value) := by
  induction count generalizing ram address with
  | zero => rfl
  | succ rest inductionHypothesis =>
      rw [Ram.fill, inductionHypothesis, List.replicate_succ, Ram.write]

/-- Copy `count` bytes one after the other, lowest address first. -/
def Ram.copyForward
    (ram : Ram)
    (dest source count : Nat) :
    Ram :=
  match count with
  | 0 => ram
  | rest + 1 =>
      (ram.setByte dest (ram.byte source)).copyForward (dest + 1) (source + 1) rest

/-- Copy `count` bytes one after the other, highest address first. -/
def Ram.copyBackward
    (ram : Ram)
    (dest source count : Nat) :
    Ram :=
  match count with
  | 0 => ram
  | rest + 1 =>
      (ram.setByte (dest + rest) (ram.byte (source + rest))).copyBackward dest source rest

/--
Copy `count` bytes from `source` to `dest`, which may overlap.

The direction is chosen so that no byte is overwritten before it is read.
-/
def Ram.copy
    (ram : Ram)
    (dest source count : Nat) :
    Ram :=
  if dest ≤ source then
    ram.copyForward dest source count
  else
    ram.copyBackward dest source count

/-- The first address at or after `address`, of `count` candidates, holding `wanted` or NUL. -/
def Ram.find?
    (ram : Ram)
    (wanted : UInt8)
    (address count : Nat) :
    Option Nat :=
  match count with
  | 0 => none
  | rest + 1 =>
      if ram.byte address = wanted ∨ ram.byte address = 0 then
        some address
      else
        ram.find? wanted (address + 1) rest

/--
The string at `address` in a memory that ends at `limit`: the bytes before the
first NUL. There is none when no NUL comes before the limit.
-/
def Ram.stringBefore?
    (ram : Ram)
    (address limit : Nat) :
    Option (List UInt8) :=
  (ram.find? 0 address (limit - address)).map fun stop =>
    ram.bytes address (stop - address)

/-- The NUL-terminated string at `address`, without the NUL. -/
def Ram.string?
    (ram : Ram)
    (address : Nat) :
    Option (List UInt8) :=
  ram.stringBefore? address Ram.capacity

/-- Memory with a string and its NUL stored from `address` on. -/
def Ram.writeString
    (ram : Ram)
    (address : Nat)
    (text : List UInt8) :
    Ram :=
  ram.write address (text ++ [0])

/-- Refuse a range that ends past the address space. -/
def Ram.checkRange
    (address length : Nat) :
    Except Fault Unit :=
  if address + length > Ram.capacity then
    .error (.memoryRange address length)
  else
    .ok ()

end Handheld
