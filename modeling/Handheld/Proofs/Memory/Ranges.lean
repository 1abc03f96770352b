import Handheld.Proofs.Memory.LittleEndian

namespace Handheld

/-!
# Ranges of memory, byte by byte

What is read from memory after a range of it was written, filled or moved, as
long as the range does not go around the address space.
-/

namespace Ram

/-- Inside the address space, a stored byte is read back at its own address only. -/
theorem byte_setByte_of_lt
    (ram : Ram)
    {written read : Nat}
    (value : UInt8)
    (insideWritten : written < capacity)
    (insideRead : read < capacity) :
    (ram.setByte written value).byte read = if written = read then value else ram.byte read := by
  rw [byte_setByte, Nat.mod_eq_of_lt insideWritten, Nat.mod_eq_of_lt insideRead]

/-- A filled range holds the value, and the rest what it held. -/
theorem byte_fill
    (ram : Ram)
    {address count read : Nat}
    (value : UInt8)
    (fits : address + count ≤ capacity)
    (inside : read < capacity) :
    (ram.fill address count value).byte read =
      if address ≤ read ∧ read < address + count then value else ram.byte read := by
  induction count generalizing ram address with
  | zero => rw [fill, if_neg (by omega)]
  | succ rest inductionHypothesis =>
      rw [fill, inductionHypothesis _ (by omega),
        byte_setByte_of_lt ram value (by omega) inside]
      by_cases here : address = read
      · rw [if_pos here, if_neg (by omega), if_pos (by omega)]
      · rw [if_neg here]
        by_cases behind : address + 1 ≤ read ∧ read < address + 1 + rest
        · rw [if_pos behind, if_pos (by omega)]
        · rw [if_neg behind, if_neg (by omega)]

/-- A byte that is moved down is read before anything is written over it. -/
theorem byte_copyForward
    (ram : Ram)
    {dest source count read : Nat}
    (down : dest ≤ source)
    (fits : source + count ≤ capacity)
    (inside : read < capacity) :
    (ram.copyForward dest source count).byte read =
      if dest ≤ read ∧ read < dest + count then ram.byte (source + (read - dest))
      else ram.byte read := by
  induction count generalizing ram dest source with
  | zero => rw [copyForward, if_neg (by omega)]
  | succ rest inductionHypothesis =>
      rw [copyForward, inductionHypothesis _ (by omega) (by omega)]
      by_cases behind : dest + 1 ≤ read ∧ read < dest + 1 + rest
      · have sameSource : source + 1 + (read - (dest + 1)) = source + (read - dest) := by omega
        rw [if_pos behind, if_pos (by omega), sameSource,
          byte_setByte_of_lt ram _ (by omega) (by omega), if_neg (by omega)]
      · rw [if_neg behind, byte_setByte_of_lt ram _ (by omega) inside]
        by_cases here : dest = read
        · rw [if_pos here, if_pos (by omega), here, Nat.sub_self, Nat.add_zero]
        · rw [if_neg here, if_neg (by omega)]

/-- A byte that is moved up is read before anything is written over it. -/
theorem byte_copyBackward
    (ram : Ram)
    {dest source count read : Nat}
    (up : source ≤ dest)
    (fits : dest + count ≤ capacity)
    (inside : read < capacity) :
    (ram.copyBackward dest source count).byte read =
      if dest ≤ read ∧ read < dest + count then ram.byte (source + (read - dest))
      else ram.byte read := by
  induction count generalizing ram with
  | zero => rw [copyBackward, if_neg (by omega)]
  | succ rest inductionHypothesis =>
      rw [copyBackward, inductionHypothesis _ (by omega)]
      by_cases below : dest ≤ read ∧ read < dest + rest
      · -- What is still to be read lies below the only byte written so far.
        rw [if_pos below, if_pos (by omega), byte_setByte_of_lt ram _ (by omega) (by omega),
          if_neg (by omega)]
      · rw [if_neg below, byte_setByte_of_lt ram _ (by omega) inside]
        by_cases last : dest + rest = read
        · rw [if_pos last, if_pos (by omega), ← last, Nat.add_sub_cancel_left]
        · rw [if_neg last, if_neg (by omega)]

/-- Bytes are moved as they were, in whichever direction and however far the ranges overlap. -/
theorem byte_copy
    (ram : Ram)
    {dest source count read : Nat}
    (destFits : dest + count ≤ capacity)
    (sourceFits : source + count ≤ capacity)
    (inside : read < capacity) :
    (ram.copy dest source count).byte read =
      if dest ≤ read ∧ read < dest + count then ram.byte (source + (read - dest))
      else ram.byte read := by
  unfold copy
  split
  case isTrue down => exact byte_copyForward ram down sourceFits inside
  case isFalse up => exact byte_copyBackward ram (Nat.le_of_not_le up) destFits inside

/-- The bytes of a range stand in the order of their addresses. -/
theorem getElem?_bytes
    {ram : Ram}
    {address count offset : Nat}
    (near : offset < count) :
    (ram.bytes address count)[offset]? = some (ram.byte (address + offset)) := by
  simp [bytes, near]

/-- The bytes of a range are those of its parts. -/
theorem bytes_add
    (ram : Ram)
    (address first second : Nat) :
    ram.bytes address (first + second) =
      ram.bytes address first ++ ram.bytes (address + first) second := by
  rw [bytes, bytes, bytes, ← List.map_append, List.range'_append_1]

/-- Every byte outside a range is the same in two memories. -/
def SameOutside
    (start size : Nat)
    (before after : Ram) :
    Prop :=
  ∀ address,
    address < capacity →
    address < start ∨ start + size ≤ address →
    after.byte address = before.byte address

namespace SameOutside

theorem refl
    (start size : Nat)
    (ram : Ram) :
    SameOutside start size ram ram :=
  fun _ _ _ => rfl

/-- What stays the same through two changes stays the same. -/
theorem trans
    {start size : Nat}
    {before middle after : Ram}
    (earlier : SameOutside start size before middle)
    (later : SameOutside start size middle after) :
    SameOutside start size before after := by
  intro address inside outside
  rw [later address inside outside, earlier address inside outside]

/-- Two memories are the same outside a range both ways. -/
theorem symm
    {start size : Nat}
    {before after : Ram}
    (same : SameOutside start size before after) :
    SameOutside start size after before := by
  intro address inside outside
  rw [same address inside outside]

/-- A range that lies apart reads the same. -/
theorem bytes_eq
    {start size address length : Nat}
    {before after : Ram}
    (same : SameOutside start size before after)
    (inside : address + length ≤ capacity)
    (apart : address + length ≤ start ∨ start + size ≤ address) :
    after.bytes address length = before.bytes address length := by
  unfold bytes
  apply List.map_congr_left
  intro place member
  obtain ⟨offset, near, rfl⟩ := List.mem_range'.mp member
  exact same _ (by omega) (by omega)

end SameOutside

/-- A byte stored in a range changes nothing outside it. -/
theorem sameOutside_setByte
    (ram : Ram)
    {start size address : Nat}
    (value : UInt8)
    (fits : start + size ≤ capacity)
    (above : start ≤ address)
    (below : address < start + size) :
    SameOutside start size ram (ram.setByte address value) := by
  intro read inside outside
  have written : address % 0x10000 = address := Nat.mod_eq_of_lt (Nat.lt_of_lt_of_le below fits)
  have wanted : read % 0x10000 = read := Nat.mod_eq_of_lt inside
  rw [byte_setByte, written, wanted, if_neg (by omega)]

/-- A write that fits a range changes nothing outside it. -/
theorem sameOutside_write
    (ram : Ram)
    {start size : Nat}
    {bytes : List UInt8}
    (fits : start + size ≤ capacity)
    (short : bytes.length ≤ size) :
    SameOutside start size ram (ram.write start bytes) := by
  intro read inside outside
  exact byte_write_of_outside inside (by omega) (by omega)

/-- A memory that has some bytes in a range and is as before around it has had them written. -/
theorem eq_write
    {ram after : Ram}
    {address size : Nat}
    {bytes : List UInt8}
    (length : bytes.length = size)
    (fits : address + size ≤ capacity)
    (reads : ∀ index < size, bytes[index]? = some (after.byte (address + index)))
    (outside : SameOutside address size ram after) :
    after = ram.write address bytes := by
  subst length
  apply ext_byte
  intro read inside
  by_cases within : address ≤ read ∧ read < address + bytes.length
  · have place : distance address read = read - address := by
      unfold distance capacity at *
      omega
    have here := reads (read - address) (by omega)
    rw [Nat.add_sub_cancel' within.1] at here
    rw [byte_write _ _ _ _ (by omega), place, here]
    rfl
  · rw [outside read inside (by omega), byte_write_of_outside inside fits (by omega)]

/-- A range is written from its start on, and behind that it stays as it was. -/
theorem bytes_write_add
    (ram : Ram)
    {address room : Nat}
    {bytes : List UInt8}
    (fits : address + (bytes.length + room) ≤ capacity) :
    (ram.write address bytes).bytes address (bytes.length + room) =
      bytes ++ ram.bytes (address + bytes.length) room := by
  have same : SameOutside address bytes.length ram (ram.write address bytes) :=
    sameOutside_write ram (by omega) Nat.le.refl
  rw [bytes_add, bytes_write (by omega), same.bytes_eq (by omega) (.inr Nat.le.refl)]

end Ram

end Handheld
