import Handheld.Proofs.Screen.BitRow

namespace Handheld

/-!
# Shifted rows

Shifting moves a row of bytes as one string of bits. A place of the shifted row
shows the bit that far to its right, or to its left for a negative count, and
nothing where there is no such place in the row. Shifting back therefore restores
every bit but those that had left the row.
-/

namespace Bits

/-- Whether a row has a place; places to the left of a row are negative. -/
def HasPlace
    (row : List UInt8)
    (place : Int) :
    Prop :=
  0 ≤ place ∧ place < 8 * row.length

instance (row : List UInt8) (place : Int) : Decidable (HasPlace row place) :=
  inferInstanceAs (Decidable (_ ∧ _))

section Shifts

variable
  {count : Int}
  (right : -7 ≤ count)
  (left : count ≤ 7)
  (row : List UInt8)
  {index : Nat}
  (inside : index < 8 * row.length)

include right left inside

/-- A place shows the bit so far away from it; from outside of the row nothing comes in. -/
theorem bit_shift_eq_ite :
    bit (shift count row) index =
      if HasPlace row (index + count) then bit row (index + count).toNat else false := by
  rw [bit_shift (by omega) (by omega) row inside]
  by_cases reached : HasPlace row (index + count)
  · rw [if_pos reached, if_pos reached.1]
  · rw [if_neg reached]
    split
    case isTrue notLeft =>
      -- The place is not missed on the left, so it lies behind the end of the row.
      have past : 8 * row.length ≤ (index + count).toNat := by
        unfold HasPlace at reached
        omega
      exact bit_of_ge past
    case isFalse => rfl

/-- Shifting back restores the bits that were still in the row, and no others. -/
theorem bit_shift_shift :
    bit (shift (-count) (shift count row)) index =
      if HasPlace row (index - count) then bit row index else false := by
  have long : (shift count row).length = row.length := length_shift count row
  have same : HasPlace (shift count row) (index + -count) = HasPlace row (index - count) := by
    rw [HasPlace, long]
    rfl
  rw [bit_shift_eq_ite (by omega) (by omega) _ (by rwa [long])]
  simp only [same]
  by_cases stayed : HasPlace row (index - count)
  · have near : (index + -count).toNat < 8 * row.length := by
      unfold HasPlace at stayed
      omega
    have back : ((index + -count).toNat : Int) + count = index := by
      unfold HasPlace at stayed
      omega
    have own : HasPlace row index := ⟨Int.natCast_nonneg index, by omega⟩
    rw [if_pos stayed, if_pos stayed, bit_shift_eq_ite right left row near, back, if_pos own,
      Int.toNat_natCast]
  · rw [if_neg stayed, if_neg stayed]

end Shifts

/--
Shifting a row shifts a string of bits.

Count the bits of the row from the most significant bit of its first byte on.
When the row is shifted by at most seven places, it keeps its length, and each of
its places then shows the bit as many places further on, or none if the row does
not have that place. After the shift back each place shows its own bit again,
unless this bit had been pushed out of the row.
-/
theorem shifts_string_of_bits
    (row : List UInt8)
    (count : Int)
    (right : -7 ≤ count)
    (left : count ≤ 7) :
    (shift count row).length = row.length ∧
      (∀ index < 8 * row.length,
        bit (shift count row) index =
          if HasPlace row (index + count) then bit row (index + count).toNat else false) ∧
      ∀ index < 8 * row.length,
        bit (shift (-count) (shift count row)) index =
          if HasPlace row (index - count) then bit row index else false :=
  ⟨length_shift count row,
    fun _ inside => bit_shift_eq_ite right left row inside,
    fun _ inside => bit_shift_shift right left row inside⟩

/-- Three places to the right and back, a row loses the three bits at its end. -/
theorem three_places_and_back :
    shift (-3) [0xff, 0x00, 0x8f] = [0x1f, 0xe0, 0x11] ∧
      shift 3 (shift (-3) [0xff, 0x00, 0x8f]) = [0xff, 0x00, 0x88] ∧
      bit (shift (-3) [0xff, 0x00, 0x8f]) 10 = bit [0xff, 0x00, 0x8f] 7 ∧
      bit (shift 3 (shift (-3) [0xff, 0x00, 0x8f])) 20 = bit [0xff, 0x00, 0x8f] 20 ∧
      bit (shift 3 (shift (-3) [0xff, 0x00, 0x8f])) 21 = false := by
  obtain ⟨-, moved, restored⟩ :=
    shifts_string_of_bits [0xff, 0x00, 0x8f] (-3) (by decide) (by decide)
  refine ⟨by decide, by decide, ?_, ?_, ?_⟩
  · exact moved 10 (by decide)
  · exact restored 20 (by decide)
  · exact restored 21 (by decide)

end Bits

end Handheld
