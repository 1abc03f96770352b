import Handheld.Screen.Blit

namespace Handheld

/-!
# The bits of a row of bytes

A row of bytes is read as one string of bits, numbered from the left. Past the
end of the row all bits are clear. Shifting a row by fewer than eight places
moves every bit by that many, and the masks that a block keeps are the bits on
its two sides.
-/

namespace Bits

/-- The bit of a byte at a place, counted from the left. -/
def bitAt
    (byte : UInt8)
    (place : Nat) :
    Bool :=
  byte.toBitVec.getMsbD place

/-- Past its eighth bit a byte has none. -/
theorem bitAt_of_ge
    (byte : UInt8)
    {place : Nat}
    (outside : 8 ≤ place) :
    bitAt byte place = false :=
  BitVec.getMsbD_of_ge _ _ outside

@[simp] theorem bitAt_zero (place : Nat) : bitAt 0 place = false := by
  simp [bitAt]

@[simp] theorem bitAt_and
    (left right : UInt8)
    (place : Nat) :
    bitAt (left &&& right) place = (bitAt left place && bitAt right place) := by
  simp [bitAt]

@[simp] theorem bitAt_or
    (left right : UInt8)
    (place : Nat) :
    bitAt (left ||| right) place = (bitAt left place || bitAt right place) := by
  simp [bitAt]

@[simp] theorem bitAt_xor
    (left right : UInt8)
    (place : Nat) :
    bitAt (left ^^^ right) place = (bitAt left place ^^ bitAt right place) := by
  simp [bitAt]

theorem bitAt_not
    (byte : UInt8)
    {place : Nat}
    (inside : place < 8) :
    bitAt (~~~byte) place = !bitAt byte place := by
  simp [bitAt, inside]

/-- Shifted left, each bit is the one that many places further right. -/
theorem bitAt_shiftLeft
    (byte : UInt8)
    {count : Nat}
    (small : count < 8)
    (place : Nat) :
    bitAt (byte <<< UInt8.ofNat count) place = bitAt byte (place + count) := by
  have low : (UInt8.ofNat count).toNat = count := by
    rw [UInt8.toNat_ofNat']
    omega
  simp [bitAt, UInt8.toBitVec_shiftLeft, low, Nat.mod_eq_of_lt small]

/-- Shifted right, each bit is the one that many places further left, behind clear ones. -/
theorem bitAt_shiftRight
    (byte : UInt8)
    {count place : Nat}
    (small : count < 8)
    (inside : place < 8) :
    bitAt (byte >>> UInt8.ofNat count) place =
      if place < count then false else bitAt byte (place - count) := by
  have low : (UInt8.ofNat count).toNat = count := by
    rw [UInt8.toNat_ofNat']
    omega
  by_cases before : place < count
  · simp [bitAt, UInt8.toBitVec_shiftRight, BitVec.getMsbD_ushiftRight, low,
      Nat.mod_eq_of_lt small, before]
  · simp [bitAt, UInt8.toBitVec_shiftRight, BitVec.getMsbD_ushiftRight, low,
      Nat.mod_eq_of_lt small, before, inside]

theorem bitAt_full
    {place : Nat}
    (inside : place < 8) :
    bitAt 0xff place = true := by
  have all : ∀ place : Fin 8, bitAt 0xff place = true := by decide
  exact all ⟨place, inside⟩

/-- The leftmost bits of a byte are set in their mask. -/
theorem bitAt_leftmost
    {count place : Nat}
    (small : count < 8)
    (inside : place < 8) :
    bitAt (leftmost count) place = decide (place < count) := by
  rw [leftmost, bitAt_not _ inside, bitAt_shiftRight _ small inside]
  by_cases before : place < count
  · simp [before]
  · have full : bitAt 0xff (place - count) = true := bitAt_full (by omega)
    simp [before, full]

/-- The rightmost bits of a byte are set in their mask. -/
theorem bitAt_rightmost
    {count place : Nat}
    (small : count < 8)
    (inside : place < 8) :
    bitAt (rightmost count) place = decide (8 - count ≤ place) := by
  rw [rightmost, bitAt_not _ inside, bitAt_shiftLeft _ small]
  by_cases reached : 8 - count ≤ place
  · have beyond : bitAt 0xff (place + count) = false := bitAt_of_ge _ (by omega)
    simp [reached, beyond]
  · have full : bitAt 0xff (place + count) = true := bitAt_full (by omega)
    simp [reached, full]

/-- The masks for all counts, as tables. -/
example :
    (List.range 8).map leftmost = [0x00, 0x80, 0xc0, 0xe0, 0xf0, 0xf8, 0xfc, 0xfe] ∧
      (List.range 8).map rightmost = [0x00, 0x01, 0x03, 0x07, 0x0f, 0x1f, 0x3f, 0x7f] := by
  decide

/-- A row keeps its length when it is shifted left. -/
theorem length_shiftLeft
    (count : Nat)
    (row : List UInt8) :
    (shiftLeft count row).length = row.length := by
  induction row with
  | nil => rfl
  | cons byte rest inductionHypothesis =>
      rw [shiftLeft, List.length_cons, List.length_cons, inductionHypothesis]

/-- A row keeps its length when it is shifted right. -/
theorem length_shiftRight
    (count : Nat)
    (incoming : UInt8)
    (row : List UInt8) :
    (shiftRight count incoming row).length = row.length := by
  induction row generalizing incoming with
  | nil => rfl
  | cons byte rest inductionHypothesis =>
      rw [shiftRight, List.length_cons, List.length_cons, inductionHypothesis]

/-- A row of bits keeps its length when it moves. -/
theorem length_shift
    (count : Int)
    (row : List UInt8) :
    (shift count row).length = row.length := by
  unfold shift
  split
  · exact length_shiftLeft _ row
  · split
    · exact length_shiftRight _ _ row
    · rfl

/-- The bit of a row at an index, counted from the left. -/
def bit
    (row : List UInt8)
    (index : Nat) :
    Bool :=
  bitAt (row.getD (index / 8) 0) (index % 8)

theorem bit_nil (index : Nat) : bit [] index = false := by
  simp [bit]

/-- Past the end of a row there are no bits. -/
theorem bit_of_ge
    {row : List UInt8}
    {index : Nat}
    (past : 8 * row.length ≤ index) :
    bit row index = false := by
  have missing : row[index / 8]? = none := List.getElem?_eq_none (by omega)
  rw [bit, List.getD_eq_getElem?_getD, missing, Option.getD_none, bitAt_zero]

/-- The first eight bits of a row are those of its first byte. -/
theorem bit_cons_of_lt
    (byte : UInt8)
    (rest : List UInt8)
    {index : Nat}
    (first : index < 8) :
    bit (byte :: rest) index = bitAt byte index := by
  simp [bit, Nat.div_eq_of_lt first, Nat.mod_eq_of_lt first]

/-- The bits behind the first byte are those of the rest. -/
theorem bit_cons_of_le
    (byte : UInt8)
    (rest : List UInt8)
    {index : Nat}
    (later : 8 ≤ index) :
    bit (byte :: rest) index = bit rest (index - 8) := by
  have quotient : index / 8 = (index - 8) / 8 + 1 := by omega
  have remainder : index % 8 = (index - 8) % 8 := by omega
  simp only [bit, quotient, remainder, List.getD_cons_succ]

/-- What a byte takes over from the row behind it when the row moves left. -/
theorem bitAt_handedLeft
    {count place : Nat}
    (positive : 0 < count)
    (small : count < 8)
    (inside : place < 8)
    (row : List UInt8) :
    bitAt (handedLeft count row) place =
      if place + count < 8 then false else bit row (place + count - 8) := by
  cases row with
  | nil => simp [handedLeft, bit_nil]
  | cons byte rest =>
      rw [handedLeft, bitAt_shiftRight _ (by omega) inside]
      by_cases own : place + count < 8
      · rw [if_pos own, if_pos (by omega)]
      · have same : place - (8 - count) = place + count - 8 := by omega
        rw [if_neg own, if_neg (by omega), same, bitAt_and,
          bitAt_leftmost small (by omega), bit_cons_of_lt _ _ (by omega),
          decide_eq_true (by omega), Bool.and_true]

/-- In a row shifted left, bits go from one byte into the one before. -/
theorem bit_shiftLeft
    {count : Nat}
    (positive : 0 < count)
    (small : count < 8)
    (row : List UInt8)
    (index : Nat) :
    bit (shiftLeft count row) index = bit row (index + count) := by
  induction row generalizing index with
  | nil => simp [shiftLeft, bit_nil]
  | cons byte rest inductionHypothesis =>
      rw [shiftLeft]
      by_cases first : index < 8
      · rw [bit_cons_of_lt _ _ first, bitAt_or, bitAt_shiftLeft _ small,
          bitAt_handedLeft positive small first]
        by_cases own : index + count < 8
        · rw [if_pos own, Bool.or_false, bit_cons_of_lt _ _ own]
        · rw [if_neg own, bitAt_of_ge _ (by omega), Bool.false_or,
            bit_cons_of_le _ _ (by omega)]
      · rw [bit_cons_of_le _ _ (by omega), inductionHypothesis,
          bit_cons_of_le _ _ (by omega)]
        congr 1
        omega

/-- The bits that a byte hands on when its row moves right. -/
theorem bitAt_handedRight
    (byte : UInt8)
    {count : Nat}
    (positive : 0 < count)
    (small : count < 8)
    (place : Nat) :
    bitAt ((byte &&& rightmost count) <<< UInt8.ofNat (8 - count)) place =
      if place < count then bitAt byte (place + 8 - count) else false := by
  have moved : place + (8 - count) = place + 8 - count := by omega
  rw [bitAt_shiftLeft _ (by omega), moved]
  by_cases handed : place < count
  · rw [if_pos handed, bitAt_and, bitAt_rightmost small (by omega),
      decide_eq_true (by omega), Bool.and_true]
  · rw [if_neg handed, bitAt_of_ge _ (by omega)]

/-- In a row shifted right, bits go from one byte into the next, and the first ones come in. -/
theorem bit_shiftRight
    {count : Nat}
    (positive : 0 < count)
    (small : count < 8)
    (row : List UInt8)
    {incoming : UInt8}
    (few : ∀ place, count ≤ place → bitAt incoming place = false)
    {index : Nat}
    (inside : index < 8 * row.length) :
    bit (shiftRight count incoming row) index =
      if index < count then bitAt incoming index else bit row (index - count) := by
  induction row generalizing incoming index with
  | nil => cases inside
  | cons byte rest inductionHypothesis =>
      rw [shiftRight]
      rw [List.length_cons] at inside
      by_cases first : index < 8
      · rw [bit_cons_of_lt _ _ first, bitAt_or, bitAt_shiftRight _ small first]
        by_cases taken : index < count
        · rw [if_pos taken, if_pos taken, Bool.false_or]
        · rw [if_neg taken, if_neg taken, few index (by omega), Bool.or_false,
            bit_cons_of_lt _ _ (by omega)]
      · have handed : ∀ place, count ≤ place →
            bitAt ((byte &&& rightmost count) <<< UInt8.ofNat (8 - count)) place = false := by
          intro place beyond
          rw [bitAt_handedRight byte positive small, if_neg (by omega)]
        rw [bit_cons_of_le _ _ (by omega), if_neg (by omega),
          inductionHypothesis handed (by omega)]
        by_cases fromHere : index - 8 < count
        · have same : index - 8 + 8 - count = index - count := by omega
          rw [if_pos fromHere, bitAt_handedRight byte positive small, if_pos fromHere, same,
            bit_cons_of_lt _ _ (by omega)]
        · rw [if_neg fromHere, bit_cons_of_le _ _ (by omega)]
          congr 1
          omega

/-- Shifting moves every bit; none comes from outside the row. -/
theorem bit_shift
    {count : Int}
    (right : -8 < count)
    (left : count < 8)
    (row : List UInt8)
    {index : Nat}
    (inside : index < 8 * row.length) :
    bit (shift count row) index =
      if 0 ≤ index + count then bit row (index + count).toNat else false := by
  unfold shift
  split
  · have same : (index + count).toNat = index + count.toNat := by omega
    rw [bit_shiftLeft (by omega) (by omega), if_pos (by omega), same]
  · split
    · rw [bit_shiftRight (by omega) (by omega) row (fun place _ => bitAt_zero place) inside]
      by_cases before : (index : Int) + count < 0
      · rw [if_pos (by omega), if_neg (by omega), bitAt_zero]
      · have same : (index + count).toNat = index - (-count).toNat := by omega
        rw [if_neg (by omega), if_pos (by omega), same]
    · have still : count = 0 := by omega
      subst still
      rw [if_pos (by omega)]
      congr 1

end Bits

/-- The kept bits of a row lie on both sides of what is drawn. -/
theorem bit_keptBits
    {size left right index : Nat}
    (smallLeft : left < 8)
    (smallRight : right < 8)
    (inside : index < 8 * size) :
    Bits.bit (keptBits size left right) index =
      (decide (index < left) || decide (8 * size ≤ index + right)) := by
  have byteInside : index / 8 < size := by omega
  have placeInside : index % 8 < 8 := Nat.mod_lt _ (by decide)
  have mask :
      (keptBits size left right).getD (index / 8) 0 =
        (if index / 8 = 0 then Bits.leftmost left else 0) |||
          (if index / 8 + 1 = size then Bits.rightmost right else 0) := by
    simp [keptBits, byteInside]
  have onLeft :
      Bits.bitAt (if index / 8 = 0 then Bits.leftmost left else 0) (index % 8) =
        decide (index < left) := by
    by_cases first : index / 8 = 0
    · have same : index % 8 = index := by omega
      rw [if_pos first, Bits.bitAt_leftmost smallLeft placeInside, same]
    · rw [if_neg first, Bits.bitAt_zero, decide_eq_false (by omega)]
  have onRight :
      Bits.bitAt (if index / 8 + 1 = size then Bits.rightmost right else 0) (index % 8) =
        decide (8 * size ≤ index + right) := by
    by_cases last : index / 8 + 1 = size
    · rw [if_pos last, Bits.bitAt_rightmost smallRight placeInside]
      apply decide_eq_decide.mpr
      omega
    · rw [if_neg last, Bits.bitAt_zero, decide_eq_false (by omega)]
  rw [Bits.bit, mask, Bits.bitAt_or, onLeft, onRight]

end Handheld
