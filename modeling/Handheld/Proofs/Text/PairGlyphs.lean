import Handheld.Text.Font

namespace Handheld

/-!
# Glyphs of pairs of bytes

The character set has 94 columns, for trail bytes from `0xa1` to `0xfe`, and 88
rows, for lead bytes from `0xa1` to `0xa9` and from `0xb0` to `0xfe`. Each pair of
the set has a slot of its own in the full width font. The slot is found from one
number that is made of both bytes, and only this number is compared with the
font. A pair outside the set can therefore have the number of another pair, and
then it has the glyph of that one and not the blank glyph.
-/

namespace PairCode

/-- The lead byte of a pair, in the low half of its code. -/
def lead (code : UInt16) : Nat :=
  code.toNat % 256

/-- The trail byte of a pair, in the high half of its code. -/
def trail (code : UInt16) : Nat :=
  code.toNat / 256

/-- The code of a pair. -/
def ofBytes
    (lead trail : Nat) :
    UInt16 :=
  UInt16.ofNat (lead + 256 * trail)

/-- Whether a pair belongs to the character set. -/
def InSet (code : UInt16) : Prop :=
  (0xa1 ≤ lead code ∧ lead code ≤ 0xa9 ∨ 0xb0 ≤ lead code ∧ lead code ≤ 0xfe) ∧
    0xa1 ≤ trail code ∧ trail code ≤ 0xfe

/-- The row of a pair of the set. -/
def row (code : UInt16) : Nat :=
  if lead code ≤ 0xa9 then lead code - 0xa1 else lead code - 0xb0 + 9

/-- The column of a pair of the set. -/
def column (code : UInt16) : Nat :=
  trail code - 0xa1

/-- The slot of a pair of the set, row by row. -/
def slot (code : UInt16) : Nat :=
  94 * row code + column code

/-- Number of pairs of the set. -/
def slots : Nat :=
  94 * 88

/-- A pair with a negative number. -/
def Before (code : UInt16) : Prop :=
  lead code < 0xa0 ∨ lead code = 0xa0 ∧ trail code ≠ 0xff ∨
    lead code = 0xa1 ∧ trail code < 0xa1 ∨ lead code = 0xa2 ∧ trail code < 0x43

/-- A pair with a number past those of the set. -/
def Behind (code : UInt16) : Prop :=
  lead code = 0xfe ∧ trail code = 0xff ∨ lead code = 0xff ∧ 0xa1 ≤ trail code

instance (code : UInt16) : Decidable (InSet code) :=
  inferInstanceAs (Decidable (_ ∧ _))

instance (code : UInt16) : Decidable (Before code) :=
  inferInstanceAs (Decidable (_ ∨ _))

instance (code : UInt16) : Decidable (Behind code) :=
  inferInstanceAs (Decidable (_ ∨ _))

theorem trail_lt (code : UInt16) : trail code < 256 := by
  have bound := code.toNat_lt
  unfold trail
  omega

theorem lead_lt (code : UInt16) : lead code < 256 :=
  Nat.mod_lt _ (by decide)

section OfBytes

variable
  {first second : Nat}
  (smallFirst : first < 256)
  (smallSecond : second < 256)

include smallFirst

/-- The first byte leads the code of two bytes. -/
theorem lead_ofBytes : lead (ofBytes first second) = first := by
  rw [lead, ofBytes, UInt16.toNat_ofNat']
  omega

include smallSecond

/-- The second byte trails the code of two bytes. -/
theorem trail_ofBytes : trail (ofBytes first second) = second := by
  rw [trail, ofBytes, UInt16.toNat_ofNat']
  omega

end OfBytes

/-- A code is determined by its two bytes. -/
theorem eq_of_bytes
    {code other : UInt16}
    (sameLead : lead code = lead other)
    (sameTrail : trail code = trail other) :
    code = other := by
  apply UInt16.toNat_inj.mp
  unfold lead trail at *
  omega

/-- Pairs of the set have slots of their own. -/
theorem eq_of_slot
    {code other : UInt16}
    (inSet : InSet code)
    (otherInSet : InSet other)
    (same : slot code = slot other) :
    code = other := by
  unfold InSet at inSet otherInSet
  unfold slot row column at same
  apply eq_of_bytes
  · split at same <;> split at same <;> omega
  · split at same <;> split at same <;> omega

/-- The pair of the set that a slot belongs to. -/
def ofSlot (number : Nat) : UInt16 :=
  ofBytes (if number / 94 < 9 then number / 94 + 0xa1 else number / 94 - 9 + 0xb0)
    (number % 94 + 0xa1)

/-- The bytes of the code that a slot belongs to. -/
theorem bytes_ofSlot
    {number : Nat}
    (inside : number < slots) :
    lead (ofSlot number) =
        (if number / 94 < 9 then number / 94 + 0xa1 else number / 94 - 9 + 0xb0) ∧
      trail (ofSlot number) = number % 94 + 0xa1 := by
  unfold slots at inside
  have smallLead :
      (if number / 94 < 9 then number / 94 + 0xa1 else number / 94 - 9 + 0xb0) < 256 := by
    split <;> omega
  have smallTrail : number % 94 + 0xa1 < 256 := by omega
  exact ⟨lead_ofBytes smallLead, trail_ofBytes smallLead smallTrail⟩

/-- Every slot belongs to a code in the set. -/
theorem inSet_ofSlot
    {number : Nat}
    (inside : number < slots) :
    InSet (ofSlot number) := by
  obtain ⟨leads, trails⟩ := bytes_ofSlot inside
  unfold slots at inside
  unfold InSet
  rw [leads, trails]
  split <;> omega

/-- The code that a slot belongs to has that slot. -/
theorem slot_ofSlot
    {number : Nat}
    (inside : number < slots) :
    slot (ofSlot number) = number := by
  obtain ⟨leads, trails⟩ := bytes_ofSlot inside
  unfold slots at inside
  unfold slot row column
  rw [leads, trails]
  split <;> split <;> omega

/-- The number by which the glyph of a pair is found, in terms of its bytes. -/
def number (code : UInt16) : Int :=
  (if lead code ≤ 0xa9 then (lead code : Int) - 0xa1 else lead code - 0xa7) * 94 +
    (trail code - 0xa1)

/-- A pair of the set is not a single byte. -/
theorem pair_of_inSet
    {code : UInt16}
    (inSet : InSet code) :
    0xff < code := by
  have trails := inSet.2.1
  unfold trail at trails
  apply UInt16.lt_iff_toNat_lt.mpr
  have last : (0xff : UInt16).toNat = 255 := rfl
  omega

/-- In the set, the number of a code is its slot. -/
theorem number_of_inSet
    {code : UInt16}
    (inSet : InSet code) :
    number code = slot code := by
  unfold InSet at inSet
  unfold number slot row column
  split <;> omega

/-- Numbers are negative exactly before the set. -/
theorem number_neg_iff (code : UInt16) : number code < 0 ↔ Before code := by
  have leads := lead_lt code
  have trails := trail_lt code
  unfold number Before
  split <;> omega

/-- Numbers go past the slots exactly behind the set. -/
theorem slots_le_number_iff (code : UInt16) : slots ≤ number code ↔ Behind code := by
  have leads := lead_lt code
  have trails := trail_lt code
  unfold number slots Behind
  split <;> omega

/-- The number that the font computes is that of the code. -/
theorem pairNumber_eq (code : UInt16) :
    FontTable.pairNumber code.toUInt8 (code >>> 8).toUInt8 = number code := by
  have low : code.toUInt8.toNat = lead code := code.toNat_toUInt8
  have high : (code >>> 8).toUInt8.toNat = trail code := by
    have small := trail_lt code
    have eight : (8 : UInt16).toNat = 8 := rfl
    rw [UInt16.toNat_toUInt8, UInt16.toNat_shiftRight, eight, Nat.shiftRight_eq_div_pow]
    exact Nat.mod_eq_of_lt small
  unfold FontTable.pairNumber number
  rw [low, high]
  dsimp only
  split <;> split <;> omega

end PairCode

namespace FontSet

/-- The full width font of a size. -/
def full
    (fonts : FontSet) :
    FontSize → Array UInt8
  | .large => fonts.largeFull
  | .small => fonts.smallFull

/-- The place of a slot of the full width font; of the blank glyph if the font ends before it. -/
def slotPlace
    (fonts : FontSet)
    (size : FontSize)
    (slot : Nat) :
    Nat :=
  if slot * size.fullGlyphBytes < (fonts.full size).size then
    (FontTable.ofSet fonts).fullStart size + slot * size.fullGlyphBytes
  else
    0

end FontSet

namespace FontTable

/-- The region of the full glyphs is as long as their file. -/
theorem fullEnd_sub_fullStart
    (fonts : FontSet)
    (size : FontSize) :
    (ofSet fonts).fullEnd size - (ofSet fonts).fullStart size = (fonts.full size).size := by
  cases size with
  | large =>
      simp only [fullEnd, fullStart, ofSet, FontSet.full]
      omega
  | small =>
      simp only [fullEnd, fullStart, ofSet, FontSet.full, FontTable.size, Array.size_append]
      omega

/-- Places before the fonts hold the blank glyph. -/
theorem byte_blank
    (fonts : FontSet)
    {place : Nat}
    (inside : place < FontSize.large.fullGlyphBytes) :
    (ofSet fonts).byte place = 0 := by
  have first : place < (Array.replicate FontSize.large.fullGlyphBytes (0 : UInt8)).size := by
    rw [Array.size_replicate]
    exact inside
  have found :
      (ofSet fonts).glyphs[place]? =
        (Array.replicate FontSize.large.fullGlyphBytes (0 : UInt8))[place]? := by
    simp only [ofSet, Array.append_assoc]
    exact Array.getElem?_append_left first
  rw [byte, Array.getD_eq_getD_getElem?, found, Array.getElem?_replicate, if_pos inside,
    Option.getD_some]

/-- The full width font of a size lies in the table from its start on. -/
theorem byte_fullStart
    (fonts : FontSet)
    (size : FontSize)
    {place : Nat}
    (inside : place < (fonts.full size).size) :
    (ofSet fonts).byte ((ofSet fonts).fullStart size + place) = (fonts.full size).getD place 0 := by
  rw [byte, Array.getD_eq_getD_getElem?, Array.getD_eq_getD_getElem?]
  congr 1
  cases size with
  | large =>
      simp only [ofSet, fullStart, FontSet.full] at inside ⊢
      rw [Array.getElem?_append_left (by simp only [Array.size_append]; omega),
        Array.getElem?_append_right (by simp only [Array.size_append]; omega)]
      congr 1
      simp only [Array.size_append]
      omega
  | small =>
      simp only [ofSet, fullStart, FontSet.full] at inside ⊢
      rw [Array.getElem?_append_right (by simp only [Array.size_append]; omega)]
      congr 1
      simp only [Array.size_append]
      omega

/-- A pair has the glyph of the slot with its number, and the blank one if there is none. -/
theorem glyph_of_pair
    {code : UInt16}
    (pair : 0xff < code)
    (fonts : FontSet)
    (size : FontSize) :
    (ofSet fonts).glyph code size =
      if PairCode.number code < 0 then 0
      else fonts.slotPlace size (PairCode.number code).toNat := by
  have notSingle : ¬ code ≤ 0xff := UInt16.not_le.mpr pair
  rw [glyph, if_neg notSingle, PairCode.pairNumber_eq]
  dsimp only
  rw [fullEnd_sub_fullStart]
  by_cases negative : PairCode.number code < 0
  · have positive : (0 : Int) < size.fullGlyphBytes := by
      cases size <;> decide
    have before := Int.mul_neg_of_neg_of_pos negative positive
    rw [if_pos negative, if_neg (by omega)]
  · obtain ⟨number, counted⟩ := Int.eq_ofNat_of_zero_le (Int.not_lt.mp negative)
    have offset :
        PairCode.number code * size.fullGlyphBytes = (number * size.fullGlyphBytes : Nat) := by
      rw [counted, Int.natCast_mul]
    rw [if_neg negative, offset, counted, Int.toNat_natCast, Int.toNat_natCast,
      FontSet.slotPlace]
    by_cases inFont : number * size.fullGlyphBytes < (fonts.full size).size
    · rw [if_pos inFont, if_pos (by omega)]
    · rw [if_neg inFont, if_neg (by omega)]

/-- A code in the set has the glyph of its slot. -/
theorem glyph_of_inSet
    {code : UInt16}
    (inSet : PairCode.InSet code)
    (fonts : FontSet)
    (size : FontSize) :
    (ofSet fonts).glyph code size = fonts.slotPlace size (PairCode.slot code) := by
  rw [glyph_of_pair (PairCode.pair_of_inSet inSet), PairCode.number_of_inSet inSet,
    if_neg (by omega), Int.toNat_natCast]

/-- A font that has no more than the slots of the set has none behind them. -/
theorem slotPlace_of_slots_le
    {fonts : FontSet}
    {size : FontSize}
    {slot : Nat}
    (short : (fonts.full size).size ≤ PairCode.slots * size.fullGlyphBytes)
    (behind : PairCode.slots ≤ slot) :
    fonts.slotPlace size slot = 0 := by
  have past : PairCode.slots * size.fullGlyphBytes ≤ slot * size.fullGlyphBytes :=
    Nat.mul_le_mul_right _ behind
  rw [FontSet.slotPlace, if_neg (by omega)]

/--
What glyph a pair of bytes has.

A pair of the character set has the glyph in its slot of the full width font, or
the blank glyph if the font ends before the slot, and no two pairs of the set
have the same slot. Of the other pairs only those that come before the set always
have the blank glyph; those behind it have it in every font that has no more than
the slots of the set. All that are left have the glyph of some pair of the set,
in every font of either size.
-/
theorem pair_glyphs_exact
    (code : UInt16)
    (pair : 0xff < code) :
    (PairCode.InSet code →
      (∀ fonts size,
        (ofSet fonts).glyph code size = fonts.slotPlace size (PairCode.slot code)) ∧
      (∀ other, PairCode.InSet other → PairCode.slot other = PairCode.slot code → other = code)) ∧
    (PairCode.Before code →
      ∀ fonts size, (ofSet fonts).glyph code size = 0) ∧
    (PairCode.Behind code →
      ∀ fonts size,
        (fonts.full size).size ≤ PairCode.slots * size.fullGlyphBytes →
        (ofSet fonts).glyph code size = 0) ∧
    (¬ PairCode.InSet code → ¬ PairCode.Before code → ¬ PairCode.Behind code →
      ∃ other, PairCode.InSet other ∧ other ≠ code ∧
        ∀ fonts size, (ofSet fonts).glyph code size = (ofSet fonts).glyph other size) ∧
    (∀ fonts size,
      (∀ place < size.fullGlyphBytes, (ofSet fonts).byte place = 0) ∧
      (∀ place < (fonts.full size).size,
        (ofSet fonts).byte ((ofSet fonts).fullStart size + place) =
          (fonts.full size).getD place 0)) := by
  refine ⟨?_, ?_, ?_, ?_, ?_⟩
  · intro inSet
    exact ⟨glyph_of_inSet inSet, fun other there same => PairCode.eq_of_slot there inSet same⟩
  · intro before fonts size
    rw [glyph_of_pair pair, if_pos ((PairCode.number_neg_iff code).mpr before)]
  · intro behind fonts size short
    have past := (PairCode.slots_le_number_iff code).mpr behind
    rw [glyph_of_pair pair, if_neg (by omega), slotPlace_of_slots_le short (by omega)]
  · intro outside notBefore notBehind
    -- The number is that of a slot, and the pair of the set in this slot has the same number.
    have nonneg := mt (PairCode.number_neg_iff code).mp notBefore
    have inside := mt (PairCode.slots_le_number_iff code).mp notBehind
    have numbered : (PairCode.number code).toNat < PairCode.slots := by omega
    have inSet := PairCode.inSet_ofSlot numbered
    refine ⟨PairCode.ofSlot (PairCode.number code).toNat, inSet, ?_, ?_⟩
    · intro same
      exact outside (same ▸ inSet)
    · intro fonts size
      rw [glyph_of_pair pair, if_neg nonneg, glyph_of_inSet inSet, PairCode.slot_ofSlot numbered]
  · intro fonts size
    have short : size.fullGlyphBytes ≤ FontSize.large.fullGlyphBytes := by
      cases size <;> decide
    exact ⟨fun place inside => byte_blank fonts (by omega),
      fun place inside => byte_fullStart fonts size inside⟩

/-- A trail byte below those of the set has the glyph of a pair in a row above. -/
theorem low_trail_takes_glyph :
    ¬ PairCode.InSet 0x41a3 ∧
      ∃ other, PairCode.InSet other ∧
        ∀ fonts size, (ofSet fonts).glyph 0x41a3 size = (ofSet fonts).glyph other size := by
  obtain ⟨-, -, -, stray, -⟩ := pair_glyphs_exact 0x41a3 (by decide)
  obtain ⟨other, inSet, -, same⟩ := stray (by decide) (by decide) (by decide)
  exact ⟨by decide, other, inSet, same⟩

/--
Two pairs outside the set that do not have the blank glyph: one with a trail byte
below those of the set, one with a lead byte between its two ranges of rows.
-/
theorem pairs_outside_set_not_blank :
    let fonts : FontSet := { largeFull := Array.replicate 9056 1 }
    (¬ PairCode.InSet 0x41a3 ∧ (ofSet fonts).glyph 0x41a3 .large = 32 + 92 * 32) ∧
      (¬ PairCode.InSet 0xa1aa ∧ (ofSet fonts).glyph 0xa1aa .large = 32 + 282 * 32) := by
  intro fonts
  have long : (fonts.full .large).size = 9056 := Array.size_replicate
  have start : (ofSet fonts).fullStart .large = 32 := Array.size_replicate
  have bytes : FontSize.large.fullGlyphBytes = 32 := rfl
  have lowTrail : PairCode.number 0x41a3 = 92 := by decide
  have betweenRows : PairCode.number 0xa1aa = 282 := by decide
  refine ⟨⟨by decide, ?_⟩, ⟨by decide, ?_⟩⟩
  · rw [glyph_of_pair (by decide), lowTrail, if_neg (by decide), FontSet.slotPlace, long, start,
      bytes, if_pos (by decide)]
    rfl
  · rw [glyph_of_pair (by decide), betweenRows, if_neg (by decide), FontSet.slotPlace, long, start,
      bytes, if_pos (by decide)]
    rfl

end FontTable

end Handheld
