import Handheld.Proofs.Text.GlyphPixels

namespace Handheld

/-!
# Text is drawn character by character

Drawing a text puts the glyph of every character where its first byte stands in
the text, one half width glyph to the right for every byte before it. So a text
may be drawn in two parts, as long as it is not split within a character. The
coordinate stops at the greatest word, but a character that is held back by this
is far to the right of the screen.
-/

/--
Whether bytes end with a whole character. A byte from `0x80` on takes the next
one with it, so they may end in one that has none.
-/
def endsWhole : List UInt8 → Bool
  | [] => true
  | [byte] => byte < 0x80
  | lead :: next :: rest => if lead < 0x80 then endsWhole (next :: rest) else endsWhole rest

/-- A byte of its own is a character of one cell. -/
theorem cellCharacters_of_single
    (column : Nat)
    {lead : UInt8}
    (single : lead < 0x80)
    (rest : List UInt8) :
    cellCharacters column (lead :: rest) =
      { column := column, code := lead.toUInt16, width := 1 } ::
        cellCharacters (column + 1) rest := by
  cases rest with
  | nil => rfl
  | cons next rest => rw [cellCharacters, if_pos single]

/-- Behind whole characters a row of cells is read as if it started there. -/
theorem cellCharacters_append
    (column : Nat)
    {first : List UInt8}
    (whole : endsWhole first = true)
    (second : List UInt8) :
    cellCharacters column (first ++ second) =
      cellCharacters column first ++ cellCharacters (column + first.length) second := by
  fun_induction cellCharacters column first with
  | case1 column => rfl
  | case2 column byte =>
      have single : byte < 0x80 := of_decide_eq_true whole
      exact cellCharacters_of_single column single second
  | case3 column lead next rest single inductionHypothesis =>
      rw [endsWhole, if_pos single] at whole
      have later := inductionHypothesis whole
      have length :
          column + 1 + (next :: rest).length = column + (lead :: next :: rest).length := by
        simp only [List.length_cons]
        omega
      rw [length] at later
      rw [List.cons_append, cellCharacters_of_single column single, later, List.cons_append]
  | case4 column lead next rest double inductionHypothesis =>
      rw [endsWhole, if_neg double] at whole
      have later := inductionHypothesis whole
      have length : column + 2 + rest.length = column + (lead :: next :: rest).length := by
        simp only [List.length_cons]
        omega
      rw [length] at later
      rw [List.cons_append, List.cons_append, cellCharacters, if_neg double, later,
        List.cons_append]

/-- Places to the right of each other, none further than the greatest word. -/
theorem advanceRight_advanceRight
    (x : Int)
    (first second : Nat) :
    advanceRight (advanceRight x first) second = advanceRight x (first + second) := by
  unfold advanceRight
  omega

namespace Ram

/-- No byte of a range, which may go around the address space, lies in a bitmap. -/
def Apart
    (base address length : Nat) :
    Prop :=
  ∀ offset < length, ¬ ImageSource.memory.LiesIn base (address + offset)

namespace Apart

variable
  {base address length : Nat}

/-- The front of a text apart from the bitmap is apart from it. -/
theorem take
    {count : Nat}
    (apart : Apart base address length)
    (few : count ≤ length) :
    Apart base address count :=
  fun offset near => apart offset (by omega)

/-- The rest of a text apart from the bitmap is apart from it. -/
theorem drop
    {count rest : Nat}
    (apart : Apart base address length)
    (whole : count + rest = length) :
    Apart base (address + count) rest := by
  intro offset near
  rw [Nat.add_assoc]
  exact apart (count + offset) (by omega)

/-- Bytes apart from a bitmap are not drawn over. -/
theorem bytes_eq
    (apart : Apart base address length)
    {before after : Ram}
    (same : SameOutside base Screen.bitmapBytes before after) :
    after.bytes address length = before.bytes address length := by
  apply List.map_congr_left
  intro place member
  obtain ⟨offset, near, rfl⟩ := List.mem_range'.mp member
  rw [Nat.one_mul]
  exact ImageSource.steady_of_not_liesIn (apart offset near) before after same

end Apart

section Characters

variable
  (base : Nat)
  (x y : Int)
  (table : FontTable)
  (size : FontSize)
  (mode : BlitMode)

/-- Draw the characters of a row of cells, each at its own cell. -/
def drawCharacters
    (ram : Ram)
    (characters : List CellCharacter) :
    Ram :=
  characters.foldl
    (fun painted character =>
      painted.drawGlyph base (x + (size.glyphWidth * character.column : Nat)) y table
        character.code character.width size mode)
    ram

/-- Nothing is drawn to the right of the screen. -/
theorem drawGlyph_of_right
    (ram : Ram)
    {x : Int}
    (right : Screen.width ≤ x)
    (code : UInt16)
    (width : Nat) :
    ram.drawGlyph base x y table code width size mode = ram := by
  have missed : BlitPlan.make? x y (size.glyphWidth * width : Nat) size.glyphHeight = none := by
    rw [BlitPlan.make?, if_pos (.inr (.inr (.inl right)))]
  rw [drawGlyph, blit, missed]

/-- A glyph that is held back at the greatest word is not on the screen. -/
theorem drawGlyph_advanceRight
    (ram : Ram)
    (distance : Nat)
    (code : UInt16)
    (width : Nat) :
    ram.drawGlyph base (advanceRight x distance) y table code width size mode =
      ram.drawGlyph base (x + distance) y table code width size mode := by
  by_cases near : x + distance ≤ 2147483647
  · rw [advanceRight, Int.min_eq_left near]
  · have far : (Screen.width : Int) ≤ 2147483647 := by decide
    rw [advanceRight, Int.min_eq_right (by omega),
      drawGlyph_of_right base y table size mode ram far,
      drawGlyph_of_right base y table size mode ram (by omega)]

variable {base}

/-- A glyph changes the bitmap only. -/
theorem sameOutside_drawGlyph
    (fits : base + Screen.bitmapBytes ≤ capacity)
    (ram : Ram)
    (code : UInt16)
    (width : Nat) :
    SameOutside base Screen.bitmapBytes ram
      (ram.drawGlyph base x y table code width size mode) :=
  sameOutside_blit fits mode ram _ _ _ _ _ _

/-- Text that lies apart from the bitmap is drawn character by character. -/
theorem drawText_eq_drawCharacters
    (fits : base + Screen.bitmapBytes ≤ capacity)
    (ram : Ram)
    {start : Int}
    (address length column : Nat)
    (begins : start = advanceRight x (size.glyphWidth * column))
    (apart : Apart base address length) :
    ram.drawText base start y table address size mode length =
      ram.drawCharacters base x y table size mode
        (cellCharacters column (ram.bytes address length)) := by
  -- Along the text the column counts the bytes already drawn, so it fixes the coordinate.
  fun_induction drawText ram base start y table address size mode length generalizing column with
  | case1 ram start address => rfl
  | case2 ram start address =>
      rw [begins, drawGlyph_advanceRight]
      rfl
  | case3 ram start address length lead single inductionHypothesis =>
      have next :
          advanceRight start size.glyphWidth = advanceRight x (size.glyphWidth * (column + 1)) := by
        rw [begins, advanceRight_advanceRight, Nat.mul_add, Nat.mul_one]
      have beyond : Apart base (address + 1) (length + 1) := apart.drop (by omega)
      have kept := beyond.bytes_eq
        (sameOutside_drawGlyph start y table size mode fits ram lead.toUInt16 1)
      have cells :
          ram.bytes address length.succ.succ = lead :: ram.bytes (address + 1) (length + 1) :=
        bytes_succ ram address (length + 1)
      rw [inductionHypothesis (column + 1) next beyond, kept, begins, drawGlyph_advanceRight,
        cells, cellCharacters_of_single column single]
      rfl
  | case4 ram start address length lead double code inductionHypothesis =>
      have next :
          advanceRight start (size.glyphWidth * 2) =
            advanceRight x (size.glyphWidth * (column + 2)) := by
        rw [begins, advanceRight_advanceRight, Nat.mul_add]
      have beyond : Apart base (address + 2) length := apart.drop (by omega)
      have kept := beyond.bytes_eq (sameOutside_drawGlyph start y table size mode fits ram code 2)
      have cells :
          ram.bytes address length.succ.succ =
            lead :: ram.byte (address + 1) :: ram.bytes (address + 2) length := by
        rw [bytes_succ, bytes_succ]
      rw [inductionHypothesis (column + 2) next beyond, kept, begins, drawGlyph_advanceRight,
        cells, cellCharacters, if_neg double]
      rfl

end Characters

/--
Text may be drawn in parts.

A text whose first part ends with a whole character is drawn by drawing the first
part and then the second, a half width glyph to the right for every byte of the
first part but no further than the greatest word. Each character stands where its
first byte stands in the text, whatever comes before it. The text must lie apart
from the bitmap.
-/
theorem text_splits_at_characters
    (target : Target)
    (ram : Ram)
    (x y : Int)
    (table : FontTable)
    (size : FontSize)
    (mode : BlitMode)
    (address : Nat)
    (first second : List UInt8)
    (word : x ≤ 2147483647)
    (stored : ram.bytes address (first.length + second.length) = first ++ second)
    (apart : Apart target.base address (first.length + second.length))
    (whole : endsWhole first = true) :
    let drawn :=
      ram.drawText target.base x y table address size mode (first.length + second.length)
    drawn =
      (ram.drawText target.base x y table address size mode first.length).drawText
        target.base (advanceRight x (size.glyphWidth * first.length)) y table
        (address + first.length) size mode second.length ∧
    drawn =
      ram.drawCharacters target.base x y table size mode (cellCharacters 0 (first ++ second)) := by
  intro drawn
  have fits := target.base_le
  have start : x = advanceRight x (size.glyphWidth * 0) := by
    unfold advanceRight
    omega
  have parts := stored
  rw [bytes_add] at parts
  obtain ⟨firstStored, secondStored⟩ := List.append_inj parts (length_bytes _ _ _)
  have atOnce : drawn =
      ram.drawCharacters target.base x y table size mode (cellCharacters 0 (first ++ second)) := by
    rw [← stored]
    exact drawText_eq_drawCharacters x y table size mode fits ram address _ 0 start apart
  refine ⟨?_, atOnce⟩
  have onFirst := apart.take (Nat.le_add_right first.length second.length)
  have onSecond := apart.drop (rfl : first.length + second.length = _)
  have kept := onSecond.bytes_eq
    (sameOutside_drawText fits mode ram x y table address first.length size)
  rw [atOnce, cellCharacters_append 0 whole, Nat.zero_add, drawCharacters, List.foldl_append,
    drawText_eq_drawCharacters x y table size mode fits _ _ _ first.length rfl onSecond, kept,
    secondStored,
    drawText_eq_drawCharacters x y table size mode fits ram address _ 0 start onFirst,
    firstStored]
  rfl

/-- A letter and a pair that start left of the screen, and a letter behind them. -/
theorem letter_drawn_behind_pair :
    let ram := Ram.blank.write 0x2000 [0x41, 0xb0, 0xa1, 0x42]
    let table := FontTable.ofSet { smallHalf := Array.replicate 3072 0x55 }
    let mode : BlitMode := { combination := .difference }
    endsWhole [0x41, 0xb0, 0xa1] = true ∧
      ram.drawText Target.buffer.base (-3) 5 table 0x2000 .small mode 4 =
        (ram.drawText Target.buffer.base (-3) 5 table 0x2000 .small mode 3).drawText
          Target.buffer.base 15 5 table 0x2003 .small mode 1 := by
  intro ram table mode
  have apart : Apart Target.buffer.base 0x2000 4 := by
    intro offset near lies
    simp only [ImageSource.LiesIn, Target.base, Screen.bitmapBytes, capacity] at lies
    omega
  have split :=
    text_splits_at_characters .buffer ram (-3) 5 table .small mode 0x2000 [0x41, 0xb0, 0xa1]
      [0x42] (by decide) (bytes_write (by decide)) apart (by decide)
  exact ⟨by decide, split.1⟩

end Ram

end Handheld
