import Handheld.Proofs.Screen.BlitPixels

namespace Handheld

/-!
# Rows of glyphs

A row of cells is read as characters of one or two cells. Drawing the row puts
the glyph of every character at its cells, from left to right and without gaps.
-/

/-- A character in a row of cells: where it starts, its code and how many cells it takes. -/
structure CellCharacter where
  column : Nat
  code : UInt16
  width : Nat
  deriving DecidableEq, Repr

/--
The characters of a row of cells, the first of which stands in the given column.
A byte from `0x80` on takes the next cell with it, unless it is the last.
-/
def cellCharacters
    (column : Nat) :
    List UInt8 → List CellCharacter
  | [] => []
  | [byte] => [{ column := column, code := byte.toUInt16, width := 1 }]
  | lead :: next :: rest =>
      if lead < 0x80 then
        { column := column, code := lead.toUInt16, width := 1 } ::
          cellCharacters (column + 1) (next :: rest)
      else
        { column := column, code := lead.toUInt16 ||| (next.toUInt16 <<< 8), width := 2 } ::
          cellCharacters (column + 2) rest

/-- Characters end where their row ends. -/
theorem column_add_width_le
    {start : Nat}
    {cells : List UInt8}
    {character : CellCharacter}
    (member : character ∈ cellCharacters start cells) :
    character.column + character.width ≤ start + cells.length := by
  fun_induction cellCharacters start cells with
  | case1 => cases member
  | case2 start byte =>
      cases List.mem_singleton.mp member
      exact Nat.le_refl _
  | case3 start lead next rest single inductionHypothesis =>
      rcases List.mem_cons.mp member with first | later
      · cases first
        simp only [List.length_cons]
        omega
      · have bound := inductionHypothesis later
        simp only [List.length_cons] at bound ⊢
        omega
  | case4 start lead next rest double inductionHypothesis =>
      rcases List.mem_cons.mp member with first | later
      · cases first
        simp only [List.length_cons]
        omega
      · have bound := inductionHypothesis later
        simp only [List.length_cons]
        omega

namespace FontTable

/-- The pixel of the glyph of a character that is a number of cells wide. -/
def glyphPixel
    (table : FontTable)
    (size : FontSize)
    (code : UInt16)
    (width column line : Nat) :
    Bool :=
  let stride := (size.glyphWidth * width + 7) / 8
  Bits.bitAt (table.byte (table.glyph code size + (stride * line + column / 8))) (column % 8)

/-- The pixel of a row of cells, counted from the left of the first cell. -/
def textPixel
    (table : FontTable)
    (size : FontSize)
    (line : Nat) :
    List UInt8 → Nat → Bool
  | [], _ => false
  | [byte], column => table.glyphPixel size byte.toUInt16 1 column line
  | lead :: next :: rest, column =>
      if lead < 0x80 then
        if column < size.glyphWidth * 1 then
          table.glyphPixel size lead.toUInt16 1 column line
        else
          table.textPixel size line (next :: rest) (column - size.glyphWidth * 1)
      else
        if column < size.glyphWidth * 2 then
          table.glyphPixel size (lead.toUInt16 ||| (next.toUInt16 <<< 8)) 2 column line
        else
          table.textPixel size line rest (column - size.glyphWidth * 2)

/-- The text behind a character of one byte is shown one glyph further right. -/
theorem textPixel_of_single
    (table : FontTable)
    (size : FontSize)
    (line : Nat)
    {lead : UInt8}
    {rest : List UInt8}
    (single : lead < 0x80)
    (more : rest ≠ [])
    (column : Nat) :
    table.textPixel size line (lead :: rest) column =
      if column < size.glyphWidth * 1 then
        table.glyphPixel size lead.toUInt16 1 column line
      else
        table.textPixel size line rest (column - size.glyphWidth * 1) := by
  cases rest with
  | nil => exact (more rfl).elim
  | cons next rest => rw [textPixel, if_pos single]

/-- Where a character of a row stands, the row shows its glyph. -/
theorem textPixel_of_mem
    (table : FontTable)
    (size : FontSize)
    (line : Nat)
    {start : Nat}
    {cells : List UInt8}
    {character : CellCharacter}
    (member : character ∈ cellCharacters start cells)
    {column : Nat}
    (inside : column < size.glyphWidth * character.width) :
    start ≤ character.column ∧
      table.textPixel size line cells
          (size.glyphWidth * (character.column - start) + column) =
        table.glyphPixel size character.code character.width column line := by
  fun_induction cellCharacters start cells with
  | case1 => cases member
  | case2 start byte =>
      cases List.mem_singleton.mp member
      refine ⟨Nat.le_refl _, ?_⟩
      simp only [Nat.sub_self, Nat.mul_zero, Nat.zero_add, textPixel]
  | case3 start lead next rest single inductionHypothesis =>
      rw [textPixel, if_pos single]
      rcases List.mem_cons.mp member with first | later
      · cases first
        refine ⟨Nat.le_refl _, ?_⟩
        rw [Nat.sub_self, Nat.mul_zero, Nat.zero_add, if_pos inside]
      · obtain ⟨behind, shown⟩ := inductionHypothesis later
        have apart : character.column - start = 1 + (character.column - (start + 1)) := by omega
        refine ⟨by omega, ?_⟩
        rw [apart, Nat.mul_add, if_neg (by omega), ← shown]
        congr 1
        omega
  | case4 start lead next rest double inductionHypothesis =>
      rw [textPixel, if_neg double]
      rcases List.mem_cons.mp member with first | later
      · cases first
        refine ⟨Nat.le_refl _, ?_⟩
        rw [Nat.sub_self, Nat.mul_zero, Nat.zero_add, if_pos inside]
      · obtain ⟨behind, shown⟩ := inductionHypothesis later
        have apart : character.column - start = 2 + (character.column - (start + 2)) := by omega
        refine ⟨by omega, ?_⟩
        rw [apart, Nat.mul_add, if_neg (by omega), ← shown]
        congr 1
        omega

end FontTable

namespace Ram

section Text

variable
  {base : Nat}
  (fits : base + Screen.bitmapBytes ≤ capacity)
  (mode : BlitMode)
  {px py : Nat}
  (insidePx : px < Screen.width)
  (insidePy : py < Screen.height)

include fits insidePx insidePy

omit insidePx insidePy in
/-- Glyphs do not change memory apart from the bitmap. -/
theorem bytes_drawGlyph
    (ram : Ram)
    (x y : Int)
    (table : FontTable)
    (code : UInt16)
    (width : Nat)
    (size : FontSize)
    {start count : Nat}
    (inMemory : start + count ≤ capacity)
    (apart : start + count ≤ base ∨ base + Screen.bitmapBytes ≤ start) :
    (ram.drawGlyph base x y table code width size mode).bytes start count =
      ram.bytes start count :=
  (sameOutside_blit fits mode ram _ _ _ _ _ _).bytes_eq inMemory apart

/-- A glyph is combined with the pixels of its cell and leaves the others. -/
theorem pixel_drawGlyph
    (ram : Ram)
    (x y : Int)
    (table : FontTable)
    (code : UInt16)
    (width : Nat)
    (size : FontSize) :
    (ram.drawGlyph base x y table code width size mode).pixel base px py =
      if x ≤ px ∧ px < x + (size.glyphWidth * width : Nat) ∧
          y ≤ py ∧ py < y + size.glyphHeight then
        mode.combineBit
          (table.glyphPixel size code width (px - x).toNat (py - y).toNat)
          (ram.pixel base px py)
      else
        ram.pixel base px py := by
  have stride :
      (((size.glyphWidth * width : Nat) + 7 : Int) / 8).toNat =
        (size.glyphWidth * width + 7) / 8 := by
    omega
  rw [drawGlyph,
    pixel_blit fits mode insidePx insidePy ram (fun _ => ImageSource.steady_font _ _ _),
    ImageSource.pixel, stride]
  rfl

/-- A glyph and what is drawn right of it make up a row. -/
theorem pixel_after_glyph
    (ram : Ram)
    {x y : Int}
    {table : FontTable}
    {code : UInt16}
    {width rest : Nat}
    {size : FontSize}
    {row : Ram}
    {later : Nat → Bool}
    (drawn :
      row.pixel base px py =
        if x + (size.glyphWidth * width : Nat) ≤ px ∧
            px < x + (size.glyphWidth * width : Nat) + rest ∧
            y ≤ py ∧ py < y + size.glyphHeight then
          mode.combineBit (later (px - (x + (size.glyphWidth * width : Nat))).toNat)
            ((ram.drawGlyph base x y table code width size mode).pixel base px py)
        else
          (ram.drawGlyph base x y table code width size mode).pixel base px py) :
    row.pixel base px py =
      if x ≤ px ∧ px < x + (size.glyphWidth * width + rest : Nat) ∧
          y ≤ py ∧ py < y + size.glyphHeight then
        mode.combineBit
          (if (px - x).toNat < size.glyphWidth * width then
            table.glyphPixel size code width (px - x).toNat (py - y).toNat
          else
            later ((px - x).toNat - size.glyphWidth * width))
          (ram.pixel base px py)
      else
        ram.pixel base px py := by
  rw [drawn, pixel_drawGlyph fits mode insidePx insidePy]
  by_cases band : y ≤ py ∧ py < y + size.glyphHeight
  · by_cases glyph : x ≤ px ∧ px < x + (size.glyphWidth * width : Nat)
    · rw [if_neg (by omega), if_pos (by omega), if_pos (by omega), if_pos (by omega)]
    · by_cases behind :
          x + (size.glyphWidth * width : Nat) ≤ px ∧
            px < x + (size.glyphWidth * width : Nat) + rest
      · have moved :
            (px - (x + (size.glyphWidth * width : Nat))).toNat =
              (px - x).toNat - size.glyphWidth * width := by
          omega
        rw [if_pos (by omega), if_neg (by omega), if_pos (by omega), if_neg (by omega), moved]
      · rw [if_neg (by omega), if_neg (by omega), if_neg (by omega)]
  · rw [if_neg (by omega), if_neg (by omega), if_neg (by omega)]

/--
Text that lies apart from the bitmap is drawn from left to right without gaps,
as long as no coordinate runs past the greatest word.
-/
theorem pixel_drawText
    (ram : Ram)
    (x y : Int)
    (table : FontTable)
    (address length : Nat)
    (size : FontSize)
    (inMemory : address + length ≤ capacity)
    (apart : address + length ≤ base ∨ base + Screen.bitmapBytes ≤ address)
    (near : x + (size.glyphWidth * length : Nat) ≤ 2147483647) :
    (ram.drawText base x y table address size mode length).pixel base px py =
      if x ≤ px ∧ px < x + (size.glyphWidth * length : Nat) ∧
          y ≤ py ∧ py < y + size.glyphHeight then
        mode.combineBit
          (table.textPixel size (py - y).toNat (ram.bytes address length) (px - x).toNat)
          (ram.pixel base px py)
      else
        ram.pixel base px py := by
  fun_induction drawText ram base x y table address size mode length with
  | case1 ram x address => rw [if_neg (by omega)]
  | case2 ram x address => exact pixel_drawGlyph fits mode insidePx insidePy ram x y table _ 1 size
  | case3 ram x address length lead single inductionHypothesis =>
      have cells : ram.bytes address length.succ.succ = lead :: ram.bytes (address + 1) (length + 1) :=
        bytes_succ ram address (length + 1)
      have whole :
          size.glyphWidth * length.succ.succ =
            size.glyphWidth * 1 + size.glyphWidth * (length + 1) := by
        rw [← Nat.mul_add, Nat.add_comm]
      rw [whole] at near ⊢
      have moved : advanceRight x size.glyphWidth = x + (size.glyphWidth * 1 : Nat) := by
        unfold advanceRight
        omega
      rw [moved] at inductionHypothesis ⊢
      have row := inductionHypothesis (by omega) (by omega) (by omega)
      rw [bytes_drawGlyph fits mode ram x y table _ 1 size (by omega) (by omega)] at row
      rw [pixel_after_glyph fits mode insidePx insidePy ram row, cells,
        FontTable.textPixel_of_single table size _ single (by simp [bytes_succ])]
  | case4 ram x address length lead double code inductionHypothesis =>
      have cells :
          ram.bytes address length.succ.succ =
            lead :: ram.byte (address + 1) :: ram.bytes (address + 2) length := by
        rw [bytes_succ, bytes_succ]
      have whole :
          size.glyphWidth * length.succ.succ =
            size.glyphWidth * 2 + size.glyphWidth * length := by
        rw [← Nat.mul_add, Nat.add_comm]
      rw [whole] at near ⊢
      have moved : advanceRight x (size.glyphWidth * 2) = x + (size.glyphWidth * 2 : Nat) := by
        unfold advanceRight
        omega
      rw [moved] at inductionHypothesis ⊢
      have row := inductionHypothesis (by omega) (by omega) (by omega)
      rw [bytes_drawGlyph fits mode ram x y table _ 2 size (by omega) (by omega)] at row
      rw [pixel_after_glyph fits mode insidePx insidePy ram row, cells, FontTable.textPixel,
        if_neg double]

end Text

end Ram

end Handheld
