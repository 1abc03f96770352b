import Handheld.Proofs.Screen.Lines
import Handheld.Proofs.Text.GlyphPixels

namespace Handheld

/-!
# What rendered text looks like

The grid is shown by drawing its rows. Every character of a row that is shown
appears as its glyph at the place of its cell, rows that are hidden stay as they
are, and what small glyphs leave uncovered is cleared. Cells, margins and gaps
together are the whole screen, so without hidden rows nothing of what was on it
before is left.
-/

namespace TextGrid

/-- Pixels left of the first cell. -/
def leftMargin : FontSize → Nat
  | .large => 0
  | .small => 2

/-- Pixels above the first cell. -/
def topMargin : FontSize → Nat
  | .large => 0
  | .small => 1

/-- The cells of a row. -/
def cells
    (size : FontSize)
    (ram : Ram)
    (row : Nat) :
    List UInt8 :=
  ram.bytes (window.address (row * size.columns)) size.columns

/-- Whether a pixel belongs to the cells of a row. -/
def InRow
    (size : FontSize)
    (row px py : Nat) :
    Prop :=
  leftMargin size ≤ px ∧
    px < leftMargin size + size.glyphWidth * size.columns ∧
    topMargin size + row * size.rowHeight ≤ py ∧
    py < topMargin size + row * size.rowHeight + size.glyphHeight

instance (size : FontSize) (row px py : Nat) : Decidable (InRow size row px py) :=
  inferInstanceAs (Decidable (_ ∧ _ ∧ _ ∧ _))

/-- The rows of cells do not overlap. -/
theorem InRow.unique
    {size : FontSize}
    {row other px py : Nat}
    (here : InRow size row px py)
    (there : InRow size other px py) :
    row = other := by
  unfold InRow at here there
  cases size with
  | large =>
      simp only [topMargin, FontSize.rowHeight, FontSize.glyphHeight] at here there
      omega
  | small =>
      simp only [topMargin, FontSize.rowHeight, FontSize.glyphHeight] at here there
      omega

/-- The cells of all rows lie below both bitmaps. -/
theorem cells_below
    {size : FontSize}
    {row : Nat}
    (inside : row < size.rows) :
    window.address (row * size.columns) + size.columns ≤ Target.graphics.base := by
  cases size with
  | large =>
      simp only [FontSize.rows, FontSize.columns, window, Window.address, Target.base] at *
      omega
  | small =>
      simp only [FontSize.rows, FontSize.columns, window, Window.address, Target.base] at *
      omega

/-- Drawing on the graphics bitmap leaves the cells as they are. -/
theorem cells_eq
    {before after : Ram}
    (same : Ram.SameOutside Target.graphics.base Screen.bitmapBytes before after)
    {size : FontSize}
    {row : Nat}
    (inside : row < size.rows) :
    cells size after row = cells size before row := by
  have below := cells_below inside
  have memory := Target.graphics.base_le
  exact same.bytes_eq (by omega) (.inl below)

/-- The drawing call that shows a row. -/
def rowDrawing
    (size : FontSize)
    (row : Nat) :
    Drawing :=
  .text (origin size).1 ((origin size).2 + (row * size.rowHeight : Nat))
    (window.address (row * size.columns)) size.columns size { combination := .copy }

/-- Make drawing calls on the graphics bitmap one after the other. -/
def paintAll
    (table : FontTable)
    (ram : Ram)
    (drawings : List Drawing) :
    Ram :=
  drawings.foldl (fun painted drawing => drawing.paint .graphics table painted) ram

section Rows

variable
  (table : FontTable)
  (size : FontSize)
  {px py : Nat}
  (insidePx : px < Screen.width)
  (insidePy : py < Screen.height)

include insidePx insidePy

/-- Drawing a row shows its cells and nothing else. -/
theorem pixel_rowDrawing
    (ram : Ram)
    {row : Nat}
    (inside : row < size.rows) :
    ((rowDrawing size row).paint .graphics table ram).pixel Target.graphics.base px py =
      if InRow size row px py then
        table.textPixel size (py - (topMargin size + row * size.rowHeight))
          (cells size ram row) (px - leftMargin size)
      else
        ram.pixel Target.graphics.base px py := by
  have below := cells_below inside
  have memory := Target.graphics.base_le
  have start :
      (origin size).1 = leftMargin size ∧ (origin size).2 = topMargin size := by
    cases size <;> exact ⟨rfl, rfl⟩
  have near : leftMargin size + size.glyphWidth * size.columns ≤ Screen.width := by
    cases size <;> decide
  have short : Screen.width ≤ 2147483647 := by decide
  rw [rowDrawing, Drawing.paint, start.1, start.2,
    Ram.pixel_drawText memory _ insidePx insidePy ram _ _ table _ _ size (by omega) (.inl below)
      (by omega)]
  by_cases inRow : InRow size row px py
  · have bounds := inRow
    unfold InRow at bounds
    have column : ((px : Int) - (leftMargin size : Nat)).toNat = px - leftMargin size := by
      omega
    have line :
        ((py : Int) - ((topMargin size : Nat) + (row * size.rowHeight : Nat))).toNat =
          py - (topMargin size + row * size.rowHeight) := by
      omega
    rw [if_pos (by omega), if_pos inRow, column, line]
    rfl
  · have bounds := inRow
    unfold InRow at bounds
    rw [if_neg (by omega), if_neg inRow]

/-- Where no row is drawn, nothing changes. -/
theorem pixel_rows_of_not_inRow
    {rows : List Nat}
    (inside : ∀ row ∈ rows, row < size.rows)
    (ram : Ram)
    (outside : ∀ row ∈ rows, ¬ InRow size row px py) :
    (paintAll table ram (rows.map (rowDrawing size))).pixel Target.graphics.base px py =
      ram.pixel Target.graphics.base px py := by
  induction rows generalizing ram with
  | nil => rfl
  | cons first rest inductionHypothesis =>
      have later := inductionHypothesis
        (fun row member => inside row (List.mem_cons_of_mem first member))
        ((rowDrawing size first).paint .graphics table ram)
        (fun row member => outside row (List.mem_cons_of_mem first member))
      rw [pixel_rowDrawing table size insidePx insidePy ram (inside first List.mem_cons_self),
        if_neg (outside first List.mem_cons_self)] at later
      exact later

/-- Rows that are drawn show their cells. -/
theorem pixel_rows_of_mem
    {rows : List Nat}
    (inside : ∀ row ∈ rows, row < size.rows)
    (ram : Ram)
    {row : Nat}
    (shown : row ∈ rows)
    (inRow : InRow size row px py) :
    (paintAll table ram (rows.map (rowDrawing size))).pixel Target.graphics.base px py =
      table.textPixel size (py - (topMargin size + row * size.rowHeight))
        (cells size ram row) (px - leftMargin size) := by
  induction rows generalizing ram with
  | nil => cases shown
  | cons first rest inductionHypothesis =>
      have insideRest : ∀ row ∈ rest, row < size.rows :=
        fun row member => inside row (List.mem_cons_of_mem first member)
      have frame := (rowDrawing size first).sameOutside_paint rfl .graphics table ram
      rw [List.map_cons, paintAll, List.foldl_cons, ← paintAll]
      by_cases later : row ∈ rest
      · rw [inductionHypothesis insideRest _ later,
          cells_eq frame (insideRest row later)]
      · -- Only the first call draws this row, the others are too far above or below.
        obtain rfl : row = first := (List.mem_cons.mp shown).resolve_right later
        have outside : ∀ other ∈ rest, ¬ InRow size other px py := by
          intro other member there
          exact later (inRow.unique there ▸ member)
        rw [pixel_rows_of_not_inRow table size insidePx insidePy insideRest _ outside,
          pixel_rowDrawing table size insidePx insidePy ram (inside row List.mem_cons_self),
          if_pos inRow]

end Rows

/-- The pixels around and between small glyphs. -/
def InMargin (px py : Nat) : Prop :=
  px < 2 ∨ 158 ≤ px ∨ py % 13 = 0 ∨ py = 79

instance (px py : Nat) : Decidable (InMargin px py) :=
  inferInstanceAs (Decidable (_ ∨ _ ∨ _ ∨ _))

/-- Small cells and the margins and gaps around them make up the screen. -/
theorem inMargin_iff
    {px py : Nat}
    (insidePx : px < Screen.width)
    (insidePy : py < Screen.height) :
    InMargin px py ↔ ∀ row < FontSize.small.rows, ¬ InRow .small row px py := by
  simp only [InMargin, InRow, leftMargin, topMargin, FontSize.rows, FontSize.columns,
    FontSize.rowHeight, FontSize.glyphWidth, FontSize.glyphHeight]
  unfold Screen.width Screen.height at *
  constructor
  · intro margin row inside inRow
    omega
  · intro outside
    have notInRow := outside ((py - 1) / 13)
    omega

/-- Large cells make up the screen. -/
theorem exists_inRow_large
    {px py : Nat}
    (insidePx : px < Screen.width)
    (insidePy : py < Screen.height) :
    ∃ row < FontSize.large.rows, InRow .large row px py := by
  unfold Screen.width Screen.height at *
  refine ⟨py / 16, ?_, ?_⟩
  · simp only [FontSize.rows]
    omega
  · simp only [InRow, leftMargin, topMargin, FontSize.columns, FontSize.rowHeight,
      FontSize.glyphWidth, FontSize.glyphHeight]
    omega

section Margins

variable
  (table : FontTable)
  {px py : Nat}
  (insidePx : px < Screen.width)
  (insidePy : py < Screen.height)

include insidePx insidePy

/-- A cleared line clears its row of pixels. -/
theorem pixel_clearLine
    (ram : Ram)
    (y : Int) :
    ((Drawing.line 0 y 159 y .clear).paint .graphics table ram).pixel Target.graphics.base px py =
      (ram.pixel Target.graphics.base px py && !decide (y = py)) := by
  have across : ((0 : Int) ≤ px ∧ px ≤ (159 : Int) ∧ y = py) ↔ y = py := by
    unfold Screen.width at insidePx
    omega
  rw [Drawing.paint, Ram.pixel_paint_clear Target.graphics.base_le insidePx insidePy,
    Line.any_covers_level (by decide), decide_eq_decide.mpr across]

/-- A cleared side clears its columns of pixels. -/
theorem pixel_clearSide
    (ram : Ram)
    {left right : Int}
    (insideLeft : 0 ≤ left)
    (ordered : left ≤ right)
    (insideRight : right < Screen.width) :
    ((Drawing.rectangle left 0 right 79 true .clear).paint .graphics table ram).pixel
        Target.graphics.base px py =
      (ram.pixel Target.graphics.base px py && !decide (left ≤ px ∧ px ≤ right)) := by
  have down :
      (left ≤ px ∧ px ≤ right ∧ (0 : Int) ≤ py ∧ py ≤ (79 : Int)) ↔ left ≤ px ∧ px ≤ right := by
    unfold Screen.height at insidePy
    omega
  rw [Drawing.paint_rectangle, Ram.pixel_paint_clear Target.graphics.base_le insidePx insidePy,
    Rectangle.any_covers_filled insideLeft ordered insideRight (by decide) (by decide) (by decide),
    decide_eq_decide.mpr down]

/-- Clearing the margins clears these pixels and no others. -/
theorem pixel_margins (ram : Ram) :
    (paintAll table ram margins).pixel Target.graphics.base px py =
      (ram.pixel Target.graphics.base px py && !decide (InMargin px py)) := by
  simp only [paintAll, margins, List.map_cons, List.map_nil, List.cons_append, List.nil_append,
    List.foldl_cons, List.foldl_nil, pixel_clearLine table insidePx insidePy]
  rw [pixel_clearSide table insidePx insidePy _ (by decide) (by decide) (by decide),
    pixel_clearSide table insidePx insidePy _ (by decide) (by decide) (by decide)]
  simp only [pixel_clearLine table insidePx insidePy]
  unfold Screen.width at insidePx
  unfold Screen.height at insidePy
  cases ram.pixel Target.graphics.base px py with
  | false => simp only [Bool.false_and]
  | true =>
      apply Bool.eq_iff_iff.mpr
      simp only [Bool.true_and, Bool.and_eq_true, Bool.not_eq_true', decide_eq_false_iff_not]
      unfold InMargin
      omega

end Margins

/-- The calls that clear what the glyphs of a size leave uncovered. -/
def clearing : FontSize → List Drawing
  | .large => []
  | .small => margins

/-- Rendering clears first, then draws the rows that are shown. -/
theorem render_eq
    (grid : TextGrid)
    (mask : Word) :
    grid.render mask =
      clearing grid.size ++ (shownRows grid.size mask).map (rowDrawing grid.size) := by
  rcases grid with ⟨_ | _, row, column⟩
  · rfl
  · rfl

/-- A row is shown unless its bit of the mask is set. -/
theorem mem_shownRows
    {size : FontSize}
    {mask : Word}
    {row : Nat} :
    row ∈ shownRows size mask ↔ row < size.rows ∧ mask.bits.testBit (7 - row) = false := by
  simp [shownRows]

/-- Drawings on the graphics bitmap change nothing else. -/
theorem sameOutside_paintAll
    (table : FontTable)
    (ram : Ram)
    {drawings : List Drawing}
    (all : ∀ drawing ∈ drawings, drawing.drawsOnTarget = true) :
    Ram.SameOutside Target.graphics.base Screen.bitmapBytes ram (paintAll table ram drawings) := by
  induction drawings generalizing ram with
  | nil => exact .refl _ _ _
  | cons first rest inductionHypothesis =>
      have drawn := first.sameOutside_paint (all first List.mem_cons_self) .graphics table ram
      exact drawn.trans
        (inductionHypothesis _ fun later member => all later (List.mem_cons_of_mem first member))

/-- Clearing between the glyphs changes the graphics bitmap only. -/
theorem sameOutside_clearing
    (table : FontTable)
    (size : FontSize)
    (ram : Ram) :
    Ram.SameOutside Target.graphics.base Screen.bitmapBytes ram
      (paintAll table ram (clearing size)) := by
  apply sameOutside_paintAll
  cases size <;> decide

/-- Pixels of a row of text are not touched by the clearing. -/
theorem pixel_clearing_of_inRow
    (table : FontTable)
    {size : FontSize}
    {px py row : Nat}
    (insidePx : px < Screen.width)
    (insidePy : py < Screen.height)
    (ram : Ram)
    (inside : row < size.rows)
    (inRow : InRow size row px py) :
    (paintAll table ram (clearing size)).pixel Target.graphics.base px py =
      ram.pixel Target.graphics.base px py := by
  cases size with
  | large => rfl
  | small =>
      have covered : ¬ InMargin px py := fun margin =>
        (inMargin_iff insidePx insidePy).mp margin row inside inRow
      rw [clearing, pixel_margins table insidePx insidePy, decide_eq_false covered, Bool.not_false,
        Bool.and_true]

/-- The cells of all rows lie on the screen. -/
theorem InRow.onScreen
    {size : FontSize}
    {row px py : Nat}
    (inside : row < size.rows)
    (inRow : InRow size row px py) :
    px < Screen.width ∧ py < Screen.height := by
  unfold InRow at inRow
  cases size with
  | large =>
      simp only [leftMargin, topMargin, FontSize.rows, FontSize.columns, FontSize.rowHeight,
        FontSize.glyphWidth, FontSize.glyphHeight, Screen.width, Screen.height] at *
      omega
  | small =>
      simp only [leftMargin, topMargin, FontSize.rows, FontSize.columns, FontSize.rowHeight,
        FontSize.glyphWidth, FontSize.glyphHeight, Screen.width, Screen.height] at *
      omega

section Rendering

variable
  (table : FontTable)
  (grid : TextGrid)
  (mask : Word)
  (ram : Ram)

/-- Rendered text is painted on what the clearing left. -/
theorem paintAll_render :
    paintAll table ram (grid.render mask) =
      paintAll table (paintAll table ram (clearing grid.size))
        ((shownRows grid.size mask).map (rowDrawing grid.size)) := by
  rw [render_eq, paintAll, List.foldl_append]
  rfl

/-- A row that is shown has the pixels of its text. -/
theorem pixel_render_of_shown
    {row px py : Nat}
    (inside : row < grid.size.rows)
    (visible : mask.bits.testBit (7 - row) = false)
    (inRow : InRow grid.size row px py) :
    (paintAll table ram (grid.render mask)).pixel Target.graphics.base px py =
      table.textPixel grid.size (py - (topMargin grid.size + row * grid.size.rowHeight))
        (cells grid.size ram row) (px - leftMargin grid.size) := by
  obtain ⟨insidePx, insidePy⟩ := inRow.onScreen inside
  rw [paintAll_render,
    pixel_rows_of_mem table grid.size insidePx insidePy (fun _ shown => (mem_shownRows.mp shown).1)
      _ (mem_shownRows.mpr ⟨inside, visible⟩) inRow,
    cells_eq (sameOutside_clearing table grid.size ram) inside]

/-- A row that is hidden keeps its pixels. -/
theorem pixel_render_of_hidden
    {row px py : Nat}
    (inside : row < grid.size.rows)
    (hidden : mask.bits.testBit (7 - row) = true)
    (inRow : InRow grid.size row px py) :
    (paintAll table ram (grid.render mask)).pixel Target.graphics.base px py =
      ram.pixel Target.graphics.base px py := by
  obtain ⟨insidePx, insidePy⟩ := inRow.onScreen inside
  have outside : ∀ other ∈ shownRows grid.size mask, ¬ InRow grid.size other px py := by
    intro other shown there
    have visible := (mem_shownRows.mp shown).2
    rw [← inRow.unique there, hidden] at visible
    cases visible
  rw [paintAll_render,
    pixel_rows_of_not_inRow table grid.size insidePx insidePy
      (fun _ shown => (mem_shownRows.mp shown).1) _ outside,
    pixel_clearing_of_inRow table insidePx insidePy ram inside inRow]

/-- In small text, what no row covers is clear. -/
theorem pixel_render_of_margin
    {px py : Nat}
    (insidePx : px < Screen.width)
    (insidePy : py < Screen.height)
    (small : grid.size = .small)
    (outside : ∀ row < grid.size.rows, ¬ InRow grid.size row px py) :
    (paintAll table ram (grid.render mask)).pixel Target.graphics.base px py = false := by
  rw [paintAll_render,
    pixel_rows_of_not_inRow table grid.size insidePx insidePy
      (fun _ shown => (mem_shownRows.mp shown).1) _
      (fun row shown => outside row (mem_shownRows.mp shown).1)]
  rw [small] at outside ⊢
  rw [clearing, pixel_margins table insidePx insidePy,
    decide_eq_true ((inMargin_iff insidePx insidePy).mpr outside), Bool.not_true, Bool.and_false]

/-- Without hidden rows every pixel is one of the cells or cleared. -/
theorem pixel_render_all
    {otherGrid : TextGrid}
    {other : Ram}
    (sameSize : otherGrid.size = grid.size)
    (sameCells :
      ∀ row < grid.size.rows, cells grid.size other row = cells grid.size ram row)
    {px py : Nat}
    (insidePx : px < Screen.width)
    (insidePy : py < Screen.height) :
    (paintAll table other (otherGrid.render 0)).pixel Target.graphics.base px py =
      (paintAll table ram (grid.render 0)).pixel Target.graphics.base px py := by
  have sameCalls : otherGrid.render 0 = grid.render 0 := by
    rw [render_eq, render_eq, sameSize]
  rw [sameCalls]
  by_cases covered : ∃ row < grid.size.rows, InRow grid.size row px py
  · obtain ⟨row, inside, inRow⟩ := covered
    have visible : (0 : Word).bits.testBit (7 - row) = false := Nat.zero_testBit _
    rw [pixel_render_of_shown table grid 0 other inside visible inRow,
      pixel_render_of_shown table grid 0 ram inside visible inRow, sameCells row inside]
  · have outside : ∀ row < grid.size.rows, ¬ InRow grid.size row px py :=
      fun row inside inRow => covered ⟨row, inside, inRow⟩
    have small : grid.size = .small := by
      cases size : grid.size with
      | small => rfl
      | large =>
          rw [size] at covered
          exact (covered (exists_inRow_large insidePx insidePy)).elim
    rw [pixel_render_of_margin table grid 0 other insidePx insidePy small outside,
      pixel_render_of_margin table grid 0 ram insidePx insidePy small outside]

end Rendering

end TextGrid

namespace Device

/-- Drawings on a painted screen are painted one after the other. -/
theorem ram_foldl_draw
    {device : Device}
    {table : FontTable}
    (painted : device.screen = .painted table)
    (onGraphics : device.target = .graphics)
    (drawings : List Drawing) :
    (drawings.foldl draw device).ram = TextGrid.paintAll table device.ram drawings := by
  induction drawings generalizing device with
  | nil => rfl
  | cons first rest inductionHypothesis =>
      have drawn :
          device.draw first =
            { device with ram := first.paint .graphics table device.ram } := by
        unfold draw
        rw [painted, onGraphics]
      rw [List.foldl_cons, drawn,
        @inductionHypothesis { device with ram := first.paint .graphics table device.ram }
          painted onGraphics]
      rfl

/-- Showing a grid paints what it renders. -/
theorem ram_renderText
    {device : Device}
    {table : FontTable}
    {grid : TextGrid}
    (painted : device.screen = .painted table)
    (gridded : device.text = .grid grid)
    (mask : Word) :
    (device.renderText mask).ram = TextGrid.paintAll table device.ram (grid.render mask) := by
  unfold renderText
  rw [gridded]
  exact @ram_foldl_draw (device.setTarget .graphics) table painted rfl (grid.render mask)

open TextGrid in
/--
Rendering is exact. In every row that the mask shows, each character of the row's
cells appears as its glyph; the cells of rows that it hides do not change; and
small text clears all pixels that belong to no row. With nothing hidden the
screen is the same whatever was on it before.
-/
theorem renderText_exact
    (device : Device)
    (table : FontTable)
    (grid : TextGrid)
    (mask : Word)
    (painted : device.screen = .painted table)
    (gridded : device.text = .grid grid) :
    (∀ row < grid.size.rows,
      mask.bits.testBit (7 - row) = false →
      ∀ character ∈ cellCharacters 0 (cells grid.size device.ram row),
      ∀ column < grid.size.glyphWidth * character.width,
      ∀ line < grid.size.glyphHeight,
        (device.renderText mask).ram.pixel Target.graphics.base
            (leftMargin grid.size + character.column * grid.size.glyphWidth + column)
            (topMargin grid.size + row * grid.size.rowHeight + line) =
          table.glyphPixel grid.size character.code character.width column line) ∧
    (∀ row < grid.size.rows,
      mask.bits.testBit (7 - row) = true →
      ∀ px py,
        InRow grid.size row px py →
        (device.renderText mask).ram.pixel Target.graphics.base px py =
          device.ram.pixel Target.graphics.base px py) ∧
    (grid.size = .small →
      ∀ px < Screen.width,
      ∀ py < Screen.height,
        (∀ row < grid.size.rows, ¬ InRow grid.size row px py) →
        (device.renderText mask).ram.pixel Target.graphics.base px py = false) ∧
    (∀ (other : Device) (otherGrid : TextGrid),
      other.screen = .painted table →
      other.text = .grid otherGrid →
      otherGrid.size = grid.size →
      (∀ row < grid.size.rows, cells grid.size other.ram row = cells grid.size device.ram row) →
      (other.renderText 0).snapshot = (device.renderText 0).snapshot) := by
  rw [ram_renderText painted gridded]
  refine ⟨?_, ?_, ?_, ?_⟩
  · intro row inside visible character member column insideColumn line insideLine
    have width := Nat.mul_le_mul_left grid.size.glyphWidth (column_add_width_le member)
    have columns : (cells grid.size device.ram row).length = grid.size.columns :=
      Ram.length_bytes _ _ _
    rw [columns, Nat.zero_add, Nat.mul_add] at width
    have commuted := Nat.mul_comm character.column grid.size.glyphWidth
    have inRow :
        InRow grid.size row
          (leftMargin grid.size + character.column * grid.size.glyphWidth + column)
          (topMargin grid.size + row * grid.size.rowHeight + line) := by
      unfold InRow
      omega
    have across :
        leftMargin grid.size + character.column * grid.size.glyphWidth + column -
            leftMargin grid.size =
          grid.size.glyphWidth * (character.column - 0) + column := by
      rw [Nat.sub_zero]
      omega
    rw [pixel_render_of_shown table grid mask device.ram inside visible inRow, across,
      Nat.add_sub_cancel_left]
    exact (table.textPixel_of_mem grid.size line member insideColumn).2
  · intro row inside hidden px py inRow
    exact pixel_render_of_hidden table grid mask device.ram inside hidden inRow
  · intro small px insidePx py insidePy outside
    exact pixel_render_of_margin table grid mask device.ram insidePx insidePy small outside
  · intro other otherGrid otherPainted otherGridded sameSize sameCells
    unfold snapshot
    rw [ram_renderText otherPainted otherGridded, ram_renderText painted gridded]
    apply Ram.bitmap_ext
    intro px insidePx py insidePy
    exact pixel_render_all table grid device.ram sameSize sameCells insidePx insidePy

/-- A pair of bytes at the start of the second row shows, with the first row hidden. -/
theorem pair_shows_below_hidden_row :
    let table : FontTable :=
      { glyphs := #[0, 0x10], largeHalf := 0, smallHalf := 0, largeFull := 0, smallFull := 1 }
    let device : Device :=
      { ram := Ram.blank.write 26 [0xa1, 0xa1], screen := .painted table,
        text := .grid { size := .small } }
    let shown := (device.renderText 0x80).ram
    shown.pixel Target.graphics.base 5 14 = true ∧
      shown.pixel Target.graphics.base 5 1 = device.ram.pixel Target.graphics.base 5 1 ∧
      shown.pixel Target.graphics.base 5 13 = false := by
  intro table device shown
  obtain ⟨glyphs, hidden, cleared, -⟩ :=
    renderText_exact device table { size := .small } 0x80 rfl rfl
  have pair :
      TextGrid.cells .small device.ram 1 =
        0xa1 :: 0xa1 :: device.ram.bytes 28 24 := by
    change device.ram.bytes 26 26 = _
    rw [Ram.bytes_succ, Ram.bytes_succ]
    simp [device, Ram.write, Ram.byte_setByte]
  have member :
      { column := 0, code := 0xa1a1, width := 2 } ∈
        cellCharacters 0 (TextGrid.cells .small device.ram 1) := by
    rw [pair]
    exact List.mem_cons_self
  refine ⟨?_, ?_, ?_⟩
  · have lit : table.glyphPixel .small 0xa1a1 2 3 0 = true := by decide
    have here := glyphs 1 (by decide) (by decide) _ member 3 (by decide) 0 (by decide)
    exact here.trans lit
  · exact hidden 0 (by decide) (by decide) 5 1 (by decide)
  · exact cleared rfl 5 (by decide) 13 (by decide) (by decide)

end Device

end Handheld
