import Handheld.Proofs.Memory.Ranges
import Handheld.Proofs.Text.Scroller

namespace Handheld

/-!
# The text as a page without end

A page has rows without end and a cursor that writes into them; nothing on it
ever moves. The text grid is a window on such a page: moving all rows of the
grid up is the same as moving the window down by a row.
-/

/-- Rows of text without end, of which a window shows some. -/
structure Page (size : FontSize) where
  cells : Nat → Nat → UInt8
  /-- The first row that the window shows. -/
  top : Nat := 0
  row : Nat := 0
  column : Nat := 0

namespace Page

variable {size : FontSize}

/-- A page on which nothing was written: zeros in the first window, and spaces below. -/
def blank (size : FontSize) : Page size where
  cells row _ := if row < size.rows then 0 else 0x20

/-- Move the window down as far as it takes to show the row of the cursor. -/
def reveal (page : Page size) : Page size :=
  { page with top := max page.top (page.row + 1 - size.rows) }

/-- Put the cursor at the start of the next row. -/
def nextRow (page : Page size) : Page size :=
  { page with row := page.row + 1, column := 0 }

/-- Put a byte into the cell at the cursor. -/
def write
    (page : Page size)
    (byte : UInt8) :
    Page size :=
  { page with
    cells := fun row column =>
      if row = page.row ∧ column = page.column then byte else page.cells row column }

/-- Move the cursor on to the next cell. -/
def advance (page : Page size) : Page size :=
  if page.column + 1 < size.columns then
    { page with column := page.column + 1 }
  else
    page.nextRow

/-- Add a byte at the cursor. -/
def addByte
    (page : Page size)
    (byte : UInt8) :
    Page size :=
  match Stroke.ofByte byte with
  | .nothing => page.reveal
  | .newRow => page.reveal.nextRow.reveal
  | .cell byte => (page.reveal.write byte).advance

/-- Whether the cursor stands in the last column. -/
def atLastColumn (page : Page size) : Bool :=
  page.column = size.columns - 1

/-- Make a call on the page; the cursor is moved to a cell of the window. -/
def perform
    (page : Page size) :
    TextCall → Page size
  | .addByte byte => page.addByte byte
  | .addBytes bytes => spread addByte atLastColumn page bytes
  | .locate row column =>
      { page with
        row := page.top + TextGrid.clamp row size.rows
        column := TextGrid.clamp column size.columns }

/-- The grid shows what the page has in its window, and the cursors stand at the same cell. -/
structure Shown
    (page : Page size)
    (scroller : Scroller) :
    Prop where
  sameSize : scroller.grid.size = size
  top : page.top = scroller.scrolls
  row : page.row = scroller.scrolls + scroller.grid.row
  column : page.column = scroller.grid.column
  row_le : scroller.grid.row ≤ size.rows
  column_lt : scroller.grid.column < size.columns
  /-- Just past the last row, the cursor stands at the start of a row. -/
  start : scroller.grid.row = size.rows → scroller.grid.column = 0
  cells :
    ∀ row column,
      row < size.rows →
      column < size.columns →
      scroller.ram.byte (TextGrid.window.address (row * size.columns + column)) =
        page.cells (scroller.scrolls + row) column
  /-- Below the window nothing has been written. -/
  unwritten : ∀ row column, scroller.scrolls + size.rows ≤ row → page.cells row column = 0x20

end Page

namespace TextGrid

/-- A clamped coordinate is one of the grid. -/
theorem clamp_lt
    (word : Word)
    {count : Nat}
    (positive : 0 < count) :
    clamp word count < count := by
  unfold clamp
  omega

/-- A cell of the grid lies inside its memory. -/
theorem cell_lt
    {size : FontSize}
    {row column : Nat}
    (insideRow : row < size.rows)
    (insideColumn : column < size.columns) :
    window.address (row * size.columns + column) < window.size := by
  cases size <;> simp only [FontSize.rows, FontSize.columns, window, Window.address] at * <;> omega

/-- Different cells are different bytes of memory. -/
theorem cell_inj
    {size : FontSize}
    {row otherRow column otherColumn : Nat}
    (insideColumn : column < size.columns)
    (otherInside : otherColumn < size.columns)
    (same :
      window.address (row * size.columns + column) =
        window.address (otherRow * size.columns + otherColumn)) :
    row = otherRow ∧ column = otherColumn := by
  cases size <;> simp only [FontSize.columns, window, Window.address] at * <;> omega

/-- Clearing the grid sets every byte of its memory to zero, also those that no cell uses. -/
theorem byte_reset
    (grid : TextGrid)
    (ram : Ram)
    {address : Nat}
    (inside : address < Ram.capacity) :
    (grid.reset ram).2.byte address =
      if address < window.size then 0 else ram.byte address := by
  have fits : window.start + 0 + window.size ≤ Ram.capacity := by decide
  unfold reset Window.zero Window.fill Window.address
  dsimp only
  rw [Ram.byte_fill ram 0 fits inside]
  by_cases within : address < window.size
  · rw [if_pos within, if_pos ⟨Nat.zero_le _, within⟩]
  · rw [if_neg within, if_neg fun both => within both.2]

/-- Moving up, every row takes what was in the row below, and the last one spaces. -/
theorem byte_scrollUp
    (grid : TextGrid)
    (ram : Ram)
    {row column : Nat}
    (insideRow : row < grid.size.rows)
    (insideColumn : column < grid.size.columns) :
    (grid.scrollUp ram).2.byte (window.address (row * grid.size.columns + column)) =
      if row + 1 < grid.size.rows then
        ram.byte (window.address ((row + 1) * grid.size.columns + column))
      else
        0x20 := by
  have whole : (grid.size.rows - 1) * grid.size.columns + grid.size.columns ≤ window.size := by
    cases grid.size <;> decide
  have small : window.start + window.size < Ram.capacity := by decide
  have down : window.address 0 ≤ window.address grid.size.columns := Nat.le_add_right _ _
  have next : (row + 1) * grid.size.columns = row * grid.size.columns + grid.size.columns :=
    Nat.succ_mul row grid.size.columns
  have above := Nat.mul_le_mul_right grid.size.columns (Nat.le_sub_one_of_lt insideRow)
  unfold scrollUp Window.copy Window.fill
  dsimp only
  rw [Ram.copy, if_pos down]
  unfold Window.address
  rw [Ram.byte_fill _ _ (by omega) (by omega),
    Ram.byte_copyForward _ (by omega) (by omega) (by omega)]
  by_cases more : row + 1 < grid.size.rows
  · have below := Nat.mul_le_mul_right grid.size.columns (Nat.le_sub_one_of_lt more)
    rw [if_neg (by omega), if_pos (by omega), if_pos more]
    congr 1
    omega
  · have last : row = grid.size.rows - 1 := by omega
    rw [if_pos (by rw [last]; omega), if_neg more]

end TextGrid

namespace Page.Shown

variable
  {size : FontSize}
  {page : Page size}
  {scroller : Scroller}
  (shown : page.Shown scroller)

include shown

/-- Moving the window down to the cursor is moving the rows of the grid up. -/
theorem makeRoom : page.reveal.Shown scroller.makeRoom := by
  obtain rfl := shown.sameSize
  rcases Nat.lt_or_ge scroller.grid.row scroller.grid.size.rows with inside | outside
  · have unmoved : page.reveal = page := by
      have still : max page.top (page.row + 1 - scroller.grid.size.rows) = page.top := by
        rw [shown.top, shown.row]
        omega
      unfold reveal
      rw [still]
    rw [Scroller.makeRoom_of_lt inside, unmoved]
    exact shown
  · have full : scroller.grid.row = scroller.grid.size.rows :=
      Nat.le_antisymm shown.row_le outside
    have positive := scroller.grid.size.rows_pos
    rw [Scroller.makeRoom_of_le outside]
    refine ⟨rfl, ?_, ?_, ?_, Nat.sub_le _ _, scroller.grid.size.columns_pos,
      fun _ => rfl, ?_, ?_⟩
    · change max page.top (page.row + 1 - scroller.grid.size.rows) = scroller.scrolls + 1
      rw [shown.top, shown.row]
      omega
    · change page.row = scroller.scrolls + 1 + (scroller.grid.size.rows - 1)
      rw [shown.row]
      omega
    · exact shown.column.trans (shown.start full)
    · intro row column insideRow insideColumn
      have nextRow : scroller.scrolls + 1 + row = scroller.scrolls + (row + 1) := by omega
      refine (TextGrid.byte_scrollUp scroller.grid scroller.ram insideRow insideColumn).trans ?_
      change _ = page.cells (scroller.scrolls + 1 + row) column
      rw [nextRow]
      split
      · rename_i more
        exact shown.cells (row + 1) column more insideColumn
      · rename_i last
        exact (shown.unwritten _ column (by omega)).symm
    · intro row column below
      refine shown.unwritten row column ?_
      change scroller.scrolls + 1 + scroller.grid.size.rows ≤ row at below
      omega

/-- Going to the next row is shown by the grid that does so, too. -/
theorem nextRow (inside : scroller.grid.row < size.rows) :
    page.nextRow.Shown scroller.nextRow := by
  refine ⟨shown.sameSize, shown.top, ?_, rfl, inside, size.columns_pos, fun _ => rfl,
    shown.cells, shown.unwritten⟩
  change page.row + 1 = scroller.scrolls + (scroller.grid.row + 1)
  rw [shown.row]
  omega

/-- A byte goes into the same cell of the grid and of the page. -/
theorem write
    (inside : scroller.grid.row < size.rows)
    (byte : UInt8) :
    (page.write byte).Shown (scroller.write byte) := by
  obtain rfl := shown.sameSize
  have small : TextGrid.window.size < Ram.capacity := by decide
  have cursorInside := TextGrid.cell_lt inside shown.column_lt
  refine ⟨rfl, shown.top, shown.row, shown.column, shown.row_le, shown.column_lt,
    shown.start, ?_, ?_⟩
  · intro row column insideRow insideColumn
    have readInside := TextGrid.cell_lt insideRow insideColumn
    have sameCell :
        TextGrid.window.address
              (scroller.grid.row * scroller.grid.size.columns + scroller.grid.column) =
            TextGrid.window.address (row * scroller.grid.size.columns + column) ↔
          scroller.scrolls + row = page.row ∧ column = page.column := by
      rw [shown.row, shown.column]
      constructor
      · intro same
        obtain ⟨sameRow, sameColumn⟩ := TextGrid.cell_inj shown.column_lt insideColumn same
        exact ⟨by omega, sameColumn.symm⟩
      · rintro ⟨sameRow, rfl⟩
        rw [Nat.add_left_cancel sameRow]
    refine (Ram.byte_setByte_of_lt scroller.ram byte (Nat.lt_trans cursorInside small)
      (Nat.lt_trans readInside small)).trans ?_
    exact ite_congr (propext sameCell) (fun _ => rfl)
      (fun _ => shown.cells row column insideRow insideColumn)
  · intro row column below
    have notCursor : ¬ (row = page.row ∧ column = page.column) := by
      rintro ⟨rfl, _⟩
      rw [shown.row] at below
      exact absurd (Nat.le_of_add_le_add_left below) (Nat.not_le_of_lt inside)
    exact (if_neg notCursor).trans (shown.unwritten row column below)

/-- Moving on by a cell is shown by the grid that does so, too. -/
theorem advance (inside : scroller.grid.row < size.rows) :
    page.advance.Shown scroller.advance := by
  have sameStep :
      scroller.grid.column + 1 < scroller.grid.size.columns ↔ page.column + 1 < size.columns := by
    rw [shown.sameSize, shown.column]
  unfold Page.advance Scroller.advance
  by_cases more : page.column + 1 < size.columns
  · rw [if_pos more, if_pos (sameStep.mpr more)]
    exact ⟨shown.sameSize, shown.top, shown.row, congrArg (· + 1) shown.column, shown.row_le,
      shown.column ▸ more, fun full => absurd full (Nat.ne_of_lt inside), shown.cells,
      shown.unwritten⟩
  · rw [if_neg more, if_neg (mt sameStep.mp more)]
    exact shown.nextRow inside

/-- Adding a byte keeps the grid a window on the page. -/
theorem addByte (byte : UInt8) :
    (page.addByte byte).Shown (scroller.addByte byte) := by
  have ready := shown.makeRoom
  have inside := scroller.row_makeRoom_lt
  rw [ready.sameSize] at inside
  unfold Page.addByte Scroller.addByte
  cases Stroke.ofByte byte with
  | nothing => exact ready
  | newRow => exact (ready.nextRow inside).makeRoom
  | cell byte => exact (ready.write inside byte).advance inside

/-- Page and grid are at the last column together. -/
theorem atLastColumn : page.atLastColumn = scroller.atLastColumn := by
  unfold Page.atLastColumn Scroller.atLastColumn
  rw [shown.sameSize, shown.column]

/-- Moving the cursor inside the window keeps the grid a window on the page. -/
theorem locate (row column : Word) :
    (page.perform (.locate row column)).Shown (scroller.perform (.locate row column)) := by
  obtain rfl := shown.sameSize
  have insideRow := TextGrid.clamp_lt row scroller.grid.size.rows_pos
  have insideColumn := TextGrid.clamp_lt column scroller.grid.size.columns_pos
  exact ⟨rfl, shown.top, congrArg (· + _) shown.top, rfl, Nat.le_of_lt insideRow, insideColumn,
    fun full => absurd full (Nat.ne_of_lt insideRow), shown.cells, shown.unwritten⟩

/-- A call on the page is shown by the same call on the grid. -/
theorem perform (call : TextCall) :
    (page.perform call).Shown (scroller.perform call) := by
  cases call with
  | addByte byte => exact shown.addByte byte
  | addBytes bytes =>
      exact spread_related Page.Shown (fun byte here => here.addByte byte)
        (fun here => here.atLastColumn) shown bytes
  | locate row column => exact shown.locate row column

/-- Any calls on the page are shown by the same calls on the grid. -/
theorem performAll (calls : List TextCall) :
    (calls.foldl Page.perform page).Shown (calls.foldl Scroller.perform scroller) := by
  induction calls generalizing page scroller with
  | nil => exact shown
  | cons call rest inductionHypothesis => exact inductionHypothesis (shown.perform call)

end Page.Shown

/-- A page on which nothing was written shows as a grid that was reset. -/
theorem Page.shown_blank
    (grid : TextGrid)
    (ram : Ram) :
    (Page.blank grid.size).Shown (Scroller.start grid ram) := by
  have small : TextGrid.window.size < Ram.capacity := by decide
  refine ⟨rfl, rfl, rfl, rfl, Nat.zero_le _, grid.size.columns_pos, fun _ => rfl, ?_, ?_⟩
  · intro row column insideRow insideColumn
    have readInside := TextGrid.cell_lt insideRow insideColumn
    have shownRow : (Scroller.start grid ram).scrolls + row < grid.size.rows := by
      rw [Scroller.start, Nat.zero_add]
      exact insideRow
    refine (TextGrid.byte_reset grid ram (Nat.lt_trans readInside small)).trans ?_
    rw [if_pos readInside]
    exact (if_pos shownRow).symm
  · intro row column below
    rw [Scroller.start, Nat.zero_add] at below
    exact if_neg (Nat.not_lt_of_le below)

namespace TextGrid

/--
The grid is a window on an endless page, as far down as it has moved up.

After every run of calls from a reset, the grid has the bytes of the page from
the row on that counts its moves, and the cursors agree. A byte moves the grid
when a full row left the cursor past the last, and a line feed when it leaves
the last row; filling the last cell leaves that to the next byte.
-/
theorem grid_shows_page
    (grid : TextGrid)
    (ram : Ram)
    (calls : List TextCall) :
    let text := calls.foldl perform (grid.reset ram)
    let counted := calls.foldl Scroller.perform (Scroller.start grid ram)
    let page := calls.foldl Page.perform (Page.blank grid.size)
    counted.text = text ∧
      page.top = counted.scrolls ∧
      (∀ row column,
        row < grid.size.rows →
        column < grid.size.columns →
        text.2.byte (window.address (row * grid.size.columns + column)) =
          page.cells (counted.scrolls + row) column) ∧
      page.row = counted.scrolls + text.1.row ∧
      page.column = text.1.column ∧
      (∀ byte,
        (counted.addByte byte).scrolls =
          counted.scrolls + (if text.1.row = grid.size.rows then 1 else 0) +
            if byte = 0x0a ∧ grid.size.rows ≤ text.1.row + 1 then 1 else 0) ∧
      (∀ row column, (counted.perform (.locate row column)).scrolls = counted.scrolls) ∧
      ∀ byte,
        byte ≠ 0x0d →
        byte ≠ 0x0a →
        text.1.row + 1 = grid.size.rows →
        text.1.column + 1 = grid.size.columns →
        (counted.addByte byte).scrolls = counted.scrolls ∧
          ∀ next, counted.scrolls < ((counted.addByte byte).addByte next).scrolls := by
  intro text counted page
  have sameText : counted.text = text := Scroller.text_performAll (Scroller.start grid ram) calls
  have shown : page.Shown counted := (Page.shown_blank grid ram).performAll calls
  rw [← sameText]
  refine ⟨rfl, shown.top, shown.cells, shown.row, shown.column, ?_, fun _ _ => rfl, ?_⟩
  · intro byte
    have full : grid.size.rows ≤ counted.grid.row ↔ counted.grid.row = grid.size.rows :=
      ⟨fun past => Nat.le_antisymm shown.row_le past, fun same => Nat.le_of_eq same.symm⟩
    rw [Scroller.scrolls_addByte]
    simp only [shown.sameSize, full]
    rfl
  · intro byte notReturn notFeed lastRow lastColumn
    rw [← shown.sameSize] at lastRow lastColumn
    obtain ⟨written, filled⟩ := Scroller.addByte_lastCell notReturn notFeed lastRow lastColumn
    have full :
        (counted.write written).nextRow.grid.size.rows ≤
          (counted.write written).nextRow.grid.row :=
      Nat.le_of_eq lastRow.symm
    rw [filled]
    exact ⟨rfl, fun next => Scroller.scrolls_lt_addByte full next⟩

end TextGrid

end Handheld
