import Handheld.Proofs.Text.CursorBounds
import Handheld.Proofs.Text.Rendering
import Handheld.Proofs.Text.SplitText

namespace Handheld

/-!
# Short lines of text

A line without a line feed that ends before the last column is written from the
cursor on as it is: no row moves up and nothing is put in between to keep a
character whole. On a row that was blank it is followed by blank cells.
-/

/-- The byte that a stroke puts into a cell, if it fills one. -/
def Stroke.cell? : Stroke → Option UInt8
  | .cell byte => some byte
  | .nothing | .newRow => none

namespace TextGrid

/-- The cells that a line fills: none for a carriage return, and a space for a tab. -/
def lineCells (line : List UInt8) : List UInt8 :=
  line.filterMap fun byte => (Stroke.ofByte byte).cell?

/-- A line takes no more cells than it has bytes. -/
theorem length_lineCells_le (line : List UInt8) : (lineCells line).length ≤ line.length :=
  List.length_filterMap_le _ _

/-- The cells of two texts in a line follow each other. -/
theorem lineCells_append (first second : List UInt8) :
    lineCells (first ++ second) = lineCells first ++ lineCells second :=
  List.filterMap_append

/-- The address of the cell at the cursor. -/
def cursorCell (grid : TextGrid) : Nat :=
  window.address (grid.row * grid.size.columns + grid.column)

theorem cursorCell_of_first
    {grid : TextGrid}
    (first : grid.column = 0) :
    grid.cursorCell = window.address (grid.row * grid.size.columns) := by
  rw [cursorCell, first, Nat.add_zero]

/-- Move the cursor to the right. -/
def right
    (grid : TextGrid)
    (count : Nat) :
    TextGrid :=
  { grid with column := grid.column + count }

/-- Cells of a row follow each other in memory. -/
theorem cursorCell_right
    (grid : TextGrid)
    (count : Nat) :
    (grid.right count).cursorCell = grid.cursorCell + count := by
  simp only [cursorCell, right, Window.address]
  omega

/-- Moves to the right add up. -/
theorem right_right
    (grid : TextGrid)
    (first second : Nat) :
    (grid.right first).right second = grid.right (first + second) := by
  simp only [right, Nat.add_assoc]

/-- Write the cells of a line from the cursor on and move it behind them. -/
def putLine
    (grid : TextGrid)
    (ram : Ram)
    (line : List UInt8) :
    TextGrid × Ram :=
  (grid.right (lineCells line).length, ram.write grid.cursorCell (lineCells line))

/-- A line may be put in two parts. -/
theorem putLine_append
    (grid : TextGrid)
    (ram : Ram)
    (first second : List UInt8) :
    grid.putLine ram (first ++ second) =
      (grid.putLine ram first).1.putLine (grid.putLine ram first).2 second := by
  simp only [putLine, lineCells_append, List.length_append, Ram.write_append, cursorCell_right,
    right_right]

/-- The cursor stands in a row and the line ends before the last column. -/
structure Short
    (grid : TextGrid)
    (line : List UInt8) :
    Prop where
  row : grid.row < grid.size.rows
  column : grid.column + line.length < grid.size.columns
  noFeed : 0x0a ∉ line

/-- A grid whose cursor stands at the start of a row. -/
def rowStart
    (size : FontSize)
    (row : Nat) :
    TextGrid :=
  { size := size, row := row, column := 0 }

namespace Short

section FirstByte

variable
  {grid : TextGrid}
  {byte : UInt8}
  {later : List UInt8}
  (short : grid.Short (byte :: later))

include short

theorem beforeLast : grid.column + 1 < grid.size.columns := by
  have column := short.column
  rw [List.length_cons] at column
  omega

/-- Before the last column nothing is skipped. -/
theorem skipLastColumn (ram : Ram) : grid.skipLastColumn ram = (grid, ram) := by
  have before := short.beforeLast
  exact if_neg (by omega)

/-- Inside a row, a byte is put into its cell. -/
theorem addByte (ram : Ram) : grid.addByte ram byte = grid.putLine ram [byte] := by
  have noScroll : grid.makeRoom ram = (grid, ram) := if_neg (Nat.not_le_of_lt short.row)
  rw [addByte_eq_stroke, noScroll]
  cases stroke : Stroke.ofByte byte with
  | nothing =>
      have cells : lineCells [byte] = [] := by simp [lineCells, stroke, Stroke.cell?]
      rw [putLine, cells]
      rfl
  | newRow =>
      have feeds := Stroke.eq_feed_of_newRow stroke
      exact absurd feeds.symm (List.ne_of_not_mem_cons short.noFeed)
  | cell written =>
      have cells : lineCells [byte] = [written] := by simp [lineCells, stroke, Stroke.cell?]
      rw [putLine, cells]
      exact if_neg (Nat.not_le_of_lt short.beforeLast)

/-- Behind its first byte the rest of a short line is short. -/
theorem rest : (grid.right (lineCells [byte]).length).Short later := by
  have filled : (lineCells [byte]).length ≤ 1 := length_lineCells_le [byte]
  have column := short.column
  rw [List.length_cons] at column
  exact {
    row := short.row
    column := by
      change grid.column + (lineCells [byte]).length + later.length < grid.size.columns
      omega
    noFeed := List.not_mem_of_not_mem_cons short.noFeed
  }

end FirstByte

/-- A short line is written as it is. -/
theorem addBytes
    {grid : TextGrid}
    {line : List UInt8}
    (short : grid.Short line)
    (ram : Ram) :
    grid.addBytes ram line = grid.putLine ram line := by
  -- A byte fills at most one cell, so what is left of the line is short behind it.
  fun_induction TextGrid.addBytes grid ram line with
  | case1 => rfl
  | case2 grid ram byte plain => exact short.addByte ram
  | case3 grid ram byte leads aligned spaced skipped =>
      cases (short.skipLastColumn ram).symm.trans skipped
      exact short.addByte ram
  | case4 grid ram byte next rest plain moved written added inductionHypothesis =>
      cases (short.addByte ram).symm.trans added
      have whole := putLine_append grid ram [byte] (next :: rest)
      exact (inductionHypothesis short.rest).trans whole.symm
  | case5 grid ram byte next rest leads aligned spaced skipped half lead first moved written second
      inductionHypothesis =>
      cases (short.skipLastColumn ram).symm.trans skipped
      cases (short.addByte ram).symm.trans first
      cases (short.rest.addByte _).symm.trans second
      have whole := putLine_append grid ram [byte] (next :: rest)
      have behind :=
        putLine_append (grid.putLine ram [byte]).1 (grid.putLine ram [byte]).2 [next] rest
      exact (inductionHypothesis short.rest.rest).trans (behind.symm.trans whole.symm)

end Short

/-- The cells of a row that shows a line from its start on and is blank behind it. -/
def rowCells
    (size : FontSize)
    (line : List UInt8) :
    List UInt8 :=
  lineCells line ++ List.replicate (size.columns - (lineCells line).length) 0

/-- Clearing the grid leaves blank rows. -/
theorem cells_reset
    (grid : TextGrid)
    (ram : Ram)
    {size : FontSize}
    {row : Nat}
    (inside : row < size.rows) :
    cells size (grid.reset ram).2 row = rowCells size [] := by
  have small : window.size ≤ Ram.capacity := by decide
  have blank : rowCells size [] = List.replicate size.columns 0 := by cases size <;> rfl
  rw [blank, List.eq_replicate_iff]
  refine ⟨Ram.length_bytes _ _ _, fun byte member => ?_⟩
  obtain ⟨address, inRow, rfl⟩ := List.mem_map.mp member
  obtain ⟨column, insideColumn, rfl⟩ := List.mem_range'.mp inRow
  have cell : window.address (row * size.columns) + 1 * column < window.size := by
    simpa only [Window.address, Nat.one_mul, Nat.add_assoc] using cell_lt inside insideColumn
  rw [byte_reset grid ram (Nat.lt_of_lt_of_le cell small), if_pos cell]

section Rows

variable
  {grid : TextGrid}
  (ram : Ram)
  {line : List UInt8}
  (short : grid.Short line)
  (first : grid.column = 0)

include short first

/-- A line at the start of a row stays in that row. -/
theorem sameOutside_putLine :
    Ram.SameOutside (window.address (grid.row * grid.size.columns)) (lineCells line).length
      ram (grid.putLine ram line).2 := by
  have below := cells_below short.row
  have bitmap := Target.graphics.base_le
  have filled := length_lineCells_le line
  have column := short.column
  rw [putLine, cursorCell_of_first first]
  exact Ram.sameOutside_write ram (by omega) Nat.le.refl

/-- A blank row shows the line that is written at its start. -/
theorem cells_putLine (blank : cells grid.size ram grid.row = rowCells grid.size []) :
    cells grid.size (grid.putLine ram line).2 grid.row = rowCells grid.size line := by
  have below := cells_below short.row
  have bitmap := Target.graphics.base_le
  have filled := length_lineCells_le line
  have column := short.column
  have start := cursorCell_of_first first
  obtain ⟨room, columns⟩ : ∃ room, grid.size.columns = (lineCells line).length + room :=
    Nat.exists_eq_add_of_le (by omega)
  have behind :
      ram.bytes (grid.cursorCell + (lineCells line).length) room = List.replicate room 0 := by
    have whole : ram.bytes grid.cursorCell grid.size.columns = List.replicate grid.size.columns 0 :=
      start ▸ blank
    rw [columns, Ram.bytes_add, ← List.replicate_append_replicate] at whole
    exact List.append_inj_right whole (by simp)
  calc
    cells grid.size (grid.putLine ram line).2 grid.row
      = (ram.write grid.cursorCell (lineCells line)).bytes grid.cursorCell
          ((lineCells line).length + room) := by
        rw [cells, ← start, columns]
        rfl
    _ = lineCells line ++ List.replicate room 0 := by
        rw [Ram.bytes_write_add ram (by omega), behind]
    _ = rowCells grid.size line := by rw [rowCells, columns, Nat.add_sub_cancel_left]

/-- The other rows stay as they are. -/
theorem cells_putLine_of_ne
    {row : Nat}
    (inside : row < grid.size.rows)
    (other : row ≠ grid.row) :
    cells grid.size (grid.putLine ram line).2 row = cells grid.size ram row := by
  have filled := length_lineCells_le line
  have column := short.column
  have below := cells_below inside
  have bitmap := Target.graphics.base_le
  have same := sameOutside_putLine ram short first
  refine same.bytes_eq (by omega) ?_
  unfold Window.address
  rcases Nat.lt_or_gt_of_ne other with above | under
  · have rows := Nat.mul_le_mul_right grid.size.columns (Nat.succ_le_of_lt above)
    rw [Nat.succ_mul] at rows
    exact .inl (by omega)
  · have rows := Nat.mul_le_mul_right grid.size.columns (Nat.succ_le_of_lt under)
    rw [Nat.succ_mul] at rows
    exact .inr (by omega)

end Rows

end TextGrid

end Handheld
