import Handheld.Proofs.Screen.Confinement
import Handheld.Proofs.Text.Page

namespace Handheld

/-!
# Text stays inside its grid

The cursor stands in a cell, or at the start of the row just past the last, and
cells are written without a check. Every call keeps the cursor there, also where
the font size changes between calls, so memory past the cells of the grid is
never written.
-/

namespace Ram.SameOutside

/-- Nothing is different outside a longer range either. -/
theorem widen
    {start size larger : Nat}
    {before after : Ram}
    (same : SameOutside start size before after)
    (longer : size ≤ larger) :
    SameOutside start larger before after :=
  fun address inside outside => same address inside (by omega)

end Ram.SameOutside

namespace TextGrid

/-- The number of cells of a grid. -/
def cellCount (size : FontSize) : Nat :=
  size.rows * size.columns

/-- The cells of either font size fit the memory of the grid. -/
theorem cellCount_le_window (size : FontSize) : cellCount size ≤ window.size := by
  cases size <;> decide

/-- The cursor stands in a cell, or at the start of the row just past the last. -/
def CursorInside (grid : TextGrid) : Prop :=
  grid.column < grid.size.columns ∧
    (grid.row < grid.size.rows ∨ grid.row = grid.size.rows ∧ grid.column = 0)

/-- After a change of the font size the cursor stands in the first cell. -/
theorem cursorInside_first (size : FontSize) : (setSize size).CursorInside :=
  ⟨size.columns_pos, .inl size.rows_pos⟩

/-- Moving all rows up writes cells only. -/
theorem sameOutside_scrollUp
    (grid : TextGrid)
    (ram : Ram) :
    Ram.SameOutside window.start (cellCount grid.size) ram (grid.scrollUp ram).2 := by
  intro address inside outside
  have small : window.start + window.size < Ram.capacity := by decide
  have fits := cellCount_le_window grid.size
  have rows :
      (grid.size.rows - 1) * grid.size.columns + grid.size.columns = cellCount grid.size := by
    cases grid.size <;> rfl
  have down : window.address 0 ≤ window.address grid.size.columns := Nat.le_add_right _ _
  unfold scrollUp Window.copy Window.fill
  dsimp only
  rw [Ram.copy, if_pos down]
  unfold Window.address
  rw [Ram.byte_fill _ _ (by omega) inside, if_neg (by omega),
    Ram.byte_copyForward _ (by omega) (by omega) inside, if_neg (by omega)]

/-- Clearing the grid writes its own memory only. -/
theorem sameOutside_reset
    (grid : TextGrid)
    (ram : Ram) :
    Ram.SameOutside window.start window.size ram (grid.reset ram).2 := by
  intro address inside outside
  have start : window.start = 0 := rfl
  rw [byte_reset grid ram inside, if_neg (by omega)]

end TextGrid

/-- The page that a grid shows, as far as it can be seen from the grid. -/
def Page.ofGrid (scroller : Scroller) : Page scroller.grid.size where
  cells row column :=
    if row < scroller.scrolls + scroller.grid.size.rows then
      scroller.ram.byte
        (TextGrid.window.address ((row - scroller.scrolls) * scroller.grid.size.columns + column))
    else
      0x20
  top := scroller.scrolls
  row := scroller.scrolls + scroller.grid.row
  column := scroller.grid.column

/-- A grid whose cursor is inside is a window on a page. -/
theorem Page.shown_ofGrid
    {scroller : Scroller}
    (inside : scroller.grid.CursorInside) :
    (Page.ofGrid scroller).Shown scroller := by
  obtain ⟨insideColumn, insideRow⟩ := inside
  refine ⟨rfl, rfl, rfl, rfl, by omega, insideColumn, by omega, ?_, ?_⟩
  · intro row column shownRow _
    unfold ofGrid
    dsimp only
    rw [if_pos (Nat.add_lt_add_left shownRow _), Nat.add_sub_cancel_left]
  · intro row column below
    exact if_neg (Nat.not_lt_of_le below)

theorem Scroller.ram_advance (scroller : Scroller) : scroller.advance.ram = scroller.ram := by
  unfold advance
  split
  · rfl
  · rfl

namespace Page.Shown

variable
  {size : FontSize}
  {page : Page size}
  {scroller : Scroller}
  (shown : page.Shown scroller)

include shown

/-- A grid that shows a page has its cursor inside. -/
theorem cursorInside : scroller.grid.CursorInside := by
  have bound := shown.row_le
  have start := shown.start
  unfold TextGrid.CursorInside
  rw [shown.sameSize]
  exact ⟨shown.column_lt, by omega⟩

/-- Making room writes cells only. -/
theorem sameOutside_makeRoom :
    Ram.SameOutside TextGrid.window.start (TextGrid.cellCount size)
      scroller.ram scroller.makeRoom.ram := by
  rw [← shown.sameSize]
  unfold Scroller.makeRoom
  split
  · exact TextGrid.sameOutside_scrollUp scroller.grid scroller.ram
  · exact .refl _ _ _

/-- Inside the grid, the cell at the cursor is written. -/
theorem sameOutside_write
    (inside : scroller.grid.row < size.rows)
    (byte : UInt8) :
    Ram.SameOutside TextGrid.window.start (TextGrid.cellCount size)
      scroller.ram (scroller.write byte).ram := by
  have fits := TextGrid.cellCount_le_window size
  have small : TextGrid.window.start + TextGrid.window.size < Ram.capacity := by decide
  have insideColumn := shown.column_lt
  have rows := Nat.mul_le_mul_right size.columns (Nat.succ_le_of_lt inside)
  rw [Nat.succ_mul] at rows
  unfold TextGrid.cellCount at *
  refine Ram.sameOutside_setByte scroller.ram byte (by omega) (Nat.le_add_right _ _) ?_
  unfold Window.address
  rw [shown.sameSize]
  omega

/-- Adding a byte writes cells only. -/
theorem sameOutside_addByte (byte : UInt8) :
    Ram.SameOutside TextGrid.window.start (TextGrid.cellCount size)
      scroller.ram (scroller.addByte byte).ram := by
  have ready := shown.makeRoom
  have inside := scroller.row_makeRoom_lt
  rw [ready.sameSize] at inside
  refine shown.sameOutside_makeRoom.trans ?_
  unfold Scroller.addByte
  cases Stroke.ofByte byte with
  | nothing => exact .refl _ _ _
  | newRow => exact (ready.nextRow inside).sameOutside_makeRoom
  | cell byte =>
      dsimp only
      rw [Scroller.ram_advance]
      exact ready.sameOutside_write inside byte

/-- A call writes cells only. -/
theorem sameOutside_perform (call : TextCall) :
    Ram.SameOutside TextGrid.window.start (TextGrid.cellCount size)
      scroller.ram (scroller.perform call).ram := by
  cases call with
  | addByte byte => exact shown.sameOutside_addByte byte
  | locate row column => exact .refl _ _ _
  | addBytes bytes =>
      have kept := spread_related
        (fun (page : Page size) later =>
          page.Shown later ∧
            Ram.SameOutside TextGrid.window.start (TextGrid.cellCount size)
              scroller.ram later.ram)
        (fun byte ⟨here, same⟩ => ⟨here.addByte byte, same.trans (here.sameOutside_addByte byte)⟩)
        (fun ⟨here, _⟩ => here.atLastColumn)
        ⟨shown, .refl _ _ _⟩ bytes
      exact kept.2

end Page.Shown

/-- A call on the text, or one that changes its font size or clears it. -/
inductive GridCall where
  | text (call : TextCall)
  | setSize (size : FontSize)
  | reset
  deriving DecidableEq, Repr

namespace TextGrid

/-- Make a call on the grid, of whatever kind. -/
def respond
    (text : TextGrid × Ram) :
    GridCall → TextGrid × Ram
  | .text call => perform text call
  | .setSize size => (setSize size, text.2)
  | .reset => text.1.reset text.2

section Step

variable
  {text : TextGrid × Ram}
  (inside : text.1.CursorInside)

include inside

/-- Adding text and moving the cursor keeps it inside and writes cells only. -/
theorem perform_confined (call : TextCall) :
    (perform text call).1.CursorInside ∧
      Ram.SameOutside window.start (cellCount text.1.size) text.2 (perform text call).2 := by
  -- A call keeps the grid a window on some page, whose cursor is never outside the window.
  let scroller : Scroller := { grid := text.1, ram := text.2 }
  have shown : (Page.ofGrid scroller).Shown scroller := Page.shown_ofGrid inside
  have performed : (scroller.perform call).text = perform text call :=
    Scroller.text_perform scroller call
  rw [← performed]
  exact ⟨(shown.perform call).cursorInside, shown.sameOutside_perform call⟩

/-- Adding text and moving the cursor keeps the font size. -/
theorem size_perform (call : TextCall) : (perform text call).1.size = text.1.size := by
  let scroller : Scroller := { grid := text.1, ram := text.2 }
  have shown : (Page.ofGrid scroller).Shown scroller := Page.shown_ofGrid inside
  have performed : (scroller.perform call).text = perform text call :=
    Scroller.text_perform scroller call
  rw [← performed]
  exact (shown.perform call).sameSize

/-- Every call leaves the cursor inside. -/
theorem cursorInside_respond (call : GridCall) : (respond text call).1.CursorInside := by
  cases call with
  | text call => exact (perform_confined inside call).1
  | setSize size => exact cursorInside_first size
  | reset => exact cursorInside_first text.1.size

/-- No call writes past the memory of the grid. -/
theorem sameOutside_respond (call : GridCall) :
    Ram.SameOutside window.start window.size text.2 (respond text call).2 := by
  cases call with
  | text call =>
      exact (perform_confined inside call).2.widen (cellCount_le_window text.1.size)
  | setSize size => exact .refl _ _ _
  | reset => exact sameOutside_reset text.1 text.2

end Step

/-- Any calls leave the cursor inside and write the memory of the grid only. -/
theorem respondAll_confined
    {text : TextGrid × Ram}
    (inside : text.1.CursorInside)
    (calls : List GridCall) :
    (calls.foldl respond text).1.CursorInside ∧
      Ram.SameOutside window.start window.size text.2 (calls.foldl respond text).2 := by
  induction calls generalizing text with
  | nil => exact ⟨inside, .refl _ _ _⟩
  | cons call rest inductionHypothesis =>
      obtain ⟨later, same⟩ := inductionHypothesis (cursorInside_respond inside call)
      exact ⟨later, (sameOutside_respond inside call).trans same⟩

/--
The cursor stays inside the grid, and what is written stays inside it too.

After any calls on a new grid, whatever sizes it has had, the cursor stands in a
cell or at the start of the row past the last. Text that comes next, and a move
of the cursor, change no byte but those of the cells of the current size; a
change of size changes none, and clearing only the memory of the grid.
-/
theorem text_stays_inside
    (ram : Ram)
    (calls : List GridCall) :
    let text := calls.foldl respond ({}, ram)
    let rows := text.1.size.rows
    let columns := text.1.size.columns
    text.1.column < columns ∧
      (text.1.row < rows ∨ text.1.row = rows ∧ text.1.column = 0) ∧
      (∀ call,
        Ram.SameOutside window.start (rows * columns) text.2 (respond text (.text call)).2) ∧
      (∀ size, (respond text (.setSize size)).2 = text.2) ∧
      Ram.SameOutside window.start window.size text.2 (respond text .reset).2 ∧
      Ram.SameOutside window.start window.size ram text.2 := by
  intro text rows columns
  obtain ⟨inside, same⟩ :
      text.1.CursorInside ∧ Ram.SameOutside window.start window.size ram text.2 :=
    respondAll_confined (cursorInside_first .large) calls
  exact ⟨inside.1, inside.2, fun call => (perform_confined inside call).2, fun _ => rfl,
    sameOutside_reset text.1 text.2, same⟩

end TextGrid

end Handheld
