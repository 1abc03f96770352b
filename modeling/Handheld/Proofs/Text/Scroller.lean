import Handheld.Text.Grid

namespace Handheld

/-!
# How often the text moves up

A byte added to the text asks for one of three things, and a call on the text is
a run of bytes or a move of the cursor. The scroller makes the calls on the grid
and counts how often its rows move up: a line feed moves them at once when it
leaves the last row, and a row that is full only when the next byte comes.
-/

/-- What a byte asks for when it is added to the text. -/
inductive Stroke where
  | nothing
  | newRow
  | cell (byte : UInt8)
  deriving DecidableEq, Repr

/-- A carriage return asks for nothing, a line feed for the next row, and a tab for a space. -/
def Stroke.ofByte : UInt8 → Stroke
  | 0x0d => .nothing
  | 0x0a => .newRow
  | 0x09 => .cell 0x20
  | byte => .cell byte

theorem Stroke.eq_feed_of_newRow
    {byte : UInt8}
    (feeds : ofByte byte = .newRow) :
    byte = 0x0a := by
  unfold ofByte at feeds
  split at feeds
  · cases feeds
  · rfl
  · cases feeds
  · cases feeds

/-- All bytes but a carriage return and a line feed fill a cell. -/
theorem Stroke.exists_cell
    {byte : UInt8}
    (notReturn : byte ≠ 0x0d)
    (notFeed : byte ≠ 0x0a) :
    ∃ written, ofByte byte = .cell written := by
  unfold ofByte
  split
  · exact absurd rfl notReturn
  · exact absurd rfl notFeed
  · exact ⟨_, rfl⟩
  · exact ⟨_, rfl⟩

/-- Leave the last column empty with a space, so that a pair of bytes is not split. -/
def align
    (add : σ → UInt8 → σ)
    (atLastColumn : σ → Bool)
    (text : σ) :
    σ :=
  if atLastColumn text then add text 0x20 else text

/-- Add bytes one by one, those of a pair in one row. -/
def spread
    (add : σ → UInt8 → σ)
    (atLastColumn : σ → Bool)
    (text : σ) :
    List UInt8 → σ
  | [] => text
  | [byte] =>
      if byte < 0x80 then
        add text byte
      else
        add (align add atLastColumn text) byte
  | byte :: next :: rest =>
      if byte < 0x80 then
        spread add atLastColumn (add text byte) (next :: rest)
      else
        spread add atLastColumn (add (add (align add atLastColumn text) byte) next) rest

/-- Two ways to add bytes stay related if adding a byte keeps them so. -/
theorem spread_related
    (related : σ → τ → Prop)
    {add : σ → UInt8 → σ}
    {otherAdd : τ → UInt8 → τ}
    {atLastColumn : σ → Bool}
    {otherAtLastColumn : τ → Bool}
    (adds :
      ∀ {text other} byte, related text other → related (add text byte) (otherAdd other byte))
    (columns : ∀ {text other}, related text other → atLastColumn text = otherAtLastColumn other)
    {text : σ}
    {other : τ}
    (start : related text other)
    (bytes : List UInt8) :
    related (spread add atLastColumn text bytes)
      (spread otherAdd otherAtLastColumn other bytes) := by
  have aligned :
      ∀ {text other},
        related text other →
        related (align add atLastColumn text) (align otherAdd otherAtLastColumn other) := by
    intro text other here
    unfold align
    rw [columns here]
    split
    · exact adds 0x20 here
    · exact here
  fun_induction spread add atLastColumn text bytes generalizing other with
  | case1 text => exact start
  | case2 text byte plain =>
      rw [spread, if_pos plain]
      exact adds byte start
  | case3 text byte leads =>
      rw [spread, if_neg leads]
      exact adds byte (aligned start)
  | case4 text byte next rest plain inductionHypothesis =>
      rw [spread, if_pos plain]
      exact inductionHypothesis (adds byte start)
  | case5 text byte next rest leads inductionHypothesis =>
      rw [spread, if_neg leads]
      exact inductionHypothesis (adds next (adds byte (aligned start)))

/-- A call on the text. -/
inductive TextCall where
  | addByte (byte : UInt8)
  | addBytes (bytes : List UInt8)
  | locate (row column : Word)
  deriving DecidableEq, Repr

namespace TextGrid

/-- Make a call on the grid. -/
def perform
    (text : TextGrid × Ram) :
    TextCall → TextGrid × Ram
  | .addByte byte => text.1.addByte text.2 byte
  | .addBytes bytes => text.1.addBytes text.2 bytes
  | .locate row column => (text.1.locate row column, text.2)

/-- A byte is handled as its stroke says, once there is room. -/
theorem addByte_eq_stroke
    (grid : TextGrid)
    (ram : Ram)
    (byte : UInt8) :
    grid.addByte ram byte =
      let ready := grid.makeRoom ram
      match Stroke.ofByte byte with
      | .nothing => ready
      | .newRow => { ready.1 with row := ready.1.row + 1, column := 0 : TextGrid }.makeRoom ready.2
      | .cell byte => ready.1.putCell ready.2 byte := by
  unfold addByte
  dsimp only
  split
  · rfl
  · rfl
  · rfl
  · rename_i notReturn notFeed notTab
    rw [Stroke.ofByte]
    · exact notReturn
    · exact notFeed
    · exact notTab

/-- Whether the cursor stands in the last column. -/
def atLastColumn (text : TextGrid × Ram) : Bool :=
  text.1.column = text.1.size.columns - 1

/-- The last column is skipped by a space. -/
theorem skipLastColumn_eq_align
    (grid : TextGrid)
    (ram : Ram) :
    grid.skipLastColumn ram =
      align (fun text byte => text.1.addByte text.2 byte) atLastColumn (grid, ram) := by
  unfold skipLastColumn align atLastColumn
  by_cases last : grid.column = grid.size.columns - 1
  · simp [last]
  · simp [last]

/-- Bytes are added one by one, with the pairs kept whole. -/
theorem addBytes_eq_spread
    (grid : TextGrid)
    (ram : Ram)
    (bytes : List UInt8) :
    grid.addBytes ram bytes =
      spread (fun text byte => text.1.addByte text.2 byte) atLastColumn (grid, ram) bytes := by
  fun_induction TextGrid.addBytes grid ram bytes with
  | case1 => rfl
  | case2 grid ram byte plain => rw [spread, if_pos plain]
  | case3 grid ram byte leads aligned spaced skipped =>
      rw [spread, if_neg leads, ← skipLastColumn_eq_align, skipped]
  | case4 grid ram byte next rest plain moved written added inductionHypothesis =>
      rw [spread, if_pos plain, inductionHypothesis]
      dsimp only
      rw [added]
  | case5 grid ram byte next rest leads aligned spaced skipped half lead first moved written second
      inductionHypothesis =>
      rw [spread, if_neg leads, ← skipLastColumn_eq_align, skipped, inductionHypothesis]
      dsimp only
      rw [first]
      dsimp only
      rw [second]

end TextGrid

theorem FontSize.rows_pos (size : FontSize) : 0 < size.rows := by
  cases size <;> decide

theorem FontSize.columns_pos (size : FontSize) : 0 < size.columns := by
  cases size <;> decide

/-- The grid, its memory, and how often it has moved up. -/
structure Scroller where
  grid : TextGrid
  ram : Ram
  scrolls : Nat := 0

namespace Scroller

/-- The grid and its memory alone. -/
def text (scroller : Scroller) : TextGrid × Ram :=
  (scroller.grid, scroller.ram)

/-- The grid after a reset, before it has moved. -/
def start
    (grid : TextGrid)
    (ram : Ram) :
    Scroller :=
  let cleared := grid.reset ram
  { grid := cleared.1, ram := cleared.2 }

/-- Whether the cursor stands in the last column. -/
def atLastColumn (scroller : Scroller) : Bool :=
  scroller.grid.column = scroller.grid.size.columns - 1

/-- Make room when the cursor stands past the last row, and count it. -/
def makeRoom (scroller : Scroller) : Scroller :=
  if scroller.grid.size.rows ≤ scroller.grid.row then
    let moved := scroller.grid.scrollUp scroller.ram
    { grid := moved.1, ram := moved.2, scrolls := scroller.scrolls + 1 }
  else
    scroller

/-- Put the cursor at the start of the next row. -/
def nextRow (scroller : Scroller) : Scroller :=
  { scroller with grid := { scroller.grid with row := scroller.grid.row + 1, column := 0 } }

/-- Put a byte into the cell at the cursor. -/
def write
    (scroller : Scroller)
    (byte : UInt8) :
    Scroller :=
  { scroller with
    ram := scroller.ram.setByte
      (TextGrid.window.address
        (scroller.grid.row * scroller.grid.size.columns + scroller.grid.column)) byte }

/-- Move the cursor on to the next cell. -/
def advance (scroller : Scroller) : Scroller :=
  if scroller.grid.column + 1 < scroller.grid.size.columns then
    { scroller with grid := { scroller.grid with column := scroller.grid.column + 1 } }
  else
    scroller.nextRow

/-- Add a byte at the cursor. -/
def addByte
    (scroller : Scroller)
    (byte : UInt8) :
    Scroller :=
  match Stroke.ofByte byte with
  | .nothing => scroller.makeRoom
  | .newRow => scroller.makeRoom.nextRow.makeRoom
  | .cell byte => (scroller.makeRoom.write byte).advance

/-- Make a call and count how often the grid moves up. -/
def perform
    (scroller : Scroller) :
    TextCall → Scroller
  | .addByte byte => scroller.addByte byte
  | .addBytes bytes => spread addByte atLastColumn scroller bytes
  | .locate row column => { scroller with grid := scroller.grid.locate row column }

/-- Counting the moves does not change how room is made. -/
theorem text_makeRoom (scroller : Scroller) :
    scroller.makeRoom.text = scroller.grid.makeRoom scroller.ram := by
  unfold makeRoom TextGrid.makeRoom
  split
  · rfl
  · rfl

/-- A cell is written and passed as on the grid. -/
theorem text_advance_write
    (scroller : Scroller)
    (byte : UInt8) :
    (scroller.write byte).advance.text = scroller.grid.putCell scroller.ram byte := by
  unfold advance TextGrid.putCell
  dsimp only
  by_cases more : scroller.grid.column + 1 < scroller.grid.size.columns
  · rw [if_neg (Nat.not_le_of_lt more)]
    exact congrArg text (if_pos more)
  · rw [if_pos (Nat.le_of_not_lt more)]
    exact congrArg text (if_neg more)

/-- Counting the moves does not change how a byte is added. -/
theorem text_addByte
    (scroller : Scroller)
    (byte : UInt8) :
    (scroller.addByte byte).text = scroller.grid.addByte scroller.ram byte := by
  rw [TextGrid.addByte_eq_stroke, ← text_makeRoom]
  unfold addByte
  cases Stroke.ofByte byte with
  | nothing => rfl
  | newRow => exact text_makeRoom scroller.makeRoom.nextRow
  | cell byte => exact text_advance_write scroller.makeRoom byte

/-- Counting makes no difference to the grid. -/
theorem text_perform
    (scroller : Scroller)
    (call : TextCall) :
    (scroller.perform call).text = TextGrid.perform scroller.text call := by
  cases call with
  | addByte byte => exact text_addByte scroller byte
  | locate row column => rfl
  | addBytes bytes =>
      refine Eq.trans ?_ (TextGrid.addBytes_eq_spread _ _ bytes).symm
      refine spread_related (fun (counted : Scroller) plain => counted.text = plain) ?_ ?_ rfl bytes
      · rintro counted _ byte rfl
        exact text_addByte counted byte
      · rintro counted _ rfl
        rfl

/-- Counting the moves does not change what calls do. -/
theorem text_performAll
    (scroller : Scroller)
    (calls : List TextCall) :
    (calls.foldl perform scroller).text = calls.foldl TextGrid.perform scroller.text := by
  induction calls generalizing scroller with
  | nil => rfl
  | cons call rest inductionHypothesis =>
      rw [List.foldl_cons, List.foldl_cons, inductionHypothesis, text_perform]

theorem size_makeRoom (scroller : Scroller) :
    scroller.makeRoom.grid.size = scroller.grid.size := by
  unfold makeRoom
  split
  · rfl
  · rfl

/-- With room made, the cursor stands inside the grid. -/
theorem row_makeRoom_lt (scroller : Scroller) :
    scroller.makeRoom.grid.row < scroller.makeRoom.grid.size.rows := by
  rw [size_makeRoom]
  unfold makeRoom
  split
  · exact Nat.sub_one_lt_of_lt scroller.grid.size.rows_pos
  · rename_i inside
    exact Nat.lt_of_not_le inside

/-- There is room as long as the cursor is in a row. -/
theorem makeRoom_of_lt
    {scroller : Scroller}
    (inside : scroller.grid.row < scroller.grid.size.rows) :
    scroller.makeRoom = scroller :=
  if_neg (Nat.not_le_of_lt inside)

/-- Past the last row, room is made by moving up once. -/
theorem makeRoom_of_le
    {scroller : Scroller}
    (outside : scroller.grid.size.rows ≤ scroller.grid.row) :
    scroller.makeRoom =
      { grid := (scroller.grid.scrollUp scroller.ram).1
        ram := (scroller.grid.scrollUp scroller.ram).2
        scrolls := scroller.scrolls + 1 } :=
  if_pos outside

/-- Making room counts a move exactly when the cursor is past the last row. -/
theorem scrolls_makeRoom (scroller : Scroller) :
    scroller.makeRoom.scrolls =
      scroller.scrolls + if scroller.grid.size.rows ≤ scroller.grid.row then 1 else 0 := by
  unfold makeRoom
  split
  · rfl
  · rfl

theorem scrolls_advance (scroller : Scroller) :
    scroller.advance.scrolls = scroller.scrolls := by
  unfold advance
  split
  · rfl
  · rfl

/-- A line feed leaves the grid from its last row, with or without room to be made first. -/
theorem le_row_nextRow_makeRoom (scroller : Scroller) :
    scroller.makeRoom.nextRow.grid.size.rows ≤ scroller.makeRoom.nextRow.grid.row ↔
      scroller.grid.size.rows ≤ scroller.grid.row + 1 := by
  have positive := scroller.grid.size.rows_pos
  rcases Nat.lt_or_ge scroller.grid.row scroller.grid.size.rows with inside | outside
  · rw [makeRoom_of_lt inside]
    rfl
  · rw [makeRoom_of_le outside]
    change scroller.grid.size.rows ≤ scroller.grid.size.rows - 1 + 1 ↔ _
    omega

/-- The grid moves up for a full row when a byte comes, and for a line feed that leaves it. -/
theorem scrolls_addByte
    (scroller : Scroller)
    (byte : UInt8) :
    (scroller.addByte byte).scrolls =
      scroller.scrolls + (if scroller.grid.size.rows ≤ scroller.grid.row then 1 else 0) +
        if byte = 0x0a ∧ scroller.grid.size.rows ≤ scroller.grid.row + 1 then 1 else 0 := by
  rw [← scrolls_makeRoom]
  by_cases feed : byte = 0x0a
  · subst feed
    change scroller.makeRoom.nextRow.makeRoom.scrolls = _
    rw [scrolls_makeRoom]
    simp only [le_row_nextRow_makeRoom, true_and]
    rfl
  · rw [if_neg (fun feeds => feed feeds.1), addByte]
    cases stroke : Stroke.ofByte byte with
    | nothing => rfl
    | newRow => exact absurd (Stroke.eq_feed_of_newRow stroke) feed
    | cell written => exact scrolls_advance (scroller.makeRoom.write written)

/-- Filling the last cell leaves the cursor past the last row, and the rows where they are. -/
theorem addByte_lastCell
    {scroller : Scroller}
    {byte : UInt8}
    (notReturn : byte ≠ 0x0d)
    (notFeed : byte ≠ 0x0a)
    (lastRow : scroller.grid.row + 1 = scroller.grid.size.rows)
    (lastColumn : scroller.grid.column + 1 = scroller.grid.size.columns) :
    ∃ written, scroller.addByte byte = (scroller.write written).nextRow := by
  obtain ⟨written, fills⟩ := Stroke.exists_cell notReturn notFeed
  refine ⟨written, ?_⟩
  rw [addByte, fills, makeRoom_of_lt (by omega)]
  exact if_neg (Nat.not_lt_of_le (Nat.le_of_eq lastColumn.symm))

/-- Once a row is full, any byte moves the grid up. -/
theorem scrolls_lt_addByte
    {scroller : Scroller}
    (full : scroller.grid.size.rows ≤ scroller.grid.row)
    (byte : UInt8) :
    scroller.scrolls < (scroller.addByte byte).scrolls := by
  rw [scrolls_addByte, if_pos full]
  omega

end Scroller

end Handheld
