import Handheld.Memory.Window
import Handheld.Screen.Drawing
import Handheld.Text.Font

namespace Handheld

/-!
# The text grid

Text is kept as a grid of bytes at the start of memory, as many rows and columns
as the font size allows. Bytes go to the cell at the cursor and move it on. The
cursor may stand just past the last row; the grid then moves up by a row when
the next byte comes. Rendering turns the grid into drawing calls.
-/

/-- The font size of the grid and its cursor. The cells themselves are in memory. -/
structure TextGrid where
  size : FontSize := .large
  row : Nat := 0
  column : Nat := 0
  deriving DecidableEq, Repr

namespace TextGrid

/-- The memory of the grid, enough for either font size. -/
def window : Window where
  start := 0
  size := 156

/-- Change the font size and move the cursor to the first cell. -/
def setSize
    (size : FontSize) :
    TextGrid :=
  { size := size }

/-- Move the cursor to the first cell and clear the grid. -/
def reset
    (grid : TextGrid)
    (ram : Ram) :
    TextGrid × Ram :=
  ({ grid with row := 0, column := 0 }, window.zero ram)

/-- Move all rows up by one, fill the last with spaces and put the cursor at its start. -/
def scrollUp
    (grid : TextGrid)
    (ram : Ram) :
    TextGrid × Ram :=
  let columns := grid.size.columns
  let kept := (grid.size.rows - 1) * columns
  let moved := window.copy ram 0 columns kept
  ({ grid with row := grid.size.rows - 1, column := 0 },
    window.fill moved kept columns 0x20)

/-- Make room when the cursor stands past the last row. -/
def makeRoom
    (grid : TextGrid)
    (ram : Ram) :
    TextGrid × Ram :=
  if grid.size.rows ≤ grid.row then
    grid.scrollUp ram
  else
    (grid, ram)

/-- Put a byte into the cell at the cursor and move on to the next. -/
def putCell
    (grid : TextGrid)
    (ram : Ram)
    (byte : UInt8) :
    TextGrid × Ram :=
  let written := window.setByte ram (grid.row * grid.size.columns + grid.column) byte
  if grid.size.columns ≤ grid.column + 1 then
    ({ grid with row := grid.row + 1, column := 0 }, written)
  else
    ({ grid with column := grid.column + 1 }, written)

/--
Add a byte at the cursor.

A carriage return is dropped, a line feed starts the next row at once, and a tab
is written as a space.
-/
def addByte
    (grid : TextGrid)
    (ram : Ram)
    (byte : UInt8) :
    TextGrid × Ram :=
  let (ready, room) := grid.makeRoom ram
  match byte with
  | 0x0d => (ready, room)
  | 0x0a => { ready with row := ready.row + 1, column := 0 : TextGrid }.makeRoom room
  | 0x09 => ready.putCell room 0x20
  | _ => ready.putCell room byte

/-- Leave the last column empty, so that a character of two bytes is not split. -/
def skipLastColumn
    (grid : TextGrid)
    (ram : Ram) :
    TextGrid × Ram :=
  if grid.column = grid.size.columns - 1 then
    grid.addByte ram 0x20
  else
    (grid, ram)

/-- Add bytes, keeping the two bytes of a character in one row. -/
def addBytes
    (grid : TextGrid)
    (ram : Ram) :
    List UInt8 → TextGrid × Ram
  | [] => (grid, ram)
  | [byte] =>
      if byte < 0x80 then
        grid.addByte ram byte
      else
        let (aligned, spaced) := grid.skipLastColumn ram
        aligned.addByte spaced byte
  | byte :: next :: rest =>
      if byte < 0x80 then
        let (moved, written) := grid.addByte ram byte
        moved.addBytes written (next :: rest)
      else
        let (aligned, spaced) := grid.skipLastColumn ram
        let (half, lead) := aligned.addByte spaced byte
        let (moved, written) := half.addByte lead next
        moved.addBytes written rest

/-- The coordinate of the grid closest to a word. -/
def clamp
    (word : Word)
    (count : Nat) :
    Nat :=
  min word.toInt.toNat (count - 1)

/-- Move the cursor to the closest cell. -/
def locate
    (grid : TextGrid)
    (row column : Word) :
    TextGrid :=
  { grid with
    row := clamp row grid.size.rows
    column := clamp column grid.size.columns }

/-- Clear what small glyphs leave uncovered: the margins and the gaps between rows. -/
def margins : List Drawing :=
  [
    .line 0 0 159 0 .clear,
    .line 0 79 159 79 .clear,
    .rectangle 0 0 1 79 true .clear,
    .rectangle 158 0 159 79 true .clear
  ] ++ [13, 26, 39, 52, 65, 78].map fun y => .line 0 y 159 y .clear

/-- The place of the first glyph. -/
def origin : FontSize → Int × Int
  | .large => (0, 0)
  | .small => (2, 1)

/-- The rows that a mask shows: bit seven set hides row zero, bit six row one, and so on. -/
def shownRows
    (size : FontSize)
    (mask : Word) :
    List Nat :=
  (List.range size.rows).filter fun row => !mask.bits.testBit (7 - row)

/-- The drawing calls that show the grid. -/
def render
    (grid : TextGrid)
    (mask : Word) :
    List Drawing :=
  let (left, top) := origin grid.size
  let rows := (shownRows grid.size mask).map fun row =>
    Drawing.text left (top + (row * grid.size.rowHeight : Nat))
      (window.address (row * grid.size.columns)) grid.size.columns grid.size
      { combination := .copy }
  match grid.size with
  | .large => rows
  | .small => margins ++ rows

end TextGrid

end Handheld
