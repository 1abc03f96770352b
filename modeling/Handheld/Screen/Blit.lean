import Handheld.Memory.Ram
import Handheld.Screen.Bits
import Handheld.Screen.Mode
import Handheld.Text.Font

namespace Handheld

/-!
# Drawing and saving blocks

A block of pixels is drawn by rows: the bytes of an image row are shifted into
place and combined with the bytes of the bitmap, whose bits outside the block
are kept. A block is saved by whole bytes. Either may lie partly or wholly
outside the screen.
-/

/-- Where the rows of an image come from. -/
inductive ImageSource where
  /-- Main memory. -/
  | memory
  /-- A table of glyphs. -/
  | font (table : FontTable)

/-- The bytes of an image from an address on. -/
def ImageSource.bytes
    (source : ImageSource)
    (ram : Ram)
    (address length : Nat) :
    List UInt8 :=
  match source with
  | .memory => ram.bytes address length
  | .font table => (List.range' address length).map table.byte

/-- How the part of an image that lies on the screen is drawn. -/
structure BlitPlan where
  /-- Bytes of the image before its first shown row and column. -/
  skipped : Nat
  /-- Bytes from one image row to the next. -/
  stride : Nat
  /-- Bytes read from an image row. -/
  count : Nat
  /-- Places by which an image row moves to the left. -/
  shift : Int
  /-- First changed byte of the bitmap. -/
  offset : Nat
  /-- For each changed byte of a row, the bits that are kept. -/
  kept : List UInt8
  /-- Number of rows. -/
  rows : Nat

/-- For each of `size` bytes, the bits left of the first `left` and within the last `right` bits. -/
def keptBits
    (size left right : Nat) :
    List UInt8 :=
  (List.range size).map fun index =>
    (if index = 0 then Bits.leftmost left else 0) |||
      (if index + 1 = size then Bits.rightmost right else 0)

/-- Cut an image to the screen. There is nothing to draw when it misses the screen. -/
def BlitPlan.make?
    (x y width height : Int) :
    Option BlitPlan :=
  if width ≤ 0 ∨ height ≤ 0 ∨ x ≥ Screen.width ∨ y ≥ Screen.height ∨
      x + width < 0 ∨ y + height < 0 then
    none
  else
    let stride := ((width + 7) / 8).toNat
    let cutLeft := (-x).toNat
    let cutTop := (-y).toNat
    let left := x.toNat
    let top := y.toNat
    let shownWidth := (min (width - cutLeft) (Screen.width - left)).toNat
    let shownHeight := (min (height - cutTop) (Screen.height - top)).toNat
    let imageBits := cutLeft % 8
    let screenBits := left % 8
    let size := (screenBits + shownWidth + 7) / 8
    some {
      skipped := cutLeft / 8 + stride * cutTop
      stride := stride
      count := (imageBits + shownWidth + 7) / 8
      shift := (imageBits : Int) - screenBits
      offset := top * Screen.rowBytes + left / 8
      kept := keptBits size screenBits (size * 8 - screenBits - shownWidth)
      rows := shownHeight
    }

/-- Combine the bytes of one image row with a bitmap. -/
def Ram.blitBytes
    (ram : Ram)
    (blit : BlitMode)
    (address : Nat) :
    List UInt8 →
    List UInt8 →
    Ram
  | source :: sources, kept :: keeps =>
      let dest := ram.byte address
      let value := (dest &&& kept) ||| (blit.combine source dest &&& ~~~kept)
      (ram.setByte address value).blitBytes blit (address + 1) sources keeps
  | _, _ => ram

/-- Draw `rows` rows of an image. -/
def Ram.blitRows
    (ram : Ram)
    (source : ImageSource)
    (blit : BlitMode)
    (plan : BlitPlan)
    (imageAddress address rows : Nat) :
    Ram :=
  match rows with
  | 0 => ram
  | rest + 1 =>
      let row := Bits.shift plan.shift (source.bytes ram imageAddress plan.count ++ [0])
      (ram.blitBytes blit address row plan.kept).blitRows source blit plan
        (imageAddress + plan.stride) (address + Screen.rowBytes) rest

/-- Draw an image, whose rows are whole bytes, with its top left pixel at the given place. -/
def Ram.blit
    (ram : Ram)
    (base : Nat)
    (x y width height : Int)
    (source : ImageSource)
    (address : Nat)
    (mode : BlitMode) :
    Ram :=
  match BlitPlan.make? x y width height with
  | none => ram
  | some plan =>
      ram.blitRows source mode plan (address + plan.skipped) (base + plan.offset) plan.rows

/-- The byte of a bitmap at a row and column of bytes, zero outside the screen. -/
def Ram.bitmapByte
    (ram : Ram)
    (base : Nat)
    (row column : Int) :
    UInt8 :=
  if 0 ≤ row ∧ row < Screen.height ∧ 0 ≤ column ∧ column < Screen.rowBytes then
    ram.byte (base + row.toNat * Screen.rowBytes + column.toNat)
  else
    0

/-- Save the next `count` bytes of a block that is `columns` bytes wide, from number `index` on. -/
def Ram.saveBytes
    (ram : Ram)
    (base : Nat)
    (row column : Int)
    (columns address index count : Nat) :
    Ram :=
  match count with
  | 0 => ram
  | rest + 1 =>
      let byte := ram.bitmapByte base (row + (index / columns : Nat)) (column + (index % columns : Nat))
      (ram.setByte (address + index) byte).saveBytes base row column columns address (index + 1) rest

/-- Copy a block of a bitmap to an address, its left side and width rounded down to whole bytes. -/
def Ram.saveBlock
    (ram : Ram)
    (base : Nat)
    (x y width height : Int)
    (address : Nat) :
    Ram :=
  let columns := (width / 8).toNat
  ram.saveBytes base y (x / 8) columns address 0 (height.toNat * columns)

/-- A coordinate moved to the right, no further than the greatest word. -/
def advanceRight
    (x : Int)
    (distance : Nat) :
    Int :=
  min (x + distance) 2147483647

/-- Draw the glyph of one character. -/
def Ram.drawGlyph
    (ram : Ram)
    (base : Nat)
    (x y : Int)
    (table : FontTable)
    (code : UInt16)
    (columns : Nat)
    (size : FontSize)
    (mode : BlitMode) :
    Ram :=
  ram.blit base x y (size.glyphWidth * columns : Nat) size.glyphHeight
    (.font table) (table.glyph code size) mode

/--
Draw `length` bytes of text from memory.

A byte from `0x80` on takes the next one with it as a character of double width,
unless it is the last.
-/
def Ram.drawText
    (ram : Ram)
    (base : Nat)
    (x y : Int)
    (table : FontTable)
    (address : Nat)
    (size : FontSize)
    (mode : BlitMode) :
    Nat → Ram
  | 0 => ram
  | 1 =>
      ram.drawGlyph base x y table (ram.byte address).toUInt16 1 size mode
  | length + 2 =>
      let lead := ram.byte address
      if lead < 0x80 then
        (ram.drawGlyph base x y table lead.toUInt16 1 size mode).drawText base
          (advanceRight x size.glyphWidth) y table (address + 1) size mode (length + 1)
      else
        let code := lead.toUInt16 ||| ((ram.byte (address + 1)).toUInt16 <<< 8)
        (ram.drawGlyph base x y table code 2 size mode).drawText base
          (advanceRight x (size.glyphWidth * 2)) y table (address + 2) size mode length

end Handheld
