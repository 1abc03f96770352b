import Handheld.Word

namespace Handheld

/-!
# Fonts

Text comes in two sizes. Each size has a font of half width glyphs for single
bytes and one of full width glyphs for pairs of bytes. The four fonts stand one
after the other in a table behind a blank glyph, and a glyph is named by its
place in the table. Places past the end read as zero.
-/

/-- The two sizes of text. -/
inductive FontSize where
  | large
  | small
  deriving DecidableEq, Repr

namespace FontSize

/-- Pixels across a half width glyph. -/
def glyphWidth : FontSize → Nat
  | .large => 8
  | .small => 6

/-- Pixels down a glyph. -/
def glyphHeight : FontSize → Nat
  | .large => 16
  | .small => 12

/-- Pixels from one row of text to the next. -/
def rowHeight : FontSize → Nat
  | .large => 16
  | .small => 13

/-- Half width glyphs in a row of text. -/
def columns : FontSize → Nat
  | .large => 20
  | .small => 26

/-- Rows of text on the screen. -/
def rows : FontSize → Nat
  | .large => 5
  | .small => 6

/-- The name of a size. -/
def name : FontSize → String
  | .large => "large"
  | .small => "small"

/-- Bytes of a half width glyph. -/
def halfGlyphBytes (size : FontSize) : Nat :=
  (size.glyphWidth + 7) / 8 * size.glyphHeight

/-- Bytes of a full width glyph. -/
def fullGlyphBytes (size : FontSize) : Nat :=
  (size.glyphWidth * 2 + 7) / 8 * size.glyphHeight

end FontSize

/-- The four fonts. -/
structure FontSet where
  largeHalf : Array UInt8 := #[]
  smallHalf : Array UInt8 := #[]
  largeFull : Array UInt8 := #[]
  smallFull : Array UInt8 := #[]

/-- The fonts in one table. -/
structure FontTable where
  glyphs : Array UInt8
  largeHalf : Nat
  smallHalf : Nat
  largeFull : Nat
  smallFull : Nat

namespace FontTable

/-- The files that hold the fonts of a set, in the order of the table. -/
def fileNames : List String :=
  ["ascii8.bin", "ascii6.bin", "gbfont16.bin", "gbfont12.bin"]

/-- Put the fonts of a set one after the other behind a blank glyph. -/
def ofSet (fonts : FontSet) : FontTable :=
  let blank := Array.replicate FontSize.large.fullGlyphBytes 0
  {
    glyphs := blank ++ fonts.largeHalf ++ fonts.smallHalf ++ fonts.largeFull ++ fonts.smallFull
    largeHalf := blank.size
    smallHalf := blank.size + fonts.largeHalf.size
    largeFull := blank.size + fonts.largeHalf.size + fonts.smallHalf.size
    smallFull :=
      blank.size + fonts.largeHalf.size + fonts.smallHalf.size + fonts.largeFull.size
  }

/-- A table without fonts, in which all text is blank. -/
def blank : FontTable :=
  ofSet {}

/-- The table of the four font files, or the blank one if any of them is missing. -/
def ofFiles (read : String → Option (Array UInt8)) : FontTable :=
  match fileNames.mapM read with
  | some [largeHalf, smallHalf, largeFull, smallFull] =>
      ofSet {
        largeHalf := largeHalf
        smallHalf := smallHalf
        largeFull := largeFull
        smallFull := smallFull
      }
  | _ => blank

/-- The byte at a place of the table. -/
def byte
    (table : FontTable)
    (place : Nat) :
    UInt8 :=
  table.glyphs.getD place 0

/-- Number of bytes in the table. -/
def size (table : FontTable) : Nat :=
  table.glyphs.size

/-- The first place at or after `place`, of `count` candidates, that holds NUL. -/
def findNul?
    (table : FontTable)
    (place count : Nat) :
    Option Nat :=
  match count with
  | 0 => none
  | rest + 1 =>
      if table.byte place = 0 then
        some place
      else
        table.findNul? (place + 1) rest

/-- The bytes from a place up to the first NUL, if one comes before the end. -/
def string?
    (table : FontTable)
    (place : Nat) :
    Option (List UInt8) :=
  (table.findNul? place (table.size - place)).map fun stop =>
    (List.range' place (stop - place)).map table.byte

/-- Where the half width font of a size starts. -/
def halfStart
    (table : FontTable) :
    FontSize → Nat
  | .large => table.largeHalf
  | .small => table.smallHalf

/-- Where the full width font of a size starts. -/
def fullStart
    (table : FontTable) :
    FontSize → Nat
  | .large => table.largeFull
  | .small => table.smallFull

/-- Where the full width font of a size ends. -/
def fullEnd
    (table : FontTable) :
    FontSize → Nat
  | .large => table.smallFull
  | .small => table.size

/--
The number of a pair of bytes among the full width glyphs.

Rows of 94 glyphs start at lead byte `0xa1`, and the six rows after the ninth are
left out. Pairs outside the rows can have a negative number or one of another
pair.
-/
def pairNumber
    (lead trail : UInt8) :
    Int :=
  let row : Int := lead.toNat - 0xa1
  let row := if row > 8 then row - 6 else row
  row * 94 + (trail.toNat - 0xa1)

/--
The place of the glyph for a character: the lead byte in the low half of `code`
and the trail byte, zero for a single byte, in the high half. Pairs without a
glyph have the blank one.
-/
def glyph
    (table : FontTable)
    (code : UInt16)
    (size : FontSize) :
    Nat :=
  if code ≤ 0xff then
    table.halfStart size + code.toNat * size.halfGlyphBytes
  else
    let offset := pairNumber code.toUInt8 (code >>> 8).toUInt8 * size.fullGlyphBytes
    if 0 ≤ offset ∧ offset < (table.fullEnd size - table.fullStart size : Nat) then
      table.fullStart size + offset.toNat
    else
      0

end FontTable

end Handheld
