import Handheld.Screen.Bitmap
import Handheld.Screen.Blit
import Handheld.Screen.Line
import Handheld.Screen.Oval
import Handheld.Screen.Rectangle
import Handheld.Text.Gbk.Codec

namespace Handheld

/-!
# Drawing calls

A drawing call is a value. One function carries it out on the bitmaps in memory,
another writes it down as a line of a call record.
-/

/-- What a program can ask of the screen. Addresses are in main memory. -/
inductive Drawing where
  | clear
  | block (x y width height : Int) (address : Nat) (mode : BlitMode)
  | save (x y width height : Int) (address : Nat)
  | text (x y : Int) (address length : Nat) (size : FontSize) (mode : BlitMode)
  | rectangle (x₁ y₁ x₂ y₂ : Int) (filled : Bool) (mode : ShapeMode)
  | line (x₁ y₁ x₂ y₂ : Int) (mode : ShapeMode)
  | oval (centerX centerY radiusX radiusY : Int) (filled : Bool) (mode : ShapeMode)
  | point (x y : Int) (mode : ShapeMode)
  | scroll (direction : ScrollDirection)
  | mirror (direction : MirrorDirection)
  | refresh
  deriving DecidableEq, Repr

namespace Drawing

/-- Carry out a call on the target bitmap. -/
def paint
    (drawing : Drawing)
    (target : Target)
    (table : FontTable)
    (ram : Ram) :
    Ram :=
  match drawing with
  | .clear =>
      ram.clearBitmap target.base
  | .block x y width height address mode =>
      ram.blit target.base x y width height .memory address mode
  | .save x y width height address =>
      ram.saveBlock target.base x y width height address
  | .text x y address length size mode =>
      ram.drawText target.base x y table address size mode length
  | .rectangle x₁ y₁ x₂ y₂ filled mode =>
      ram.paintAllUncut target.base mode (Rectangle.spans x₁ y₁ x₂ y₂ filled)
  | .line x₁ y₁ x₂ y₂ mode =>
      ram.paint target.base mode (Line.spans x₁ y₁ x₂ y₂)
  | .oval centerX centerY radiusX radiusY filled mode =>
      ram.paint target.base mode (Oval.spans centerX centerY radiusX radiusY filled)
  | .point x y mode =>
      ram.paintSpan target.base mode (Span.point x y)
  | .scroll direction =>
      ram.scrollBitmap target.base direction
  | .mirror direction =>
      ram.mirrorBitmap target.base direction
  | .refresh =>
      ram.refreshGraphics

/-- No part of a rectangle leaves the screen, so it might as well be cut. -/
theorem paint_rectangle
    (x₁ y₁ x₂ y₂ : Int)
    (filled : Bool)
    (mode : ShapeMode)
    (target : Target)
    (table : FontTable)
    (ram : Ram) :
    (rectangle x₁ y₁ x₂ y₂ filled mode).paint target table ram =
      ram.paint target.base mode (Rectangle.spans x₁ y₁ x₂ y₂ filled) :=
  (ram.paint_of_onScreen target.base mode fun _ member =>
    Rectangle.onScreen_of_mem_spans member).symm

/-- Put a call and its arguments between brackets. -/
def bracket
    (verb : String)
    (arguments : List String) :
    String :=
  "[" ++ verb ++ " " ++ ", ".intercalate arguments ++ "]"

/-- The word for a filled or open shape. -/
def fillName (filled : Bool) : String :=
  if filled then "fill" else "no-fill"

/-- The line of a call record. -/
def record
    (drawing : Drawing)
    (target : Target)
    (ram : Ram) :
    String :=
  let numbers (values : List Int) : List String := values.map toString
  match drawing with
  | .clear =>
      bracket "clear" [target.name]
  | .block x y width height address mode =>
      bracket "write block" <|
        numbers [x, y, width, height] ++
          ["0x" ++ hexadecimal 1 address, target.name, mode.describe]
  | .save x y width height address =>
      bracket "get block" <|
        numbers [x, y, width, height] ++ [target.name, "0x" ++ hexadecimal 1 address]
  | .text x y address length size mode =>
      bracket "text out" <|
        numbers [x, y] ++
          [Gbk.decode (ram.bytes address length), size.name, target.name, mode.describe]
  | .rectangle x₁ y₁ x₂ y₂ filled mode =>
      bracket "draw rect" <|
        numbers [x₁, y₁, x₂, y₂] ++ [fillName filled, target.name, mode.name]
  | .line x₁ y₁ x₂ y₂ mode =>
      bracket "draw line" <|
        numbers [x₁, y₁, x₂, y₂] ++ [target.name, mode.name]
  | .oval centerX centerY radiusX radiusY filled mode =>
      bracket "draw oval" <|
        numbers [centerX, centerY, radiusX, radiusY] ++
          [fillName filled, target.name, mode.name]
  | .point x y mode =>
      bracket "draw point" <|
        numbers [x, y] ++ [target.name, mode.name]
  | .scroll .left =>
      bracket "scroll" ["left", target.name]
  | .scroll .right =>
      bracket "scroll" ["right", target.name]
  | .mirror .horizontal =>
      bracket "mirror" ["horizontal", target.name]
  | .mirror .vertical =>
      bracket "mirror" ["vertical", target.name]
  | .refresh =>
      "[refresh]"

end Drawing

end Handheld
