import Handheld.Fault

namespace Handheld

/-!
# Targets and drawing modes

The screen has 160 by 80 pixels, each one bit: twenty bytes to a row, the most
significant bit of a byte leftmost. Two such bitmaps lie in memory, the visible
graphics bitmap and a buffer. A mode argument of a built-in function chooses the
bitmap and how what is drawn combines with what is there.
-/

namespace Screen

/-- Pixels in a row. -/
def width : Nat := 160

/-- Number of rows. -/
def height : Nat := 80

/-- Bytes in a row. -/
def rowBytes : Nat := 20

/-- Bytes in a bitmap. -/
def bitmapBytes : Nat := 1600

end Screen

/-- The bitmap that drawing goes to. -/
inductive Target where
  | graphics
  | buffer
  deriving DecidableEq, Repr

namespace Target

/-- Address of the first byte of a bitmap. -/
def base : Target → Nat
  | .graphics => 0x100
  | .buffer => 0x900

/-- The name of a bitmap in call records. -/
def name : Target → String
  | .graphics => "screen"
  | .buffer => "buffer"

/-- The bit of a mode argument that chooses the bitmap. -/
def flag : Word := 0x40

/-- The bitmap of functions that move blocks: the flag chooses the graphics bitmap. -/
def ofBlockMode (mode : Word) : Target :=
  if mode.meets flag then .graphics else .buffer

/-- The bitmap of functions that draw shapes: the flag chooses the buffer. -/
def ofShapeMode (mode : Word) : Target :=
  if mode.meets flag then .buffer else .graphics

end Target

/-- How the bits of an image combine with those of a bitmap. -/
inductive Combination where
  | copy
  | complement
  | disjunction
  | conjunction
  | difference
  deriving DecidableEq, Repr

/-- The combination in the low three bits of a mode; unknown ones copy. -/
def Combination.ofMode (mode : Word) : Combination :=
  match mode.bits % 8 with
  | 2 => .complement
  | 3 => .disjunction
  | 4 => .conjunction
  | 5 => .difference
  | _ => .copy

/-- The name of a combination in call records. -/
def Combination.name : Combination → String
  | .copy => "copy"
  | .complement => "not"
  | .disjunction => "or"
  | .conjunction => "and"
  | .difference => "xor"

/-- How an image is drawn. Mirroring can be asked for and has no effect. -/
structure BlitMode where
  combination : Combination
  mirrored : Bool := false
  inverse : Bool := false
  deriving DecidableEq, Repr

/-- The way of drawing that a mode argument asks for. -/
def BlitMode.ofMode (mode : Word) : BlitMode where
  combination := Combination.ofMode mode
  mirrored := mode.meets 0x20
  inverse := mode.meets 0x08

/-- The way of drawing as call records show it. -/
def BlitMode.describe (blit : BlitMode) : String :=
  blit.combination.name ++ ", " ++
    (if blit.mirrored then "mirror" else "no-mirror") ++ ", " ++
    (if blit.inverse then "invert" else "no-invert")

/-- The byte that results from a source byte over a bitmap byte. -/
def BlitMode.combine
    (blit : BlitMode)
    (source dest : UInt8) :
    UInt8 :=
  let shown := if blit.inverse then ~~~source else source
  match blit.combination with
  | .copy => shown
  | .complement => ~~~source
  | .disjunction => shown ||| dest
  | .conjunction => shown &&& dest
  | .difference => shown ^^^ dest

/-- What a shape does to the pixels it covers. -/
inductive ShapeMode where
  | clear
  | set
  | invert
  deriving DecidableEq, Repr

/-- The shape mode in the low two bits of a mode argument; there is no fourth. -/
def ShapeMode.ofMode (mode : Word) : Except Fault ShapeMode :=
  match mode.bits % 4 with
  | 0 => .ok .clear
  | 1 => .ok .set
  | 2 => .ok .invert
  | _ => .error (.invalidShapeMode mode)

/-- The name of a shape mode in call records. -/
def ShapeMode.name : ShapeMode → String
  | .clear => "clear"
  | .set => "normal"
  | .invert => "invert"

/-- Change the pixels of a byte that a mask selects. -/
def ShapeMode.apply
    (mode : ShapeMode)
    (byte mask : UInt8) :
    UInt8 :=
  match mode with
  | .clear => byte &&& ~~~mask
  | .set => byte ||| mask
  | .invert => byte ^^^ mask

/-- The sides toward which a bitmap can move. -/
inductive ScrollDirection where
  | left
  | right
  deriving DecidableEq, Repr

/-- The ways to mirror a bitmap. -/
inductive MirrorDirection where
  | horizontal
  | vertical
  deriving DecidableEq, Repr

end Handheld
