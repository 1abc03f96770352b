import Handheld.Machine.State

namespace Handheld

/-!
# Functions on the screen

Each takes all its arguments at once, chooses the bitmap by its mode and makes
one drawing call. A shape mode that does not exist is a fault, found after the
bitmap has been chosen.
-/

namespace Machine

/-- Make a drawing call on a bitmap. -/
def drawOn
    (target : Target)
    (drawing : Drawing) :
    Action Unit :=
  onDevice fun device => (device.setTarget target).draw drawing

/-- Choose a bitmap and make a drawing call with a shape mode. -/
def drawShape
    (target : Target)
    (mode : Word)
    (drawing : ShapeMode → Drawing) :
    Action Unit := do
  onDevice (·.setTarget target)
  let shape ← check (ShapeMode.ofMode mode)
  onDevice (·.draw (drawing shape))

/-- Draw an image. -/
def writeBlock : Action Unit := do
  let (x, y, width, height, mode, address) ← takeSix
  drawOn (Target.ofBlockMode mode) <|
    .block x.toInt y.toInt width.toInt height.toInt address.address (BlitMode.ofMode mode)

/-- Save a block of the screen. -/
def getBlock : Action Unit := do
  let (x, y, width, height, mode, address) ← takeSix
  drawOn (Target.ofBlockMode mode) <|
    .save x.address y.address width.address height.address address.address

/-- Draw a string; bit seven of the mode chooses the large font. -/
def textOut : Action Unit := do
  let (x, y, address, mode) ← takeFour
  let text ← stringAt address.address
  drawOn (Target.ofBlockMode mode) <|
    .text x.toInt y.toInt address.address text.length
      (if mode.meets 0x80 then .large else .small) (BlitMode.ofMode mode)

/-- Draw a rectangle on the bitmap that blocks go to. -/
def drawFrame (filled : Bool) : Action Unit := do
  let (x₁, y₁, x₂, y₂, mode) ← takeFive
  drawShape (Target.ofBlockMode mode) mode <|
    .rectangle x₁.toInt y₁.toInt x₂.toInt y₂.toInt filled

/-- Draw a point. -/
def drawPoint : Action Unit := do
  let (x, y, mode) ← takeThree
  drawShape (Target.ofShapeMode mode) mode <|
    .point x.toInt y.toInt

/-- Look at a point of the graphics bitmap. -/
def getPoint : Action Unit := do
  let (x, y) ← takeTwo
  let seen ← askDevice fun device =>
    (device.setTarget .graphics).testPoint x.toInt y.toInt
  push seen

/-- Draw a line. -/
def drawLine : Action Unit := do
  let (x₁, y₁, x₂, y₂, mode) ← takeFive
  drawShape (Target.ofShapeMode mode) mode <|
    .line x₁.toInt y₁.toInt x₂.toInt y₂.toInt

/-- Draw a rectangle on the bitmap that shapes go to. -/
def drawBox : Action Unit := do
  let (x₁, y₁, x₂, y₂, filled, mode) ← takeSix
  drawShape (Target.ofShapeMode mode) mode <|
    .rectangle x₁.toInt y₁.toInt x₂.toInt y₂.toInt (filled != 0)

/-- Draw a circle. -/
def drawCircle : Action Unit := do
  let (x, y, radius, filled, mode) ← takeFive
  drawShape (Target.ofShapeMode mode) mode <|
    .oval x.toInt y.toInt radius.toInt radius.toInt (filled != 0)

/-- Draw an ellipse. -/
def drawEllipse : Action Unit := do
  let (x, y, radiusX, radiusY, filled, mode) ← takeSix
  drawShape (Target.ofShapeMode mode) mode <|
    .oval x.toInt y.toInt radiusX.toInt radiusY.toInt (filled != 0)

/-- What a number asks to do to the buffer. -/
def bufferChange? (number : Word) : Option Drawing :=
  if number = 0 then
    some (.scroll .left)
  else if number = 1 then
    some (.scroll .right)
  else if number = 4 then
    some (.mirror .horizontal)
  else if number = 5 then
    some (.mirror .vertical)
  else
    none

/-- Scroll or mirror the buffer. -/
def transformBuffer : Action Unit := do
  onDevice (·.setTarget .buffer)
  match bufferChange? (← pop) with
  | some drawing => onDevice (·.draw drawing)
  | none => return

/-- Choose the font size and clear the text. -/
def setScreen : Action Unit := do
  let size : FontSize := if (← pop).lowByte = 0 then .large else .small
  onDevice fun device => (device.setFontSize size).resetText

/-- Show the text, but for the rows that a mask hides. -/
def updateScreen : Action Unit := do
  let mask := Word.ofByte (← pop).lowByte
  onDevice (·.renderText mask)

/-- Move the text cursor. -/
def locate : Action Unit := do
  let (row, column) ← takeTwo
  onDevice (·.locate row column)

/-- Add a byte to the text and show it. -/
def putChar : Action Unit := do
  let byte := (← pop).lowByte
  onDevice fun device => (device.addByte byte).renderText 0

end Machine

end Handheld
