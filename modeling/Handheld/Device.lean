import Handheld.Keyboard
import Handheld.Text.Grid

namespace Handheld

/-!
# The device

Memory and the parts of the handheld that a user meets: screen, text and
keyboard. Screen and text each come in two kinds, one that works on memory and
one that only records the calls made to it. All records go to one log.
-/

/-- What drawing calls do. -/
inductive Screen.Kind where
  /-- They change the bitmaps in memory, with glyphs from a table. -/
  | painted (table : FontTable)
  /-- They are recorded. -/
  | recorded

/-- What text calls do. -/
inductive TextPanel where
  /-- They change the grid in memory. -/
  | grid (grid : TextGrid)
  /-- They are recorded; only the font size is kept. -/
  | recorded (size : FontSize)

/-- Memory, screen, text, keyboard and the log of recorded calls. -/
structure Device where
  ram : Ram := Ram.blank
  screen : Screen.Kind := .painted FontTable.blank
  target : Target := .graphics
  text : TextPanel := .grid {}
  keyboard : Keyboard := .scripted []
  log : Array String := #[]

namespace Device

/-- Add a line to the log. -/
def record
    (device : Device)
    (line : String) :
    Device :=
  { device with log := device.log.push line }

/-- Choose the bitmap that drawing goes to. -/
def setTarget
    (device : Device)
    (target : Target) :
    Device :=
  { device with target := target }

/-- Carry out or record a drawing call. -/
def draw
    (device : Device)
    (drawing : Drawing) :
    Device :=
  match device.screen with
  | .painted table =>
      { device with ram := drawing.paint device.target table device.ram }
  | .recorded =>
      device.record (drawing.record device.target device.ram)

/--
Look at a pixel of the graphics bitmap: its bit in place, zero if it is clear or
off the screen. A recorded screen answers zero on the screen and one off it.
-/
def testPoint
    (device : Device)
    (x y : Int) :
    Word × Device :=
  let onScreen := 0 ≤ x ∧ x < Screen.width ∧ 0 ≤ y ∧ y < Screen.height
  match device.screen with
  | .painted _ =>
      if onScreen then
        let address := Screen.pixelAddress Target.graphics.base x.toNat y.toNat
        (Word.ofByte (device.ram.byte address &&& Screen.pixelMask x.toNat), device)
      else
        (0, device)
  | .recorded =>
      let line := Drawing.bracket "test point" [toString x, toString y, device.target.name]
      (if onScreen then 0 else 1, device.record line)

/-- Ask for the font size of the text. -/
def fontSize (device : Device) : FontSize × Device :=
  match device.text with
  | .grid grid => (grid.size, device)
  | .recorded size => (size, device.record "[get text mode]")

/-- The font size as records of its change show it. -/
def fontSizeTitle : FontSize → String
  | .large => "Large"
  | .small => "Small"

/-- Change the font size of the text. -/
def setFontSize
    (device : Device)
    (size : FontSize) :
    Device :=
  match device.text with
  | .grid _ =>
      { device with text := .grid (TextGrid.setSize size) }
  | .recorded _ =>
      { device with text := .recorded size }.record
        ("[set text mode to " ++ fontSizeTitle size ++ "]")

/-- Clear the text. A recorded text takes no note of it. -/
def resetText (device : Device) : Device :=
  match device.text with
  | .grid grid =>
      let (cleared, ram) := grid.reset device.ram
      { device with text := .grid cleared, ram := ram }
  | .recorded _ =>
      device

/-- Add a byte of text. -/
def addByte
    (device : Device)
    (byte : UInt8) :
    Device :=
  match device.text with
  | .grid grid =>
      let (moved, ram) := grid.addByte device.ram byte
      { device with text := .grid moved, ram := ram }
  | .recorded _ =>
      device.record ("[add byte " ++ String.singleton (Char.ofNat byte.toNat) ++ "]")

/-- Add bytes of text. -/
def addBytes
    (device : Device)
    (bytes : List UInt8) :
    Device :=
  match device.text with
  | .grid grid =>
      let (moved, ram) := grid.addBytes device.ram bytes
      { device with text := .grid moved, ram := ram }
  | .recorded _ =>
      device.record ("[add bytes (" ++ Gbk.decode bytes ++ ")]")

/-- Move the text cursor. -/
def locate
    (device : Device)
    (row column : Word) :
    Device :=
  match device.text with
  | .grid grid =>
      { device with text := .grid (grid.locate row column) }
  | .recorded _ =>
      device.record
        ("[locate to (x: " ++ column.decimal ++ ", y: " ++ row.decimal ++ ")]")

/-- Show the text on the graphics bitmap, but for the rows that a mask hides. -/
def renderText
    (device : Device)
    (mask : Word) :
    Device :=
  match device.text with
  | .grid grid =>
      (grid.render mask).foldl draw (device.setTarget .graphics)
  | .recorded _ =>
      device.record ("[render text to screen: 0b" ++ mask.binary ++ "]")

/-- Take over what a keyboard answered. -/
def heard
    (device : Device)
    (reply : Keyboard.Reply α) :
    α × Device :=
  (reply.answer,
    { device with keyboard := reply.keyboard, log := device.log ++ reply.log.toArray })

/-- The bytes of the graphics bitmap. -/
def snapshot (device : Device) : List UInt8 :=
  device.ram.bytes Target.graphics.base Screen.bitmapBytes

end Device

end Handheld
