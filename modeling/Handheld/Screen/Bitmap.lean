import Handheld.Memory.Ram
import Handheld.Screen.Bits
import Handheld.Screen.Mode

namespace Handheld

/-!
# Whole bitmaps

Operations that change all of a bitmap in place, byte by byte, and its picture in
characters.
-/

/--
Move the bits of a row of bytes to the left by one place, the last byte first.
The bit that leaves a byte is carried into the one before it.
-/
def Ram.scrollRowLeft
    (ram : Ram)
    (address count : Nat)
    (carry : UInt8) :
    Ram :=
  match count with
  | 0 => ram
  | rest + 1 =>
      let byte := ram.byte (address + rest)
      let moved := ram.setByte (address + rest) ((byte <<< 1) ||| carry)
      moved.scrollRowLeft address rest (byte >>> 7)

/--
Move the bits of a row of bytes to the right by one place, the first byte first.
The bit that leaves a byte is carried into the next one.
-/
def Ram.scrollRowRight
    (ram : Ram)
    (address count : Nat)
    (carry : UInt8) :
    Ram :=
  match count with
  | 0 => ram
  | rest + 1 =>
      let byte := ram.byte address
      let moved := ram.setByte address ((byte >>> 1) ||| carry)
      moved.scrollRowRight (address + 1) rest ((byte &&& 1) <<< 7)

/-- Change the rows of a bitmap in place, top first, by what is done at the address of each. -/
def Ram.changeRows
    (ram : Ram)
    (base count : Nat)
    (change : Ram → Nat → Ram) :
    Ram :=
  (List.range count).foldl (fun changed row => change changed (base + row * Screen.rowBytes)) ram

/-- Move all pixels of a bitmap by one to a side; the column left behind is cleared. -/
def Ram.scrollBitmap
    (ram : Ram)
    (base : Nat)
    (direction : ScrollDirection) :
    Ram :=
  ram.changeRows base Screen.height fun scrolled address =>
    match direction with
    | .left => scrolled.scrollRowLeft address Screen.rowBytes 0
    | .right => scrolled.scrollRowRight address Screen.rowBytes 0

/-- Exchange two bytes, each of them changed on its way. -/
def Ram.swap
    (ram : Ram)
    (change : UInt8 → UInt8)
    (first second : Nat) :
    Ram :=
  let kept := ram.byte first
  (ram.setByte first (change (ram.byte second))).setByte second (change kept)

/-- Turn a row of bytes around: exchange its first `count` bytes with the last ones. -/
def Ram.turnRow
    (ram : Ram)
    (address count : Nat) :
    Ram :=
  (List.range count).foldl
    (fun turned index =>
      turned.swap Bits.reverseByte (address + index) (address + (Screen.rowBytes - 1 - index)))
    ram

/-- Exchange the first `count` bytes of two rows. -/
def Ram.swapRows
    (ram : Ram)
    (top bottom count : Nat) :
    Ram :=
  (List.range count).foldl
    (fun swapped index => swapped.swap id (top + index) (bottom + index)) ram

/-- Exchange the first `count` rows of a bitmap with the last ones. -/
def Ram.turnRows
    (ram : Ram)
    (base count : Nat) :
    Ram :=
  (List.range count).foldl
    (fun turned row =>
      turned.swapRows (base + row * Screen.rowBytes)
        (base + (Screen.height - 1 - row) * Screen.rowBytes) Screen.rowBytes)
    ram

/-- Exchange left and right, or top and bottom, of a bitmap. -/
def Ram.mirrorBitmap
    (ram : Ram)
    (base : Nat)
    (direction : MirrorDirection) :
    Ram :=
  match direction with
  | .horizontal =>
      ram.changeRows base Screen.height fun turned address =>
        turned.turnRow address (Screen.rowBytes / 2)
  | .vertical =>
      ram.turnRows base (Screen.height / 2)

/-- Clear all pixels of a bitmap. -/
def Ram.clearBitmap
    (ram : Ram)
    (base : Nat) :
    Ram :=
  ram.fill base Screen.bitmapBytes 0

/-- Copy the buffer over the graphics bitmap, byte by byte. -/
def Ram.refreshGraphics (ram : Ram) : Ram :=
  ram.copyForward Target.graphics.base Target.buffer.base Screen.bitmapBytes

namespace Picture

/-- The characters of a byte, leftmost pixel first. -/
def ofByte (byte : UInt8) : List Char :=
  (List.range 8).map fun index =>
    if byte &&& (0x80 >>> UInt8.ofNat index) ≠ 0 then '#' else '.'

/-- The lines of a bitmap, where `column` bytes of the first line are already shown. -/
def lines
    (column : Nat) :
    List UInt8 → List Char
  | [] => if column = 0 then [] else ['\n']
  | byte :: rest =>
      if column + 1 = Screen.rowBytes then
        ofByte byte ++ '\n' :: lines 0 rest
      else
        ofByte byte ++ lines (column + 1) rest

/-- A bitmap as text: a line for each row, a set pixel as `#` and a clear one as a point. -/
def ofBytes (bytes : List UInt8) : String :=
  String.ofList (lines 0 bytes)

end Picture

end Handheld
