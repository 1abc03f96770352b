import Handheld.Machine.Files
import Handheld.Machine.Keys

namespace Handheld

/-!
# Choosing a file

The entries of the working directory are shown five at a time with one of them
highlighted. Keys move the highlight and the page; Enter chooses, Escape or the
end of the keys gives up. Each turn waits for one key, so a choice takes at most
one turn more than keys come before those that give up.
-/

/-- The first entry on the page and the highlighted one, counted from there. -/
structure Chooser where
  offset : Nat := 0
  index : Nat := 0
  deriving DecidableEq, Repr

namespace Chooser

/-- Entries on a page. -/
def pageSize : Nat := 5

/-- The longest name that is shown, in bytes. -/
def longestName : Nat := 18

/-- What a key does. -/
inductive Response where
  | choose
  | cancel
  | move (chooser : Chooser)
  | ignore
  deriving DecidableEq, Repr

/-- One entry up. -/
def up (chooser : Chooser) : Chooser :=
  if chooser.index = 0 then
    { chooser with offset := chooser.offset - 1 }
  else
    { chooser with index := chooser.index - 1 }

/-- One entry down. -/
def down (chooser : Chooser) : Chooser :=
  if chooser.index = pageSize - 1 then
    { chooser with offset := chooser.offset + 1 }
  else
    { chooser with index := chooser.index + 1 }

/-- One page up. -/
def pageUp (chooser : Chooser) : Chooser :=
  if chooser.offset < pageSize then
    { offset := 0, index := 0 }
  else
    { chooser with offset := chooser.offset - pageSize }

/-- One page down, where `last` is the last entry. -/
def pageDown
    (chooser : Chooser)
    (last : Nat) :
    Chooser :=
  if chooser.offset + pageSize ≤ last then
    let offset := chooser.offset + pageSize
    { offset := offset, index := min chooser.index (last - offset) }
  else
    { chooser with index := last - chooser.offset }

/-- What a key does, where `last` is the last entry. -/
def respond
    (chooser : Chooser)
    (last : Nat)
    (key : Word) :
    Response :=
  if key = Key.enter then
    .choose
  else if key = Key.escape ∨ key = 0 then
    .cancel
  else if key = Key.up ∨ key = Key.left then
    .move chooser.up
  else if key = Key.down ∨ key = Key.right then
    if chooser.offset + chooser.index < last then .move chooser.down else .ignore
  else if key = Key.pageUp then
    .move chooser.pageUp
  else if key = Key.pageDown then
    .move (chooser.pageDown last)
  else
    .ignore

/-- The bytes of the names that are short enough, in order. -/
def shownNames (names : List String) : List (List UInt8) :=
  ((names.mergeSort fun left right => !decide (right < left)).map Gbk.encode).filter
    fun name => name.length ≤ longestName

/-- The entries to choose from: the names in the working directory and the way up. -/
def entries
    (workingDir : String)
    (names : List String) :
    List (List UInt8) :=
  if workingDir = "/" then
    shownNames names
  else
    [0x2e, 0x2e] :: shownNames names

/-- Write names into the rows of the text, from the given one on. -/
def writeNames
    (row : Nat) :
    List (List UInt8) →
    Device →
    Device
  | [], device => device
  | name :: rest, device =>
      writeNames (row + 1) rest ((device.locate (Word.ofBits row) 0).addBytes name)

/-- Show a page of entries and highlight one. -/
def draw
    (chooser : Chooser)
    (names : List (List UInt8))
    (device : Device) :
    Device :=
  let page := (names.drop chooser.offset).take pageSize
  let written := writeNames 0 page (device.setFontSize .large).resetText
  let top : Int := (chooser.index * FontSize.large.rowHeight : Nat)
  ((written.renderText 0).setTarget .graphics).draw
    (.rectangle 0 top 159 (top + 15) true .invert)

end Chooser

namespace Machine

/--
Number of keys that waiting reads can be given before each gets one that gives
up: Escape from a user who has nothing planned, zero at the end of a script.
-/
def keysLeft : Keyboard → Nat
  | .live board => board.coming.length + if board.latch = 0 then 0 else 1
  | .scripted keys => keys.length

/-- Take turns at choosing, as many as given, and store the chosen name. -/
def chooseFrom
    (names : List (List UInt8))
    (dest : Nat)
    (turns : Nat)
    (chooser : Chooser)
    (redraw : Bool) :
    Action Bool :=
  match turns with
  | 0 => return false
  | rest + 1 => do
      if redraw then
        onDevice (chooser.draw names)
      let key ← readKey true
      match chooser.respond (names.length - 1) key with
      | .choose =>
          storeString dest (names.getD (chooser.offset + chooser.index) [])
          return true
      | .cancel => return false
      | .move moved => chooseFrom names dest rest moved true
      | .ignore => chooseFrom names dest rest chooser false

/-- Let the user choose a file and store its name. -/
def chooseFile : Action Unit := do
  let dest ← popAddress
  let machine ← get
  let turns := keysLeft machine.device.keyboard + 1
  match machine.files.list with
  | .error _ => pushBool false
  | .ok found =>
      let names := Chooser.entries machine.files.workingDir found
      if names = [] then
        pushBool false
      else
        pushBool (← chooseFrom names dest turns {} true)

end Machine

end Handheld
