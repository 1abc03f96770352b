import Handheld.Numeral

namespace Handheld

/-!
# The keyboard

Keys are numbered from 0 to 127. A live keyboard knows which keys are held and
latches the key pressed last until it is read or released; a latch of zero means
that there is nothing to read, and a read that waits is not answered before a key
is latched. A scripted keyboard hands out a list of keys to reads that wait, and
then zeros; its keys are never held, and it records what it is asked.

A program that waits is at the mercy of its user. What the user will do then is
part of a live keyboard here: one visit for every read that waits. All runs in
which the reads come to an end are runs with some visits; a read that is never
answered ends nothing, and there is nothing to say about it.
-/

namespace Key

/-- The keys that the file chooser knows. -/
def enter : Word := 13
@[inherit_doc enter] def pageDown : Word := 14
@[inherit_doc enter] def pageUp : Word := 19
@[inherit_doc enter] def up : Word := 20
@[inherit_doc enter] def down : Word := 21
@[inherit_doc enter] def right : Word := 22
@[inherit_doc enter] def left : Word := 23
@[inherit_doc enter] def escape : Word := 27

/-- The number of a key, if there is such a key. -/
def index? (key : Word) : Option (Fin 128) :=
  if bound : key.bits < 128 then
    some ⟨key.bits, bound⟩
  else
    none

end Key

/-- A keyboard that a user types on. -/
structure LiveKeys where
  held : Vector Bool 128 := Vector.replicate 128 false
  latch : Word := 0

namespace LiveKeys

/-- A key goes down. -/
def press
    (keys : LiveKeys)
    (key : Word) :
    LiveKeys :=
  match Key.index? key with
  | some index => { held := keys.held.set index true, latch := key }
  | none => keys

/-- A key comes up; if it was still latched, nothing is. -/
def release
    (keys : LiveKeys)
    (key : Word) :
    LiveKeys :=
  match Key.index? key with
  | some index =>
      {
        held := keys.held.set index false
        latch := if keys.latch = key then 0 else keys.latch
      }
  | none => keys

/-- Read the latched key and empty the latch. -/
def take (keys : LiveKeys) : Word × LiveKeys :=
  (keys.latch, { keys with latch := 0 })

/-- Read a key as soon as one is latched. -/
def await? (keys : LiveKeys) : Option (Word × LiveKeys) :=
  if keys.latch = 0 then none else some keys.take

/-- Whether a key is held. -/
def isHeld
    (keys : LiveKeys)
    (key : Word) :
    Bool :=
  match Key.index? key with
  | some index => keys.held[index]
  | none => false

/-- The held key with the lowest number. Key zero is not looked at. -/
def lowest? (keys : LiveKeys) : Option Word :=
  ((List.range' 1 127).find? fun index => keys.held[index]? = some true).map Word.ofBits

/-- Latch a key again if it is held. -/
def relatch
    (keys : LiveKeys)
    (key : Word) :
    LiveKeys :=
  if keys.isHeld key then { keys with latch := key } else keys

/-- Latch the lowest held key, if there is one. -/
def relatchLowest (keys : LiveKeys) : LiveKeys :=
  match keys.lowest? with
  | some key => { keys with latch := key }
  | none => keys

end LiveKeys

/-- What a user does to a key. -/
inductive KeyMotion where
  | down (key : Word)
  | up (key : Word)
  deriving DecidableEq, Repr

namespace LiveKeys

/-- The keys after one of them moved. -/
def move
    (keys : LiveKeys) :
    KeyMotion → LiveKeys
  | .down key => keys.press key
  | .up key => keys.release key

/-- The keys after some motions, one after the other. -/
def moveAll
    (keys : LiveKeys)
    (motions : List KeyMotion) :
    LiveKeys :=
  motions.foldl move keys

end LiveKeys

/--
What a user does while a read waits: some keys move, and if none of them is
latched then, a last one goes down, since the read waits until one is.
-/
structure Visit where
  motions : List KeyMotion
  /-- The last key, counted from key one: key zero latches nothing. -/
  last : Fin 127
  deriving DecidableEq, Repr

/-- The visit of a user without any plans, who presses Escape. -/
def Visit.escape : Visit :=
  { motions := [], last := ⟨26, by decide⟩ }

/-- The key that a visit ends with, if it is needed. -/
def Visit.lastKey (visit : Visit) : Word :=
  Word.ofBits (visit.last + 1)

/-- Answer a waiting read as soon as a key is latched during a visit. -/
def LiveKeys.answer
    (keys : LiveKeys)
    (visit : Visit) :
    Word × LiveKeys :=
  let moved := keys.moveAll visit.motions
  match moved.await? with
  | some answered => answered
  | none => (moved.press visit.lastKey).take

/-- A keyboard that a user types on, and what the user does while reads wait. -/
structure LiveKeyboard extends LiveKeys where
  coming : List Visit := []

namespace LiveKeyboard

/-- Change what the keyboard knows of its keys. The user's plans stay. -/
def withKeys
    (board : LiveKeyboard)
    (keys : LiveKeys) :
    LiveKeyboard :=
  { board with toLiveKeys := keys }

/-- Answer a waiting read during the next visit. -/
def await (board : LiveKeyboard) : Word × LiveKeyboard :=
  let (key, keys) := board.answer (board.coming.headD .escape)
  (key, { toLiveKeys := keys, coming := board.coming.tail })

end LiveKeyboard

/-- A keyboard as a program sees it. -/
inductive Keyboard where
  | live (board : LiveKeyboard)
  | scripted (keys : List Word)

namespace Keyboard

/-- What a keyboard answers, the keyboard afterwards, and what it records. -/
structure Reply (α : Type) where
  answer : α
  keyboard : Keyboard
  log : List String := []

/--
Read a key, or zero if there is none. A waiting read of a live keyboard is
answered by its user, so never with zero.
-/
def read
    (keyboard : Keyboard)
    (waiting : Bool) :
    Reply Word :=
  match keyboard, waiting with
  | .live board, false =>
      { answer := board.take.1, keyboard := .live (board.withKeys board.take.2) }
  | .live board, true =>
      { answer := board.await.1, keyboard := .live board.await.2 }
  | .scripted keys, false =>
      { answer := 0, keyboard := .scripted keys }
  | .scripted keys, true =>
      let key := keys.headD 0
      {
        answer := key
        keyboard := .scripted keys.tail
        log := ["[get key true: " ++ key.decimal ++ "]"]
      }

/-- Ask whether a key is held. -/
def isHeld
    (keyboard : Keyboard)
    (key : Word) :
    Reply Bool :=
  match keyboard with
  | .live board => { answer := board.isHeld key, keyboard := keyboard }
  | .scripted _ => { answer := false, keyboard := keyboard, log := ["[is key pressed]"] }

/-- Ask for the lowest held key, zero if there is none. -/
def lowest (keyboard : Keyboard) : Reply Word :=
  match keyboard with
  | .live board => { answer := board.lowest?.getD 0, keyboard := keyboard }
  | .scripted _ => { answer := 0, keyboard := keyboard, log := ["[get pressed key]"] }

/-- Latch a key again if it is held. -/
def relatch
    (keyboard : Keyboard)
    (key : Word) :
    Reply Unit :=
  match keyboard with
  | .live board =>
      { answer := (), keyboard := .live (board.withKeys (board.relatch key)) }
  | .scripted _ =>
      { answer := (), keyboard := keyboard, log := ["[revalidate key " ++ key.decimal ++ "]"] }

/-- Latch the lowest held key, if there is one. -/
def relatchLowest (keyboard : Keyboard) : Reply Unit :=
  match keyboard with
  | .live board =>
      { answer := (), keyboard := .live (board.withKeys board.relatchLowest) }
  | .scripted _ =>
      { answer := (), keyboard := keyboard, log := ["[revalidate all keys]"] }

/-- Forget held and latched keys. A script goes on where it is, and so does a user. -/
def reset : Keyboard → Keyboard
  | .live board => .live (board.withKeys {})
  | .scripted keys => .scripted keys

/-- A key goes down. A scripted keyboard has no keys to press. -/
def press
    (keyboard : Keyboard)
    (key : Word) :
    Keyboard :=
  match keyboard with
  | .live board => .live (board.withKeys (board.press key))
  | .scripted _ => keyboard

/-- A key comes up. -/
def release
    (keyboard : Keyboard)
    (key : Word) :
    Keyboard :=
  match keyboard with
  | .live board => .live (board.withKeys (board.release key))
  | .scripted _ => keyboard

/-- The user is going to do this while reads wait. Nobody types on a scripted keyboard. -/
def expect
    (keyboard : Keyboard)
    (visits : List Visit) :
    Keyboard :=
  match keyboard with
  | .live board => .live { board with coming := visits }
  | .scripted _ => keyboard

section Plans

variable
  (keyboard : Keyboard)
  (visits : List Visit)

/-- Only the visits that were announced last are still to come. -/
@[simp]
theorem expect_expect (earlier : List Visit) :
    (keyboard.expect earlier).expect visits = keyboard.expect visits := by
  cases keyboard <;> rfl

/-- Nothing that happens to keys depends on what the user does later. -/
theorem expect_press (key : Word) :
    (keyboard.press key).expect visits = (keyboard.expect visits).press key := by
  cases keyboard <;> rfl

/-- Letting go of a key does not depend on the visits to come. -/
theorem expect_release (key : Word) :
    (keyboard.release key).expect visits = (keyboard.expect visits).release key := by
  cases keyboard <;> rfl

/-- A reset leaves the visits to come as they are. -/
theorem expect_reset : keyboard.reset.expect visits = (keyboard.expect visits).reset := by
  cases keyboard <;> rfl

end Plans

end Keyboard

end Handheld
