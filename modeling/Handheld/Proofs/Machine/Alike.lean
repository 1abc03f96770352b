import Handheld.Proofs.Files.SameFiles
import Handheld.Proofs.Machine.Outcome

namespace Handheld

/-!
# Stacks and devices that are alike

Two stacks are alike when they differ only in slots above their tops that a
depth does not reach, and two devices when they differ only in the bitmap chosen
last and in the log. Whatever is asked of them gets the same answer and leaves
them alike.
-/

namespace DataStack

/-- As many slots, the same values below the top and the same in all slots up to a depth. -/
structure Alike
    (depth : Nat)
    (stack other : DataStack) :
    Prop where
  top : other.top = stack.top
  capacity : stack.slots.size = standardCapacity
  size : other.slots.size = stack.slots.size
  slots :
    ∀ index,
      index < depth ∨ index < stack.top →
      other.slots[index]? = stack.slots[index]?

namespace Alike

/-- A stack of the standard capacity is like itself. -/
theorem refl
    {stack : DataStack}
    (capacity : stack.slots.size = standardCapacity)
    (depth : Nat) :
    Alike depth stack stack :=
  ⟨rfl, capacity, rfl, fun _ _ => rfl⟩

/-- Stacks without values are alike whatever their slots hold. -/
theorem clear
    {stack other : DataStack}
    (capacity : stack.slots.size = standardCapacity)
    (otherCapacity : other.slots.size = standardCapacity) :
    Alike 0 stack.clear other.clear where
  top := rfl
  capacity := capacity
  size := otherCapacity.trans capacity.symm
  slots _ below := by rcases below with below | below <;> cases below

/-- Clearing leaves the slots as they are, so equal slots stay equal. -/
theorem clear_of_slots
    {stack other : DataStack}
    (capacity : stack.slots.size = standardCapacity)
    (slots : other.slots = stack.slots)
    (depth : Nat) :
    Alike depth stack.clear other.clear where
  top := rfl
  capacity := capacity
  size := congrArg Array.size slots
  slots index _ := congrArg (·[index]?) slots

section Operations

variable
  {depth : Nat}
  {stack other : DataStack}
  (alike : Alike depth stack other)

include alike

/-- The depth may be raised to the values that are there. -/
theorem raise : Alike (max depth stack.top) stack other := by
  refine ⟨alike.top, alike.capacity, alike.size, fun index below => alike.slots index ?_⟩
  omega

/-- The slots that count are the same. -/
theorem getElem
    {index : Nat}
    (below : index < depth ∨ index < stack.top)
    (inside : index < stack.slots.size)
    (insideToo : index < other.slots.size) :
    other.slots[index] = stack.slots[index] := by
  have same := alike.slots index below
  rw [Array.getElem?_eq_getElem inside, Array.getElem?_eq_getElem insideToo] at same
  exact Option.some.inj same

/-- Alike stacks show the same values. -/
theorem toList : other.toList = stack.toList := by
  unfold DataStack.toList
  rw [alike.top]
  apply List.ext_getElem?
  intro index
  rw [List.getElem?_take, List.getElem?_take]
  split
  · rename_i below
    simpa using alike.slots index (.inr below)
  · rfl

/-- Pushing on alike stacks overflows in both or in none. -/
theorem push (value : Word) : Agree (Alike depth) (stack.push value) (other.push value) := by
  unfold DataStack.push
  simp only [alike.top, alike.size]
  split
  · refine .ok ⟨rfl, ?_, ?_, fun index below => ?_⟩
    · rw [Array.size_set, alike.capacity]
    · rw [Array.size_set, Array.size_set, alike.size]
    · dsimp only at below
      rw [Array.getElem?_set, Array.getElem?_set]
      split
      · rfl
      · exact alike.slots index (by omega)
  · exact .error _

/-- Popping from alike stacks gives the same value. -/
theorem pop : Agree (SameAnswer (Alike depth)) stack.pop other.pop := by
  unfold DataStack.pop
  simp only [alike.top]
  split
  · have bound := stack.top_le
    refine .ok ⟨alike.getElem (.inr (by omega)) _ _, rfl, alike.capacity, alike.size, ?_⟩
    intro index below
    dsimp only at below
    exact alike.slots index (by omega)
  · exact .error _

/-- Taking from alike stacks gives the same values. -/
theorem take (count : Nat) :
    Agree (SameAnswer (Alike depth)) (stack.take count) (other.take count) := by
  unfold DataStack.take
  simp only [alike.top]
  split
  · have bound := stack.top_le
    refine .ok ⟨?_, rfl, alike.capacity, alike.size, fun index below => ?_⟩
    · dsimp only
      congr 1
      funext index
      exact alike.getElem (.inr (by omega)) _ _
    · dsimp only at below
      exact alike.slots index (by omega)
  · exact .error _

/-- The slot right above the top is the same up to the depth, and missing in a full stack. -/
theorem lastPopped
    (covered : stack.top < stack.capacity → stack.top < depth) :
    other.lastPopped = stack.lastPopped := by
  unfold DataStack.lastPopped
  simp only [alike.top, alike.size]
  split
  · rename_i room
    rw [alike.getElem (.inl (covered room))]
  · rfl

end Operations

end Alike

end DataStack

namespace Device

/-- The same memory, text and keys, and pixels drawn with the same glyphs. -/
inductive Alike (fonts : FontTable) : Device → Device → Prop where
  | intro
      (ram : Ram)
      (target other : Target)
      (grid : TextGrid)
      (board : LiveKeyboard)
      (log otherLog : Array String) :
      Alike fonts
        { ram, screen := .painted fonts, target, text := .grid grid, keyboard := .live board, log }
        {
          ram
          screen := .painted fonts
          target := other
          text := .grid grid
          keyboard := .live board
          log := otherLog
        }

namespace Alike

section Operations

variable
  {fonts : FontTable}
  {device other : Device}
  (alike : Alike fonts device other)

include alike

/-- Alike devices have the same memory. -/
theorem ram : other.ram = device.ram := by
  cases alike
  rfl

/-- Alike devices write in the same size. -/
theorem fontSize : other.fontSize.1 = device.fontSize.1 := by
  cases alike
  rfl

/-- The same change of memory keeps devices alike. -/
theorem setRam (change : Ram → Ram) :
    Alike fonts
      { device with ram := change device.ram }
      { other with ram := change other.ram } := by
  cases alike
  exact .intro ..

/-- Devices stay alike when both turn to the same target. -/
theorem setTarget (target : Target) :
    Alike fonts (device.setTarget target) (other.setTarget target) := by
  cases alike
  exact .intro ..

/-- Drawing calls on one bitmap work on memory alone. -/
theorem drawAll
    (sameTarget : other.target = device.target)
    (drawings : List Drawing) :
    Alike fonts (drawings.foldl draw device) (drawings.foldl draw other) := by
  induction drawings generalizing device other with
  | nil => exact alike
  | cons drawing rest inductionHypothesis =>
      cases alike
      cases sameTarget
      exact inductionHypothesis (.intro ..) rfl

/-- The target that was set before does not matter to what is drawn on another. -/
theorem drawOn
    (target : Target)
    (drawing : Drawing) :
    Alike fonts ((device.setTarget target).draw drawing) ((other.setTarget target).draw drawing) :=
  (alike.setTarget target).drawAll rfl [drawing]

/-- Both devices show the same buffer. -/
theorem refresh : Alike fonts (device.draw .refresh) (other.draw .refresh) := by
  cases alike
  exact .intro ..

/-- A pixel is the same on both devices. -/
theorem testPoint (x y : Int) :
    SameAnswer (Alike fonts)
      ((device.setTarget .graphics).testPoint x y)
      ((other.setTarget .graphics).testPoint x y) := by
  cases alike
  unfold Device.testPoint
  dsimp only [Device.setTarget]
  split
  · exact ⟨rfl, .intro ..⟩
  · exact ⟨rfl, .intro ..⟩

/-- The font size is changed alike. -/
theorem setFontSize (size : FontSize) :
    Alike fonts (device.setFontSize size) (other.setFontSize size) := by
  cases alike
  exact .intro ..

/-- The text is cleared alike. -/
theorem resetText : Alike fonts device.resetText other.resetText := by
  cases alike
  exact .intro ..

/-- A byte is written alike. -/
theorem addByte (byte : UInt8) :
    Alike fonts (device.addByte byte) (other.addByte byte) := by
  cases alike
  exact .intro ..

/-- Bytes are written alike. -/
theorem addBytes (bytes : List UInt8) :
    Alike fonts (device.addBytes bytes) (other.addBytes bytes) := by
  cases alike
  exact .intro ..

/-- The cursor is moved alike. -/
theorem locate (row column : Word) :
    Alike fonts (device.locate row column) (other.locate row column) := by
  cases alike
  exact .intro ..

/-- Alike devices stay alike when both are prepared for a run. -/
theorem prepared (policy : RamPolicy) :
    Alike fonts (Machine.preparedDevice policy device) (Machine.preparedDevice policy other) := by
  cases alike
  exact .intro ..

/-- The text is shown alike. -/
theorem renderText (mask : Word) :
    Alike fonts (device.renderText mask) (other.renderText mask) := by
  have aimed := alike.setTarget .graphics
  cases alike
  exact aimed.drawAll rfl _

/-- A live keyboard answers alike and stays live. -/
theorem heard
    (reply : Keyboard → Keyboard.Reply α)
    (live : ∀ board, ∃ after, (reply (.live board)).keyboard = .live after) :
    SameAnswer (Alike fonts)
      (device.heard (reply device.keyboard))
      (other.heard (reply other.keyboard)) := by
  cases alike with
  | intro ram target otherTarget grid board =>
      obtain ⟨after, same⟩ := live board
      refine ⟨rfl, ?_⟩
      unfold Device.heard
      dsimp only
      rw [same]
      exact .intro ..

/-- As many keys are left on both devices. -/
theorem keysLeft : Machine.keysLeft other.keyboard = Machine.keysLeft device.keyboard := by
  cases alike
  rfl

/-- Keys change in the same way as long as the keyboard stays live. -/
theorem setKeyboard
    (change : Keyboard → Keyboard)
    (live : ∀ board, ∃ after, change (.live board) = .live after) :
    Alike fonts
      { device with keyboard := change device.keyboard }
      { other with keyboard := change other.keyboard } := by
  cases alike with
  | intro ram target otherTarget grid board =>
      obtain ⟨after, same⟩ := live board
      dsimp only
      rw [same]
      exact .intro ..

/-- A page of names is written alike. -/
theorem writeNames
    (row : Nat)
    (names : List (List UInt8)) :
    Alike fonts (Chooser.writeNames row names device) (Chooser.writeNames row names other) := by
  induction names generalizing row device other with
  | nil => exact alike
  | cons name rest inductionHypothesis =>
      exact inductionHypothesis ((alike.locate _ 0).addBytes name) (row + 1)

/-- A page of names is drawn alike. -/
theorem choose
    (chooser : Chooser)
    (names : List (List UInt8)) :
    Alike fonts (chooser.draw names device) (chooser.draw names other) := by
  have cleared := (alike.setFontSize .large).resetText
  exact ((cleared.writeNames 0 _).renderText 0).drawOn .graphics _

end Operations

end Alike

end Device

end Handheld
