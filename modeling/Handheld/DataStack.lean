import Handheld.Fault

namespace Handheld

/-!
# The data stack

A stack of words with a fixed number of slots. Taking values only lowers the
top, so the slots above it keep what was removed until something is pushed over
it; the conditional jumps test the slot right above the top. `DataStack.toList`
is the visible part, bottom first.
-/

/-- A bounded stack whose removed values stay in their slots. -/
structure DataStack where
  slots : Array Word
  top : Nat
  top_le : top ≤ slots.size

namespace DataStack

/-- Number of slots of the machine's stack. -/
def standardCapacity : Nat := 1024

/-- A stack without values. -/
def empty (capacity : Nat) : DataStack where
  slots := Array.replicate capacity 0
  top := 0
  top_le := Nat.zero_le _

/-- Number of slots. -/
def capacity (stack : DataStack) : Nat :=
  stack.slots.size

/-- The visible values, bottom first. -/
def toList (stack : DataStack) : List Word :=
  stack.slots.toList.take stack.top

/-- Drop all values without touching their slots. -/
def clear (stack : DataStack) : DataStack :=
  { stack with top := 0, top_le := Nat.zero_le _ }

/-- Put a value on top. -/
@[inline] def push
    (stack : DataStack)
    (value : Word) :
    Except Fault DataStack :=
  if room : stack.top < stack.slots.size then
    .ok {
      slots := stack.slots.set stack.top value
      top := stack.top + 1
      top_le := by simpa using Nat.succ_le_of_lt room
    }
  else
    .error .stackOverflow

/-- Put a truth value on top. -/
def pushBool
    (stack : DataStack)
    (value : Bool) :
    Except Fault DataStack :=
  stack.push (Word.ofBool value)

/-- The value `depth` places below the top one. -/
def peek
    (stack : DataStack)
    (depth : Nat) :
    Except Fault Word :=
  if enough : depth < stack.top then
    have := stack.top_le
    .ok stack.slots[stack.top - 1 - depth]
  else
    .error .stackUnderflow

/-- The slot right above the top, which holds the value removed last. -/
def lastPopped (stack : DataStack) : Except Fault Word :=
  if room : stack.top < stack.slots.size then
    .ok stack.slots[stack.top]
  else
    .error .stackOverflow

/-- Remove the top `count` values and give them deepest first. -/
def take
    (stack : DataStack)
    (count : Nat) :
    Except Fault (Vector Word count × DataStack) :=
  if enough : count ≤ stack.top then
    have bound := stack.top_le
    let rest := stack.top - count
    let values := Vector.ofFn fun (index : Fin count) => stack.slots[rest + index]
    .ok (values, { stack with top := rest, top_le := by omega })
  else
    .error .stackUnderflow

/-- Remove the top value. -/
def pop (stack : DataStack) : Except Fault (Word × DataStack) :=
  if enough : 0 < stack.top then
    have bound := stack.top_le
    .ok (stack.slots[stack.top - 1], { stack with top := stack.top - 1, top_le := by omega })
  else
    .error .stackUnderflow

/-- The top counts the visible values. -/
theorem length_toList (stack : DataStack) : stack.toList.length = stack.top := by
  have bound := stack.top_le
  simp only [toList, List.length_take, Array.length_toList]
  omega

/-- A cleared stack shows nothing. -/
theorem toList_clear (stack : DataStack) : stack.clear.toList = [] := by
  simp [clear, toList]

/-- A pushed value comes behind the visible ones. -/
theorem toList_push
    {stack after : DataStack}
    {value : Word}
    (pushed : stack.push value = .ok after) :
    after.toList = stack.toList ++ [value] := by
  unfold push at pushed
  split at pushed
  case isTrue room =>
    cases pushed
    have inside : stack.top < (stack.slots.set stack.top value).toList.length := by
      simpa using room
    simp only [toList, ← List.take_append_getElem inside]
    simp [List.take_set_of_le]
  case isFalse => cases pushed

/-- Pushing fails exactly when all slots are in use. -/
theorem push_eq_error_iff
    (stack : DataStack)
    (value : Word)
    (fault : Fault) :
    stack.push value = .error fault ↔
      stack.toList.length = stack.capacity ∧ fault = .stackOverflow := by
  have bound := stack.top_le
  rw [length_toList]
  unfold push capacity
  split
  case isTrue room => simp; omega
  case isFalse full =>
    have used : stack.top = stack.slots.size := by omega
    simp [used, eq_comm]

/-- Values taken from the stack were its last ones, and the others stay. -/
theorem toList_take
    {stack after : DataStack}
    {count : Nat}
    {values : Vector Word count}
    (taken : stack.take count = .ok (values, after)) :
    stack.toList = after.toList ++ values.toList := by
  unfold take at taken
  split at taken
  case isTrue enough =>
    cases taken
    have bound := stack.top_le
    apply List.ext_getElem
    · simp [toList]
      omega
    · intro index inside _
      simp only [toList, List.length_take, Array.length_toList] at inside
      by_cases below : index < stack.top - count
      · rw [List.getElem_append_left (by simp [toList]; omega)]
        simp [toList]
      · rw [List.getElem_append_right (by simp [toList]; omega)]
        have shown : min (stack.top - count) stack.slots.size = stack.top - count := by omega
        have place : stack.top - count + (index - (stack.top - count)) = index := by omega
        simp [toList, shown, place]
  case isFalse => cases taken

/-- The popped value was the last visible one, and the others stay. -/
theorem toList_pop
    {stack after : DataStack}
    {value : Word}
    (popped : stack.pop = .ok (value, after)) :
    stack.toList = after.toList ++ [value] := by
  unfold pop at popped
  split at popped
  case isTrue enough =>
    cases popped
    have bound := stack.top_le
    have inside : stack.top - 1 < stack.slots.toList.length := by
      simp only [Array.length_toList]
      omega
    have parts := List.take_append_getElem inside
    have next : stack.top - 1 + 1 = stack.top := by omega
    rw [next] at parts
    simpa [toList] using parts.symm
  case isFalse => cases popped

end DataStack

end Handheld
