import Handheld.Proofs.Machine.Outcome
import Handheld.Proofs.Memory.LittleEndian

namespace Handheld

/-!
# Effects of actions

Most actions leave the call frames and the place of the next string literal
alone, and exchange a fixed number of values on top of the stack. `Effect` says
both at once of an action. Its rules follow the ways in which actions are put
together, so the effect of a long action is read off its parts.
-/

/--
A list changes at its end: the last `consumed` values go, `produced` others
come, and what lies below them stays.
-/
def Replaces
    (consumed produced : Nat)
    (before after : List α) :
    Prop :=
  ∃ kept removed added,
    before = kept ++ removed ∧
      removed.length = consumed ∧
      after = kept ++ added ∧
      added.length = produced

namespace Replaces

/-- Values that stay are replaced by none. -/
theorem refl (values : List α) : Replaces 0 0 values values :=
  ⟨values, [], [], by simp⟩

/-- Values that go away after others add up. -/
theorem trans
    {before middle after : List α}
    {first second produced : Nat}
    (earlier : Replaces first 0 before middle)
    (later : Replaces second produced middle after) :
    Replaces (second + first) produced before after := by
  obtain ⟨kept, removed, added, rfl, removedLength, rfl, addedLength⟩ := earlier
  obtain ⟨lower, between, values, middleShape, betweenLength, rfl, valuesLength⟩ := later
  have nothing : added = [] := List.eq_nil_of_length_eq_zero addedLength
  subst nothing
  rw [List.append_nil] at middleShape
  subst middleShape
  refine ⟨lower, between ++ removed, values, by simp, ?_, rfl, valuesLength⟩
  rw [List.length_append, betweenLength, removedLength]

/-- What keeps the values does not add to what was replaced. -/
theorem trans_refl
    {before middle after : List α}
    {consumed produced : Nat}
    (earlier : Replaces consumed produced before middle)
    (later : Replaces 0 0 middle after) :
    Replaces consumed produced before after := by
  obtain ⟨lower, between, values, middleShape, betweenLength, rfl, valuesLength⟩ := later
  have nothingBetween : between = [] := List.eq_nil_of_length_eq_zero betweenLength
  have nothingNew : values = [] := List.eq_nil_of_length_eq_zero valuesLength
  subst nothingBetween
  subst nothingNew
  subst middleShape
  exact earlier

/-- The list was at least as long as what went away. -/
theorem consumed_le
    {before after : List α}
    {consumed produced : Nat}
    (change : Replaces consumed produced before after) :
    consumed ≤ before.length := by
  obtain ⟨kept, removed, added, rfl, removedLength, -, -⟩ := change
  rw [List.length_append, removedLength]
  exact Nat.le_add_left consumed kept.length

/-- What comes is put behind what is left of the list. -/
theorem eq_take_append
    {before after : List α}
    {consumed produced : Nat}
    (change : Replaces consumed produced before after) :
    ∃ added,
      added.length = produced ∧
        after = before.take (before.length - consumed) ++ added := by
  obtain ⟨kept, removed, added, rfl, removedLength, rfl, addedLength⟩ := change
  refine ⟨added, addedLength, ?_⟩
  have keptLength : (kept ++ removed).length - consumed = kept.length := by
    rw [List.length_append, removedLength]
    exact Nat.add_sub_cancel kept.length consumed
  rw [keptLength, List.take_left]

end Replaces

/-- How many values an instruction takes from the stack. -/
inductive Demand where
  /-- Always the same number. -/
  | exactly (count : Nat)
  /-- As many as the last operand byte of the instruction says. -/
  | asOperand
  /-- The top value and as many more as it says. -/
  | asTop
  deriving DecidableEq, Repr

/-- The number that an instruction takes in a machine that is about to carry it out. -/
def Demand.count
    (machine : Machine) :
    Demand → Nat
  | .exactly count => count
  | .asOperand => Machine.codeNumber machine.code 1 (machine.pc + 3)
  | .asTop => (machine.stack.toList.getLast?.getD 0).bits + 1

namespace DataStack

/-- Clearing does not change the capacity. -/
theorem capacity_clear (stack : DataStack) : stack.clear.capacity = stack.capacity :=
  rfl

/-- Pushing does not change the capacity. -/
theorem capacity_push
    {stack after : DataStack}
    {value : Word}
    (pushed : stack.push value = .ok after) :
    after.capacity = stack.capacity := by
  unfold push at pushed
  split at pushed
  case isTrue room =>
    cases pushed
    simp [capacity]
  case isFalse => cases pushed

/-- Taking does not change the capacity. -/
theorem capacity_take
    {stack after : DataStack}
    {count : Nat}
    {values : Vector Word count}
    (taken : stack.take count = .ok (values, after)) :
    after.capacity = stack.capacity := by
  unfold take at taken
  split at taken
  case isTrue enough =>
    cases taken
    rfl
  case isFalse => cases taken

/-- Popping does not change the capacity. -/
theorem capacity_pop
    {stack after : DataStack}
    {value : Word}
    (popped : stack.pop = .ok (value, after)) :
    after.capacity = stack.capacity := by
  unfold pop at popped
  split at popped
  case isTrue enough =>
    cases popped
    rfl
  case isFalse => cases popped

/-- A stack with a free slot takes a value. -/
theorem exists_push
    {stack : DataStack}
    (room : stack.toList.length < stack.capacity)
    (value : Word) :
    ∃ after, stack.push value = .ok after ∧ after.toList = stack.toList ++ [value] := by
  rcases pushed : stack.push value with fault | after
  · have full := ((push_eq_error_iff _ _ _).mp pushed).1
    omega
  · exact ⟨after, rfl, toList_push pushed⟩

/-- Values that are shown last can be taken, and those below them stay. -/
theorem exists_take
    {stack : DataStack}
    {kept : List Word}
    {count : Nat}
    {values : Vector Word count}
    (shown : stack.toList = kept ++ values.toList) :
    ∃ after, stack.take count = .ok (values, after) ∧ after.toList = kept := by
  rcases taken : stack.take count with fault | ⟨found, after⟩
  · unfold take at taken
    split at taken
    case isTrue => cases taken
    case isFalse missing =>
      have depth := congrArg List.length shown
      rw [length_toList, List.length_append, Vector.length_toList] at depth
      omega
  · have parts := (toList_take taken).symm.trans shown
    have sizes : found.toList.length = values.toList.length := by
      rw [Vector.length_toList, Vector.length_toList]
    obtain ⟨sameKept, sameValues⟩ := List.append_inj' parts sizes
    rw [Vector.toList_inj.mp sameValues]
    exact ⟨after, rfl, sameKept⟩

/-- The value that is shown last can be popped, and those below it stay. -/
theorem exists_pop
    {stack : DataStack}
    {kept : List Word}
    {value : Word}
    (shown : stack.toList = kept ++ [value]) :
    ∃ after, stack.pop = .ok (value, after) ∧ after.toList = kept := by
  rcases popped : stack.pop with fault | ⟨found, after⟩
  · unfold pop at popped
    split at popped
    case isTrue => cases popped
    case isFalse missing =>
      have depth := congrArg List.length shown
      rw [length_toList, List.length_append, List.length_singleton] at depth
      omega
  · have parts := (toList_pop popped).symm.trans shown
    obtain ⟨sameKept, sameValue⟩ := List.append_inj' parts rfl
    cases sameValue
    exact ⟨after, rfl, sameKept⟩

/-- No more values are shown than the stack can hold. -/
theorem length_toList_le (stack : DataStack) : stack.toList.length ≤ stack.capacity := by
  rw [length_toList]
  exact stack.top_le

/-- Behind a value that is popped there is room for another one. -/
theorem length_lt_of_pop
    {stack after : DataStack}
    {value : Word}
    (popped : stack.pop = .ok (value, after)) :
    after.toList.length < after.capacity := by
  have bound := stack.length_toList_le
  rw [toList_pop popped, List.length_append, List.length_singleton] at bound
  rw [capacity_pop popped]
  exact bound

/-- The two values that are shown last can be popped one after the other. -/
theorem exists_popTwo
    {stack : DataStack}
    {kept : List Word}
    {lower upper : Word}
    (shown : stack.toList = kept ++ [lower, upper]) :
    ∃ middle after,
      stack.pop = .ok (upper, middle) ∧
        middle.pop = .ok (lower, after) ∧
        after.toList = kept := by
  have upperLast : stack.toList = (kept ++ [lower]) ++ [upper] := by
    rw [shown, List.append_assoc]
    rfl
  obtain ⟨middle, popped, lowerLast⟩ := exists_pop upperLast
  obtain ⟨after, poppedNext, shownAfter⟩ := exists_pop lowerLast
  exact ⟨middle, after, popped, poppedNext, shownAfter⟩

end DataStack

namespace Machine

/-- The farthest that the program counter gets in a machine. -/
def reach (machine : Machine) : Nat :=
  max machine.code.size 0xffffff

/-- What stays as it is when nothing is done to frames and string literals. -/
structure Steady (before after : Machine) : Prop where
  code : after.code = before.code
  frames : after.frames = before.frames
  stringPointer : after.stringPointer = before.stringPointer
  capacity : after.stack.capacity = before.stack.capacity
  pc : after.pc = before.pc ∨ after.pc ≤ before.reach

namespace Steady

theorem refl (machine : Machine) : Steady machine machine :=
  ⟨rfl, rfl, rfl, rfl, .inl rfl⟩

/-- What holds steady twice holds steady. -/
theorem trans
    {before middle after : Machine}
    (earlier : Steady before middle)
    (later : Steady middle after) :
    Steady before after where
  code := later.code.trans earlier.code
  frames := later.frames.trans earlier.frames
  stringPointer := later.stringPointer.trans earlier.stringPointer
  capacity := later.capacity.trans earlier.capacity
  pc := by
    have sameReach : middle.reach = before.reach := by
      unfold reach
      rw [earlier.code]
    rcases later.pc with same | near
    · rw [same]
      exact earlier.pc
    · right
      rw [← sameReach]
      exact near

/-- The stack may be exchanged for one of the same capacity. -/
theorem withStack
    {machine : Machine}
    {stack : DataStack}
    (capacity : stack.capacity = machine.stack.capacity) :
    Steady machine { machine with stack := stack } :=
  ⟨rfl, rfl, rfl, capacity, .inl rfl⟩

/-- The machine may go on at any place within reach. -/
theorem withPc
    {machine : Machine}
    {pc : Nat}
    (near : pc ≤ machine.reach) :
    Steady machine { machine with pc := pc } :=
  ⟨rfl, rfl, rfl, rfl, .inr near⟩

end Steady

/-- An action that moves every machine along a relation, whether or not it meets a fault. -/
def Moves
    (relation : Machine → Machine → Prop)
    (action : Action α) :
    Prop :=
  ∀ machine : Machine, relation machine (machine.outcome action).2

/-- What an action moves is seen in its outcome. -/
theorem Moves.of_outcome
    {relation : Machine → Machine → Prop}
    {action : Action α}
    {machine after : Machine}
    {result : Except Fault α}
    (moves : Moves relation action)
    (ends : machine.outcome action = (result, after)) :
    relation machine after := by
  have moved := moves machine
  rwa [ends] at moved

/-- An action all whose results have a property. -/
def Gives
    (action : Action α)
    (property : α → Prop) :
    Prop :=
  ∀ {machine after : Machine} {value : α},
    machine.outcome action = (.ok value, after) →
    property value

/-- Moves in sequence add up, where only the results that can come count. -/
theorem Moves.bindWhere
    {relation : Machine → Machine → Prop}
    {action : Action α}
    {next : α → Action β}
    {property : α → Prop}
    (transitive :
      ∀ {before middle after},
        relation before middle →
        relation middle after →
        relation before after)
    (first : Moves relation action)
    (gives : Gives action property)
    (second : ∀ value, property value → Moves relation (next value)) :
    Moves relation (action >>= next) := by
  intro machine
  have earlier := first machine
  rcases ends : machine.outcome action with ⟨value | value, middle⟩
  · rw [outcome_bind_of_error ends]
    rwa [ends] at earlier
  · rw [outcome_bind_of_ok ends]
    rw [ends] at earlier
    exact transitive earlier (second value (gives ends) middle)

/-- Actions one after the other move as both do. -/
theorem Moves.bind
    {relation : Machine → Machine → Prop}
    {action : Action α}
    {next : α → Action β}
    (transitive :
      ∀ {before middle after},
        relation before middle →
        relation middle after →
        relation before after)
    (first : Moves relation action)
    (second : ∀ value, Moves relation (next value)) :
    Moves relation (action >>= next) := by
  have gives : Gives action fun _ => True := fun _ => trivial
  exact first.bindWhere transitive gives fun value _ => second value

/-- An action after which a machine is steady. -/
def Calm (action : Action α) : Prop :=
  Moves Steady action

/-- Calm actions one after the other are calm. -/
theorem Calm.bind
    {action : Action α}
    {next : α → Action β}
    (first : Calm action)
    (second : ∀ value, Calm (next value)) :
    Calm (action >>= next) :=
  Moves.bind Steady.trans first second

/--
An action that is calm and, when it meets no fault, exchanges `consumed` values
on top of the stack for `produced` others.
-/
structure Effect
    (consumed produced : Nat)
    (action : Action α) :
    Prop where
  calm : Calm action
  stack :
    ∀ {machine after : Machine} {value : α},
      machine.outcome action = (.ok value, after) →
      Replaces consumed produced machine.stack.toList after.stack.toList

namespace Effect

/-- An action that only takes values, before one with an effect after every result that can come. -/
theorem bindWhere
    {action : Action α}
    {next : α → Action β}
    {property : α → Prop}
    {taken consumed produced : Nat}
    (first : Effect taken 0 action)
    (gives : Gives action property)
    (second : ∀ value, property value → Effect consumed produced (next value)) :
    Effect (consumed + taken) produced (action >>= next) where
  calm := first.calm.bindWhere Steady.trans gives fun value holds => (second value holds).calm
  stack := by
    intro machine after result ends
    obtain ⟨value, middle, firstEnds, secondEnds⟩ := outcome_bind_eq_ok.mp ends
    exact (first.stack firstEnds).trans ((second value (gives firstEnds)).stack secondEnds)

/-- An action that only takes values, before one with an effect. -/
theorem bind
    {action : Action α}
    {next : α → Action β}
    {taken consumed produced : Nat}
    (first : Effect taken 0 action)
    (second : ∀ value, Effect consumed produced (next value)) :
    Effect (consumed + taken) produced (action >>= next) := by
  have gives : Gives action fun _ => True := fun _ => trivial
  exact first.bindWhere gives fun value _ => second value

/-- An action with an effect, before one that leaves the stack alone. -/
theorem followedBy
    {action : Action α}
    {next : α → Action β}
    {consumed produced : Nat}
    (first : Effect consumed produced action)
    (second : ∀ value, Effect 0 0 (next value)) :
    Effect consumed produced (action >>= next) where
  calm := first.calm.bind fun value => (second value).calm
  stack := by
    intro machine after result ends
    obtain ⟨value, middle, firstEnds, secondEnds⟩ := outcome_bind_eq_ok.mp ends
    exact (first.stack firstEnds).trans_refl ((second value).stack secondEnds)

/-- Giving a value has no effect. -/
theorem ofPure (value : α) : Effect 0 0 (pure value : Action α) where
  calm machine := .refl machine
  stack := by
    intro machine after result ends
    cases ends
    exact .refl _

/-- A fault never exchanges anything. -/
theorem ofThrow
    (fault : Fault)
    (consumed produced : Nat) :
    Effect consumed produced (throw fault : Action α) where
  calm machine := .refl machine
  stack := by
    intro machine after result ends
    cases ends

/-- Either branch may be taken where both have the same effect. -/
theorem ofIte
    {condition : Prop}
    [Decidable condition]
    {yes no : Action α}
    {consumed produced : Nat}
    (yesEffect : Effect consumed produced yes)
    (noEffect : Effect consumed produced no) :
    Effect consumed produced (if condition then yes else no) := by
  split
  · exact yesEffect
  · exact noEffect

/-- A change of the machine that leaves the stack alone. -/
theorem ofModifyGet
    {change : Machine → α × Machine}
    (steady : ∀ machine, Steady machine (change machine).2)
    (sameStack : ∀ machine, (change machine).2.stack = machine.stack) :
    Effect 0 0 (modifyGet change : Action α) where
  calm := steady
  stack := by
    intro machine after result ends
    cases ends
    rw [sameStack]
    exact .refl _

/-- A change that holds the machine steady and leaves the stack alone has no effect on it. -/
theorem ofModify
    {change : Machine → Machine}
    (steady : ∀ machine, Steady machine (change machine))
    (sameStack : ∀ machine, (change machine).stack = machine.stack) :
    Effect 0 0 (modify change : Action Unit) :=
  ofModifyGet steady sameStack

end Effect

section Primitives

/-- Looking at the machine has no effect on the stack. -/
theorem effect_get : Effect 0 0 (get : Action Machine) where
  calm machine := .refl machine
  stack := by
    intro machine after result ends
    cases ends
    exact .refl _

/-- Checking a result has no effect on the stack. -/
theorem effect_check (result : Except Fault α) : Effect 0 0 (check result) := by
  cases result with
  | ok value => exact .ofPure value
  | error fault => exact .ofThrow fault 0 0

theorem effect_onDevice (change : Device → Device) : Effect 0 0 (onDevice change) :=
  .ofModify (fun _ => ⟨rfl, rfl, rfl, rfl, .inl rfl⟩) fun _ => rfl

theorem effect_askDevice (question : Device → α × Device) :
    Effect 0 0 (askDevice question) :=
  .ofModifyGet (fun _ => ⟨rfl, rfl, rfl, rfl, .inl rfl⟩) fun _ => rfl

theorem effect_onRam (change : Ram → Ram) : Effect 0 0 (onRam change) :=
  effect_onDevice _

theorem effect_inRam (look : Ram → α) : Effect 0 0 (inRam look) :=
  effect_get.bind fun _ => .ofPure _

/-- Pushing produces one value. -/
theorem effect_push (value : Word) : Effect 0 1 (push value) where
  calm machine := by
    rcases pushed : machine.stack.push value with fault | stack
    · rw [outcome_push_of_error pushed]
      exact .refl machine
    · rw [outcome_push pushed]
      exact .withStack (DataStack.capacity_push pushed)
  stack := by
    intro machine after result ends
    rcases pushed : machine.stack.push value with fault | stack
    · rw [outcome_push_of_error pushed] at ends
      cases ends
    · rw [outcome_push pushed] at ends
      cases ends
      exact ⟨machine.stack.toList, [], [value], by simp [DataStack.toList_push pushed]⟩

theorem effect_pushBool (value : Bool) : Effect 0 1 (pushBool value) :=
  effect_push _

/-- The value that a pop gives was on top. -/
theorem toList_of_outcome_pop
    {machine after : Machine}
    {value : Word}
    (ends : machine.outcome pop = (.ok value, after)) :
    machine.stack.toList = after.stack.toList ++ [value] := by
  rcases popped : machine.stack.pop with fault | ⟨found, stack⟩
  · rw [outcome_pop_of_error popped] at ends
    cases ends
  · rw [outcome_pop popped] at ends
    cases ends
    exact DataStack.toList_pop popped

/-- Popping consumes one value. -/
theorem effect_pop : Effect 1 0 pop where
  calm machine := by
    rcases popped : machine.stack.pop with fault | ⟨value, stack⟩
    · rw [outcome_pop_of_error popped]
      exact .refl machine
    · rw [outcome_pop popped]
      exact .withStack (DataStack.capacity_pop popped)
  stack := by
    intro machine after result ends
    exact ⟨after.stack.toList, [result], [], by simp [toList_of_outcome_pop ends]⟩

/-- Taking consumes as many values as are asked for. -/
theorem effect_take (count : Nat) : Effect count 0 (take count) where
  calm machine := by
    rcases taken : machine.stack.take count with fault | ⟨values, stack⟩
    · rw [outcome_take_of_error taken]
      exact .refl machine
    · rw [outcome_take taken]
      exact .withStack (DataStack.capacity_take taken)
  stack := by
    intro machine after result ends
    rcases taken : machine.stack.take count with fault | ⟨values, stack⟩
    · rw [outcome_take_of_error taken] at ends
      cases ends
    · rw [outcome_take taken] at ends
      cases ends
      exact ⟨stack.toList, result.toList, [], by simp [DataStack.toList_take taken]⟩

theorem effect_takeTwo : Effect 2 0 takeTwo :=
  (effect_take 2).bind fun _ => .ofPure _

theorem effect_takeThree : Effect 3 0 takeThree :=
  (effect_take 3).bind fun _ => .ofPure _

theorem effect_takeFour : Effect 4 0 takeFour :=
  (effect_take 4).bind fun _ => .ofPure _

theorem effect_takeFive : Effect 5 0 takeFive :=
  (effect_take 5).bind fun _ => .ofPure _

theorem effect_takeSix : Effect 6 0 takeSix :=
  (effect_take 6).bind fun _ => .ofPure _

theorem effect_popAddress : Effect 1 0 popAddress :=
  effect_pop.bind fun _ => .ofPure _

theorem effect_checkRange (address length : Nat) : Effect 0 0 (checkRange address length) :=
  effect_check _

theorem effect_stringAt (address : Nat) : Effect 0 0 (stringAt address) := by
  refine (effect_inRam _).bind fun text => ?_
  cases text with
  | some text => exact .ofPure text
  | none => exact .ofThrow _ 0 0

theorem effect_storeString
    (address : Nat)
    (text : List UInt8) :
    Effect 0 0 (storeString address text) :=
  (effect_checkRange _ _).bind fun _ => effect_onRam _

/-- Skipping code moves the program counter inside the image. -/
theorem effect_advance (count : Nat) : Effect 0 0 (advance count) where
  calm machine := by
    rcases Nat.lt_or_ge machine.code.size (machine.pc + count) with outside | inside
    · rw [outcome_advance_of_lt outside]
      exact .refl machine
    · rw [outcome_advance inside]
      exact .withPc (Nat.le_trans inside (Nat.le_max_left _ _))
  stack := by
    intro machine after result ends
    rcases Nat.lt_or_ge machine.code.size (machine.pc + count) with outside | inside
    · rw [outcome_advance_of_lt outside] at ends
      cases ends
    · rw [outcome_advance inside] at ends
      cases ends
      exact .refl _

/-- A fetched number is one that stands in the code. -/
theorem eq_of_outcome_fetch
    {machine after : Machine}
    {count value : Nat}
    (ends : machine.outcome (fetch count) = (.ok value, after)) :
    machine.pc + count ≤ machine.code.size ∧
      value = codeNumber machine.code count machine.pc ∧
      after = machine.skip count := by
  rcases Nat.lt_or_ge machine.code.size (machine.pc + count) with outside | inside
  · rw [outcome_fetch_of_lt outside] at ends
    cases ends
  · rw [outcome_fetch inside] at ends
    cases ends
    exact ⟨inside, rfl, rfl⟩

/-- A fetched address of code lies within reach. -/
theorem gives_fetch_three : Gives (fetch 3) (· < 0x1000000) := by
  intro machine after value ends
  obtain ⟨-, rfl, -⟩ := eq_of_outcome_fetch ends
  exact codeNumber_lt machine.code 3 machine.pc

/-- Fetching an operand has no effect on the stack. -/
theorem effect_fetch (count : Nat) : Effect 0 0 (fetch count) :=
  (effect_advance count).bind fun _ => effect_get.bind fun _ => .ofPure _

theorem effect_fetchWord : Effect 0 0 fetchWord :=
  (effect_fetch 2).bind fun _ => .ofPure _

theorem effect_fetchSigned16 : Effect 0 0 fetchSigned16 :=
  (effect_fetch 2).bind fun _ => .ofPure _

theorem effect_fetchBytes (count : Nat) : Effect 0 0 (fetchBytes count) :=
  (effect_advance count).bind fun _ => effect_get.bind fun _ => .ofPure _

theorem effect_frameBase : Effect 0 0 frameBase := by
  refine effect_get.bind fun machine => ?_
  cases machine.frameBase? with
  | some base => exact .ofPure base
  | none => exact .ofThrow _ 0 0

end Primitives

end Machine

end Handheld
