import Handheld.Proofs.Machine.Step

namespace Handheld

/-!
# The stack as a bounded list

Whatever a program does to the stack, it sees a list that never gets longer than
the stack has slots. What is beyond the list can be seen as well: the slot right
above the top keeps the deepest value of the latest removal until something is
pushed, so a conditional jump behind the removal of a single value tests that
value.
-/

/-- What can be done to the stack. -/
inductive StackCall where
  | push (value : Word)
  | pushBool (value : Bool)
  | pop
  | peek (depth : Nat)
  /-- Take several values, be their number written in the program or worked out by it. -/
  | take (count : Nat)
  | clear
  deriving DecidableEq, Repr

/-- A list of words together with what was removed from it last. -/
structure BoundedList where
  values : List Word := []
  /-- The deepest value of the latest removal, unless something was pushed or all was dropped. -/
  removed : Option Word := none
  deriving DecidableEq, Repr

namespace BoundedList

/-- Put a value at the end of a list that is shorter than `capacity`. -/
def push
    (capacity : Nat)
    (list : BoundedList)
    (value : Word) :
    Except Fault (List Word) × BoundedList :=
  if list.values.length < capacity then
    (.ok [], { values := list.values ++ [value] })
  else
    (.error .stackOverflow, list)

/-- Remove the last `count` values. -/
def take
    (list : BoundedList)
    (count : Nat) :
    Except Fault (List Word) × BoundedList :=
  let rest := list.values.length - count
  if count ≤ list.values.length then
    (.ok (list.values.drop rest), {
      values := list.values.take rest
      removed := (list.values.drop rest).head?.or list.removed
    })
  else
    (.error .stackUnderflow, list)

/-- The values removed are the last ones. -/
theorem take_of_append
    {list : BoundedList}
    {kept removed : List Word}
    (parts : list.values = kept ++ removed) :
    list.take removed.length =
      (.ok removed, { values := kept, removed := removed.head?.or list.removed }) := by
  unfold take
  dsimp only
  rw [parts, List.length_append, Nat.add_sub_cancel, List.drop_left, List.take_left,
    if_pos (Nat.le_add_left _ _)]

/-- A list that holds too few values gives none of them. -/
theorem take_of_lt
    {list : BoundedList}
    {count : Nat}
    (missing : list.values.length < count) :
    list.take count = (.error .stackUnderflow, list) :=
  if_neg (Nat.not_le_of_lt missing)

/-- The value `depth` places before the last one. -/
def peek
    (list : BoundedList)
    (depth : Nat) :
    Except Fault (List Word) × BoundedList :=
  match list.values.reverse[depth]? with
  | some value => (.ok [value], list)
  | none => (.error .stackUnderflow, list)

/-- What a list of at most `capacity` values answers, and what becomes of it. -/
def serve
    (capacity : Nat)
    (list : BoundedList) :
    StackCall → Except Fault (List Word) × BoundedList
  | .push value => list.push capacity value
  | .pushBool true => list.push capacity (-1)
  | .pushBool false => list.push capacity 0
  | .pop => list.take 1
  | .peek depth => list.peek depth
  | .take count => list.take count
  | .clear => (.ok [], {})

/-- The list after some calls. -/
def after
    (capacity : Nat)
    (list : BoundedList) :
    List StackCall → BoundedList
  | [] => list
  | call :: rest => (list.serve capacity call).2.after capacity rest

/-- What a list answers to some calls, each time with the values that it has then. -/
def history
    (capacity : Nat)
    (list : BoundedList) :
    List StackCall → List (Except Fault (List Word) × List Word)
  | [] => []
  | call :: rest =>
      ((list.serve capacity call).1, (list.serve capacity call).2.values) ::
        (list.serve capacity call).2.history capacity rest

end BoundedList

namespace Machine

/-- Make a call of the stack. -/
def serve : StackCall → Action (List Word)
  | .push value => do
      push value
      return []
  | .pushBool value => do
      pushBool value
      return []
  | .pop => do
      let value ← pop
      return [value]
  | .peek depth => do
      let value ← check ((← get).stack.peek depth)
      return [value]
  | .take count => do
      let values ← take count
      return values.toList
  | .clear => do
      modify fun machine => { machine with stack := machine.stack.clear }
      return []

/-- The machine after some calls of its stack. -/
def afterCalls
    (machine : Machine) :
    List StackCall → Machine
  | [] => machine
  | call :: rest => (machine.outcome (serve call)).2.afterCalls rest

/-- What the stack answers to some calls, each time with the values that it shows then. -/
def stackHistory
    (machine : Machine) :
    List StackCall → List (Except Fault (List Word) × List Word)
  | [] => []
  | call :: rest =>
      ((machine.outcome (serve call)).1, (machine.outcome (serve call)).2.stack.toList) ::
        (machine.outcome (serve call)).2.stackHistory rest

end Machine

namespace DataStack

variable
  {stack after : DataStack}
  {capacity depth count : Nat}
  {value : Word}

/-- The slot above the top keeps the value that was popped. -/
theorem lastPopped_of_pop (popped : stack.pop = .ok (value, after)) :
    after.lastPopped = .ok value := by
  unfold pop at popped
  split at popped
  case isTrue enough =>
    cases popped
    have bound := stack.top_le
    exact dif_pos (show stack.top - 1 < stack.slots.size by omega)
  case isFalse => cases popped

/-- The slot above the top keeps the deepest of the values that were taken. -/
theorem lastPopped_of_take
    {values : Vector Word count}
    (taken : stack.take count = .ok (values, after))
    (deepest : values.toList.head? = some value) :
    after.lastPopped = .ok value := by
  unfold take at taken
  split at taken
  case isTrue enough =>
    cases taken
    have bound := stack.top_le
    cases count with
    | zero =>
        rw [List.eq_nil_of_length_eq_zero Vector.length_toList] at deepest
        cases deepest
    | succ fewer =>
        have room : stack.top - (fewer + 1) < stack.slots.size := by omega
        have first : stack.slots[stack.top - (fewer + 1)] = value := by
          simpa [Vector.toList_ofFn] using deepest
        rw [← first]
        exact dif_pos room
  case isFalse => cases taken

/-- Taking no value leaves the stack as it is. -/
theorem eq_of_take_zero
    {values : Vector Word 0}
    (taken : stack.take 0 = .ok (values, after)) :
    after = stack := by
  unfold take at taken
  rw [dif_pos (Nat.zero_le _)] at taken
  cases taken
  rfl

/-- As many values as are shown can be taken. -/
theorem exists_take_of_le (enough : count ≤ stack.toList.length) :
    ∃ values after, stack.take count = .ok (values, after) := by
  rw [length_toList] at enough
  exact ⟨_, _, dif_pos enough⟩

theorem take_of_lt (missing : stack.toList.length < count) :
    stack.take count = .error .stackUnderflow := by
  rw [length_toList] at missing
  exact dif_neg (Nat.not_le_of_lt missing)

/-- Nothing can be popped from a stack that shows nothing. -/
theorem pop_of_nil (nothing : stack.toList = []) : stack.pop = .error .stackUnderflow := by
  have top : stack.top = 0 := by rw [← length_toList, nothing, List.length_nil]
  exact dif_neg (by omega)

/-- Looking below the top finds the visible values, the last one first. -/
theorem peek_of_getElem? (here : stack.toList.reverse[depth]? = some value) :
    stack.peek depth = .ok value := by
  obtain ⟨inside, found⟩ := List.getElem?_eq_some_iff.mp here
  rw [List.length_reverse, length_toList] at inside
  simp only [List.getElem_reverse, length_toList] at found
  unfold peek
  rw [dif_pos inside, ← found]
  simp only [toList, List.getElem_take, Array.getElem_toList]

/-- Below the lowest value there is nothing to look at. -/
theorem peek_of_getElem?_eq_none (nothing : stack.toList.reverse[depth]? = none) :
    stack.peek depth = .error .stackUnderflow := by
  have deep := List.getElem?_eq_none_iff.mp nothing
  rw [List.length_reverse, length_toList] at deep
  exact dif_neg (Nat.not_lt_of_le deep)

/-- A stack with so many slots stands for a list. -/
structure Shows
    (capacity : Nat)
    (stack : DataStack)
    (list : BoundedList) : Prop where
  capacity : stack.capacity = capacity
  values : stack.toList = list.values
  /-- A removed value is still in the slot above the top. -/
  removed : ∀ value ∈ list.removed, stack.lastPopped = .ok value

/-- An empty stack shows the empty list. -/
theorem shows_empty (capacity : Nat) : (empty capacity).Shows capacity {} where
  capacity := Array.size_replicate
  values := List.take_zero
  removed := nofun

end DataStack

namespace Machine

variable
  {capacity : Nat}
  {machine : Machine}
  {list : BoundedList}

/-- A call that is answered as a list answers it, and changes nothing but the stack. -/
def AnswersAs
    (capacity : Nat)
    (machine : Machine)
    (action : Action (List Word))
    (expected : Except Fault (List Word) × BoundedList) :
    Prop :=
  ∃ stack,
    machine.outcome action = (expected.1, { machine with stack := stack }) ∧
      stack.Shows capacity expected.2 ∧
      ∀ fault, expected.1 = .error fault → stack = machine.stack

/-- Pushing answers as the list does, and overflows with it. -/
theorem answersAs_push
    (shows : machine.stack.Shows capacity list)
    (value : Word) :
    machine.AnswersAs capacity (do push value; return []) (list.push capacity value) := by
  unfold BoundedList.push
  rw [← shows.values, ← shows.capacity]
  split
  case isTrue room =>
    obtain ⟨stack, pushed, values⟩ := DataStack.exists_push room value
    refine ⟨stack, ?_, ⟨DataStack.capacity_push pushed, values, nofun⟩, nofun⟩
    rw [outcome_bind_of_ok (outcome_push pushed), outcome_pure]
  case isFalse full =>
    have depth := machine.stack.length_toList_le
    have refused : machine.stack.push value = .error .stackOverflow :=
      (DataStack.push_eq_error_iff _ _ _).mpr ⟨by omega, rfl⟩
    refine ⟨machine.stack, ?_, ⟨rfl, shows.values, shows.removed⟩, fun _ _ => rfl⟩
    rw [outcome_bind_of_error (outcome_push_of_error refused)]

/-- Removing the values that are shown last leaves those below them. -/
theorem answersAs_removal
    {action : Action (List Word)}
    {stack : DataStack}
    {removed : List Word}
    (shows : machine.stack.Shows capacity list)
    (ends : machine.outcome action = (.ok removed, { machine with stack := stack }))
    (slots : stack.capacity = machine.stack.capacity)
    (parts : machine.stack.toList = stack.toList ++ removed)
    (deepest : ∀ value ∈ removed.head?, stack.lastPopped = .ok value)
    (nothing : removed = [] → stack = machine.stack) :
    machine.AnswersAs capacity action (list.take removed.length) := by
  have sameParts : list.values = stack.toList ++ removed := by rw [← shows.values, parts]
  rw [BoundedList.take_of_append sameParts]
  refine ⟨stack, ends, ⟨slots.trans shows.capacity, rfl, ?_⟩, nofun⟩
  intro value remembered
  rcases removed with _ | ⟨first, others⟩
  · rw [nothing rfl]
    exact shows.removed value remembered
  · exact deepest value remembered

/-- A call that fails as a list does, and changes nothing. -/
theorem answersAs_failure
    {action : Action (List Word)}
    {fault : Fault}
    (shows : machine.stack.Shows capacity list)
    (ends : machine.outcome action = (.error fault, machine)) :
    machine.AnswersAs capacity action (.error fault, list) :=
  ⟨machine.stack, ends, shows, fun _ _ => rfl⟩

/-- Taking values answers as the list does, and underflows with it. -/
theorem answersAs_take
    (shows : machine.stack.Shows capacity list)
    (count : Nat) :
    machine.AnswersAs capacity (serve (.take count)) (list.take count) := by
  rcases Nat.lt_or_ge machine.stack.toList.length count with missing | enough
  · rw [BoundedList.take_of_lt (by rwa [← shows.values])]
    apply answersAs_failure shows
    rw [serve, outcome_bind_of_error (outcome_take_of_error (DataStack.take_of_lt missing))]
  · obtain ⟨values, stack, taken⟩ := DataStack.exists_take_of_le enough
    have ends :
        machine.outcome (serve (.take count)) =
          (.ok values.toList, { machine with stack := stack }) := by
      rw [serve, outcome_bind_of_ok (outcome_take taken), outcome_pure]
    have nothing : values.toList = [] → stack = machine.stack := by
      intro none
      have zero : count = 0 := by rw [← values.length_toList, none, List.length_nil]
      subst zero
      exact DataStack.eq_of_take_zero taken
    have answers := answersAs_removal shows ends (DataStack.capacity_take taken)
      (DataStack.toList_take taken) (fun _ => DataStack.lastPopped_of_take taken) nothing
    rwa [Vector.length_toList] at answers

/-- Popping is taking one value. -/
theorem answersAs_pop (shows : machine.stack.Shows capacity list) :
    machine.AnswersAs capacity (serve .pop) (list.take 1) := by
  rcases List.eq_nil_or_concat machine.stack.toList with nothing | ⟨kept, value, shown⟩
  · have missing : list.values.length < 1 := by
      rw [← shows.values, nothing]
      exact Nat.zero_lt_one
    rw [BoundedList.take_of_lt missing]
    apply answersAs_failure shows
    rw [serve, outcome_bind_of_error (outcome_pop_of_error (DataStack.pop_of_nil nothing))]
  · rw [List.concat_eq_append] at shown
    obtain ⟨stack, popped, -⟩ := DataStack.exists_pop shown
    have ends : machine.outcome (serve .pop) = (.ok [value], { machine with stack := stack }) := by
      rw [serve, outcome_bind_of_ok (outcome_pop popped), outcome_pure]
    have deepest : ∀ first ∈ [value].head?, stack.lastPopped = .ok first := by
      rintro _ ⟨⟩
      exact DataStack.lastPopped_of_pop popped
    exact answersAs_removal shows ends (DataStack.capacity_pop popped) (DataStack.toList_pop popped)
      deepest nofun

/-- Looking at a value answers as the list does. -/
theorem answersAs_peek
    (shows : machine.stack.Shows capacity list)
    (depth : Nat) :
    machine.AnswersAs capacity (serve (.peek depth)) (list.peek depth) := by
  unfold BoundedList.peek
  rw [← shows.values]
  rcases here : machine.stack.toList.reverse[depth]? with _ | value
  · have refused := DataStack.peek_of_getElem?_eq_none here
    apply answersAs_failure shows
    rw [serve, outcome_bind_of_ok (outcome_get machine), refused]
    rfl
  · have found := DataStack.peek_of_getElem? here
    refine ⟨machine.stack, ?_, shows, nofun⟩
    rw [serve, outcome_bind_of_ok (outcome_get machine), found]
    rfl

/-- A stack that shows a list answers every call as the list does. -/
theorem answersAs_serve
    (shows : machine.stack.Shows capacity list)
    (call : StackCall) :
    machine.AnswersAs capacity (serve call) (list.serve capacity call) := by
  cases call with
  | push value => exact answersAs_push shows value
  | pushBool value =>
      cases value with
      | true => exact answersAs_push shows (-1)
      | false => exact answersAs_push shows 0
  | pop => exact answersAs_pop shows
  | peek depth => exact answersAs_peek shows depth
  | take count => exact answersAs_take shows count
  | clear =>
      exact ⟨machine.stack.clear, rfl,
        ⟨shows.capacity, machine.stack.toList_clear, nofun⟩, nofun⟩

/-- Some calls later the stack shows what the list has become. -/
theorem shows_afterCalls
    (shows : machine.stack.Shows capacity list)
    (calls : List StackCall) :
    (machine.afterCalls calls).stack.Shows capacity (list.after capacity calls) := by
  induction calls generalizing machine list with
  | nil => exact shows
  | cons call rest inductionHypothesis =>
      obtain ⟨stack, ends, next, -⟩ := answersAs_serve shows call
      unfold afterCalls BoundedList.after
      rw [ends]
      exact inductionHypothesis next

/-- Calls of a stack are answered as the list answers them, and leave the same values. -/
theorem stackHistory_eq
    (shows : machine.stack.Shows capacity list)
    (calls : List StackCall) :
    machine.stackHistory calls = list.history capacity calls := by
  induction calls generalizing machine list with
  | nil => rfl
  | cons call rest inductionHypothesis =>
      obtain ⟨stack, ends, next, -⟩ := answersAs_serve shows call
      unfold stackHistory BoundedList.history
      rw [ends, ← next.values]
      exact congrArg _ (inductionHypothesis next)

/-- A call of a stack that fails leaves the whole machine as it was. -/
theorem eq_of_serve_error
    {call : StackCall}
    {fault : Fault}
    {after : Machine}
    (shows : machine.stack.Shows capacity list)
    (failed : machine.outcome (serve call) = (.error fault, after)) :
    after = machine := by
  obtain ⟨stack, ends, -, kept⟩ := answersAs_serve shows call
  rw [ends] at failed
  obtain ⟨refused, same⟩ := Prod.mk.inj failed
  rw [← same, kept fault refused]

/-- A conditional jump tests the slot above the top, and goes on behind its operand otherwise. -/
theorem outcome_jumpWhen
    {value : Word}
    (inside : machine.pc + 3 ≤ machine.code.size)
    (tested : machine.stack.lastPopped = .ok value)
    (test : Word → Bool) :
    machine.outcome (jumpWhen test) =
      (.ok (), { machine with
        pc := if test value then codeNumber machine.code 3 machine.pc else machine.pc + 3 }) := by
  have testedLater : (machine.skip 3).stack.lastPopped = .ok value := tested
  unfold jumpWhen
  rw [outcome_bind_of_ok (outcome_fetch inside), outcome_bind_of_ok (outcome_get _), testedLater]
  change (machine.skip 3).outcome (if test value then _ else pure ()) = _
  split
  case isTrue => rfl
  case isFalse => rfl

/-- A conditional jump right behind a pop tests the value that was popped. -/
theorem jump_after_pop
    {kept : List Word}
    {value : Word}
    (running : machine.finished = false)
    (shown : machine.stack.toList = kept ++ [value])
    (popHere : machine.opcode? = some (.general .pop))
    (jumpNext : (machine.skip 1).opcode? = some (.general .jumpIfZero))
    (inside : machine.pc + 5 ≤ machine.code.size) :
    ∃ middle after,
      machine.step = (.ok false, middle) ∧
        middle.step = (.ok false, after) ∧
        after.pc =
          if value = 0 then codeNumber machine.code 3 (machine.pc + 2) else machine.pc + 5 := by
  obtain ⟨stack, popped, -⟩ := DataStack.exists_pop shown
  let middle := { machine.skip 1 with stack := stack }
  have popEnds : (machine.skip 1).outcome (execute .pop) = (.ok (), middle) := by
    have poppedLater : (machine.skip 1).stack.pop = .ok (value, stack) := popped
    rw [execute, outcome_bind_of_ok (outcome_pop poppedLater), outcome_pure]
  have tested : (middle.skip 1).stack.lastPopped = .ok value :=
    DataStack.lastPopped_of_pop popped
  have insideLater : (middle.skip 1).pc + 3 ≤ (middle.skip 1).code.size := inside
  have jumpEnds := outcome_jumpWhen insideLater tested (· == 0)
  refine ⟨middle, _, step_eq_ok running popHere popEnds running,
    step_eq_ok running jumpNext jumpEnds running, ?_⟩
  simp only [beq_iff_eq]
  rfl

/--
The stack is a bounded list whose removed values can still be tested.

Whatever calls are made of a new stack, in whatever order, their results and the
values that the stack shows are those of a list of at most so many values. A call
that fails changes nothing at all. As long as nothing is pushed or dropped after
a removal, the slot above the top holds the deepest of the values removed last.
Therefore a conditional jump right behind the removal of a value jumps exactly
when the value is zero.
-/
theorem stack_refines_bounded_list
    (machine : Machine)
    (capacity : Nat)
    (new : machine.stack = .empty capacity)
    (calls : List StackCall) :
    machine.stackHistory calls = BoundedList.history capacity {} calls ∧
      (∀ call fault after,
        (machine.afterCalls calls).outcome (serve call) = (.error fault, after) →
        after = machine.afterCalls calls) ∧
      (∀ value,
        (BoundedList.after capacity {} calls).removed = some value →
        (machine.afterCalls calls).stack.lastPopped = .ok value) ∧
      ∀ (running : Machine) (kept : List Word) (value : Word),
        running.finished = false →
        running.stack.toList = kept ++ [value] →
        running.opcode? = some (.general .pop) →
        (running.skip 1).opcode? = some (.general .jumpIfZero) →
        running.pc + 5 ≤ running.code.size →
        ∃ middle after,
          running.step = (.ok false, middle) ∧
            middle.step = (.ok false, after) ∧
            after.pc =
              if value = 0 then codeNumber running.code 3 (running.pc + 2)
              else running.pc + 5 := by
  have shows : machine.stack.Shows capacity {} := by
    rw [new]
    exact DataStack.shows_empty capacity
  have later := shows_afterCalls shows calls
  refine ⟨stackHistory_eq shows calls, ?_, later.removed, ?_⟩
  · intro call fault after failed
    exact eq_of_serve_error later failed
  · intro running kept value isRunning shown popHere jumpNext inside
    exact jump_after_pop isRunning shown popHere jumpNext inside

/-- A machine with three slots, about to pop a value and to jump to address 32 if it is zero. -/
def jumpingOnZero : Machine where
  device := { ram := Ram.blank }
  files := { store := { host := {}, root := [] } }
  code := #[0x38, 0x39, 0x20, 0, 0]
  pc := 0
  stack := .empty 3
  finished := false

/-- Three values fit, the fourth is refused, and the last that fits is removed again. -/
def refill : List StackCall :=
  [.push 7, .push 0, .pushBool true, .push 5, .pop]

theorem refilled_stack_tested :
    jumpingOnZero.stackHistory refill =
        [(.ok [], [7]), (.ok [], [7, 0]), (.ok [], [7, 0, -1]),
          (.error .stackOverflow, [7, 0, -1]), (.ok [-1], [7, 0])] ∧
      (jumpingOnZero.afterCalls refill).outcome (serve (.take 3)) =
        (.error .stackUnderflow, jumpingOnZero.afterCalls refill) ∧
      (jumpingOnZero.afterCalls refill).stack.lastPopped = .ok (-1) ∧
      ∃ middle after,
        (jumpingOnZero.afterCalls refill).step = (.ok false, middle) ∧
          middle.step = (.ok false, after) ∧
          after.pc = 32 := by
  obtain ⟨answers, failures, removed, jumps⟩ :=
    stack_refines_bounded_list jumpingOnZero 3 rfl refill
  refine ⟨answers, ?_, removed (-1) rfl, jumps _ [7] 0 rfl rfl rfl rfl (by decide)⟩
  rcases ends : (jumpingOnZero.afterCalls refill).outcome (serve (.take 3)) with ⟨result, after⟩
  have refused : ((jumpingOnZero.afterCalls refill).outcome (serve (.take 3))).1 =
      .error .stackUnderflow := rfl
  rw [ends] at refused
  dsimp only at refused
  subst refused
  rw [failures _ _ _ ends]

end Machine

end Handheld
