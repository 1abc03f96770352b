import Handheld.Machine.Run

namespace Handheld

/-!
# Outcomes of actions

An action started in a machine ends with a result or a fault and leaves a
machine behind. This module says what the outcome of each basic action is and
how the outcome of a sequence comes from the outcomes of its parts, so that
nothing later has to look at how actions are represented.
-/

namespace Machine

/-- How an action ends and the machine that it leaves behind. -/
def outcome
    (machine : Machine)
    (action : Action α) :
    Except Fault α × Machine :=
  action.run.run machine

/-- A sequence goes on where its first part ended, unless that met a fault. -/
theorem outcome_bind
    (machine : Machine)
    (action : Action α)
    (next : α → Action β) :
    machine.outcome (action >>= next) =
      match machine.outcome action with
      | (.ok value, after) => after.outcome (next value)
      | (.error fault, after) => (.error fault, after) := by
  unfold outcome
  rw [ExceptT.run_bind, StateT.run_bind]
  rcases action.run.run machine with ⟨value | value, middle⟩
  · rfl
  · rfl

/-- After a success, the rest runs on the value and the machine left by it. -/
theorem outcome_bind_of_ok
    {machine middle : Machine}
    {action : Action α}
    {value : α}
    (first : machine.outcome action = (.ok value, middle))
    (next : α → Action β) :
    machine.outcome (action >>= next) = middle.outcome (next value) := by
  rw [outcome_bind, first]

/-- After a fault, nothing more happens. -/
theorem outcome_bind_of_error
    {machine middle : Machine}
    {action : Action α}
    {fault : Fault}
    (first : machine.outcome action = (.error fault, middle))
    (next : α → Action β) :
    machine.outcome (action >>= next) = (.error fault, middle) := by
  rw [outcome_bind, first]

/-- A sequence gives a result exactly when both its parts do. -/
theorem outcome_bind_eq_ok
    {machine after : Machine}
    {action : Action α}
    {next : α → Action β}
    {result : β} :
    machine.outcome (action >>= next) = (.ok result, after) ↔
      ∃ value middle,
        machine.outcome action = (.ok value, middle) ∧
          middle.outcome (next value) = (.ok result, after) := by
  rcases first : machine.outcome action with ⟨value | value, middle⟩
  · rw [outcome_bind_of_error first]
    constructor
    · intro same
      cases same
    · rintro ⟨_, _, same, _⟩
      cases same
  · rw [outcome_bind_of_ok first]
    constructor
    · intro second
      exact ⟨value, middle, rfl, second⟩
    · rintro ⟨_, _, same, second⟩
      cases same
      exact second

/-- A function on the result changes the result alone. -/
@[simp] theorem outcome_map
    (machine : Machine)
    (action : Action α)
    (function : α → β) :
    machine.outcome (function <$> action) =
      ((machine.outcome action).1.map function, (machine.outcome action).2) := by
  rw [map_eq_pure_bind, outcome_bind]
  rcases machine.outcome action with ⟨value | value, middle⟩
  · rfl
  · rfl

/-- Giving a value changes nothing. -/
@[simp] theorem outcome_pure
    (machine : Machine)
    (value : α) :
    machine.outcome (pure value) = (.ok value, machine) :=
  rfl

/-- A fault changes nothing. -/
@[simp] theorem outcome_throw
    (machine : Machine)
    (fault : Fault) :
    machine.outcome (throw fault : Action α) = (.error fault, machine) :=
  rfl

/-- The machine itself can be asked for. -/
@[simp] theorem outcome_get (machine : Machine) :
    machine.outcome get = (.ok machine, machine) :=
  rfl

/-- A change of the machine always succeeds. -/
@[simp] theorem outcome_modify
    (machine : Machine)
    (change : Machine → Machine) :
    machine.outcome (modify change) = (.ok (), change machine) :=
  rfl

@[simp] theorem outcome_modifyGet
    (machine : Machine)
    (change : Machine → α × Machine) :
    machine.outcome (modifyGet change) =
      (.ok (change machine).1, (change machine).2) :=
  rfl

/-- A checked result is passed on. -/
@[simp] theorem outcome_check
    (machine : Machine)
    (result : Except Fault α) :
    machine.outcome (check result) = (result, machine) := by
  cases result <;> rfl

/-- A change of the device is one of the device alone. -/
theorem outcome_onDevice
    (machine : Machine)
    (change : Device → Device) :
    machine.outcome (onDevice change) =
      (.ok (), { machine with device := change machine.device }) :=
  rfl

/-- A change of memory is one of memory alone. -/
@[simp] theorem outcome_onRam
    (machine : Machine)
    (change : Ram → Ram) :
    machine.outcome (onRam change) =
      (.ok (), { machine with
        device := { machine.device with ram := change machine.ram } }) :=
  rfl

/-- Looking at memory changes nothing. -/
@[simp] theorem outcome_inRam
    (machine : Machine)
    (look : Ram → α) :
    machine.outcome (inRam look) = (.ok (look machine.ram), machine) :=
  rfl

/-- A push that the stack accepts changes nothing but the stack. -/
theorem outcome_push
    {machine : Machine}
    {value : Word}
    {stack : DataStack}
    (pushed : machine.stack.push value = .ok stack) :
    machine.outcome (push value) = (.ok (), { machine with stack := stack }) := by
  unfold push
  simp [outcome_bind, pushed]

/-- What a full stack refuses is a fault that changes nothing. -/
theorem outcome_push_of_error
    {machine : Machine}
    {value : Word}
    {fault : Fault}
    (refused : machine.stack.push value = .error fault) :
    machine.outcome (push value) = (.error fault, machine) := by
  unfold push
  simp [outcome_bind, refused]

/-- A popped value is taken from the stack alone. -/
theorem outcome_pop
    {machine : Machine}
    {value : Word}
    {stack : DataStack}
    (popped : machine.stack.pop = .ok (value, stack)) :
    machine.outcome pop = (.ok value, { machine with stack := stack }) := by
  unfold pop
  simp [outcome_bind, popped, Except.map]

/-- Popping from an empty stack is a fault that changes nothing. -/
theorem outcome_pop_of_error
    {machine : Machine}
    {fault : Fault}
    (refused : machine.stack.pop = .error fault) :
    machine.outcome pop = (.error fault, machine) := by
  unfold pop
  simp [outcome_bind, refused]

/-- Values that are taken come from the stack alone. -/
theorem outcome_take
    {machine : Machine}
    {count : Nat}
    {values : Vector Word count}
    {stack : DataStack}
    (taken : machine.stack.take count = .ok (values, stack)) :
    machine.outcome (take count) = (.ok values, { machine with stack := stack }) := by
  unfold take
  simp [outcome_bind, taken, Except.map]

/-- Taking too many values is a fault that changes nothing. -/
theorem outcome_take_of_error
    {machine : Machine}
    {count : Nat}
    {fault : Fault}
    (refused : machine.stack.take count = .error fault) :
    machine.outcome (take count) = (.error fault, machine) := by
  unfold take
  simp [outcome_bind, refused]

/-- Three values are given in the order in which they were pushed. -/
theorem outcome_takeThree
    {machine : Machine}
    {first second third : Word}
    {stack : DataStack}
    (taken : machine.stack.take 3 = .ok (#v[first, second, third], stack)) :
    machine.outcome takeThree =
      (.ok (first, second, third), { machine with stack := stack }) := by
  unfold takeThree
  rw [outcome_bind_of_ok (outcome_take taken)]
  rfl

/-- A popped address is the low half of the value. -/
theorem outcome_popAddress
    {machine : Machine}
    {word : Word}
    {stack : DataStack}
    (popped : machine.stack.pop = .ok (word, stack)) :
    machine.outcome popAddress = (.ok word.address, { machine with stack := stack }) := by
  rw [popAddress, outcome_bind_of_ok (outcome_pop popped), outcome_pure]

/-- Two addresses are taken from the stack, the upper one first. -/
theorem outcome_popAddresses
    {machine : Machine}
    {lower upper : Word}
    {middle stack : DataStack}
    (popped : machine.stack.pop = .ok (upper, middle))
    (poppedNext : middle.pop = .ok (lower, stack))
    (next : Nat → Nat → Action α) :
    machine.outcome (popAddress >>= fun first => popAddress >>= fun second => next first second) =
      { machine with stack := stack }.outcome (next upper.address lower.address) := by
  have second :
      { machine with stack := middle }.outcome popAddress =
        (.ok lower.address, { machine with stack := stack }) :=
    outcome_popAddress poppedNext
  rw [outcome_bind_of_ok (outcome_popAddress popped), outcome_bind_of_ok second]

/-- A range that fits passes the check. -/
theorem outcome_checkRange
    (machine : Machine)
    {address length : Nat}
    (fits : address + length ≤ Ram.capacity) :
    machine.outcome (checkRange address length) = (.ok (), machine) := by
  have inside : ¬ address + length > Ram.capacity := Nat.not_lt_of_le fits
  unfold checkRange Ram.checkRange
  rw [if_neg inside]
  rfl

/-- A string that is there is read. -/
theorem outcome_stringAt
    {machine : Machine}
    {address : Nat}
    {text : List UInt8}
    (here : machine.ram.string? address = some text) :
    machine.outcome (stringAt address) = (.ok text, machine) := by
  unfold stringAt
  rw [outcome_bind_of_ok (outcome_inRam _ _), here]
  rfl

/-- A string that fits into memory is stored with its NUL. -/
theorem outcome_storeString
    (machine : Machine)
    {dest : Nat}
    {text : List UInt8}
    (fits : dest + (text.length + 1) ≤ Ram.capacity) :
    machine.outcome (storeString dest text) =
      (.ok (), { machine with
        device := { machine.device with ram := machine.ram.writeString dest text } }) := by
  unfold storeString
  rw [outcome_bind_of_ok (outcome_checkRange machine fits), outcome_onRam]

/-- A string that does not fit, with its end, is not stored in part. -/
theorem outcome_storeString_of_lt
    (machine : Machine)
    {dest : Nat}
    {text : List UInt8}
    (tooLong : Ram.capacity < dest + (text.length + 1)) :
    machine.outcome (storeString dest text) =
      (.error (.memoryRange dest (text.length + 1)), machine) := by
  have refused :
      machine.outcome (checkRange dest (text.length + 1)) =
        (.error (.memoryRange dest (text.length + 1)), machine) := by
    rw [checkRange, outcome_check, Ram.checkRange, if_pos tooLong]
  unfold storeString
  rw [outcome_bind_of_error refused]

/-- The machine with its program counter moved over bytes of code. -/
def skip
    (machine : Machine)
    (count : Nat) :
    Machine :=
  { machine with pc := machine.pc + count }

/-- Moving on inside the code gives the place that was left. -/
theorem outcome_advance
    {machine : Machine}
    {count : Nat}
    (inside : machine.pc + count ≤ machine.code.size) :
    machine.outcome (advance count) =
      (.ok machine.pc, machine.skip count) := by
  unfold advance
  simp [outcome_bind, inside, Except.map, skip]

/-- Moving on past the code is a fault at the place where the machine stands. -/
theorem outcome_advance_of_lt
    {machine : Machine}
    {count : Nat}
    (outside : machine.code.size < machine.pc + count) :
    machine.outcome (advance count) =
      (.error (.codeOutOfBounds machine.pc), machine) := by
  have short : ¬ machine.pc + count ≤ machine.code.size := by omega
  unfold advance
  simp [outcome_bind, short]

/-- A number that is there is read and skipped. -/
theorem outcome_fetch
    {machine : Machine}
    {count : Nat}
    (inside : machine.pc + count ≤ machine.code.size) :
    machine.outcome (fetch count) =
      (.ok (codeNumber machine.code count machine.pc), machine.skip count) := by
  unfold fetch
  rw [outcome_bind_of_ok (outcome_advance inside)]
  rfl

/-- An operand that the code does not hold cannot be fetched. -/
theorem outcome_fetch_of_lt
    {machine : Machine}
    {count : Nat}
    (outside : machine.code.size < machine.pc + count) :
    machine.outcome (fetch count) =
      (.error (.codeOutOfBounds machine.pc), machine) := by
  unfold fetch
  rw [outcome_bind_of_error (outcome_advance_of_lt outside)]

end Machine

end Handheld
