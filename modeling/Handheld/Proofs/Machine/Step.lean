import Handheld.Proofs.Machine.InstructionEffect

namespace Handheld

/-!
# Steps

A step of a running machine carries out the opcode at its program counter. What
a step can do is therefore what the opcodes can do, and this module states it
for all of them: what no opcode ever changes, what most of them leave alone,
and what each does to the stack.
-/

namespace Opcode

/-- What an opcode does after its byte has been fetched. -/
def action : Opcode → Action Unit
  | .general instruction => Machine.execute instruction
  | .builtin function => Machine.call function

/-- How many values an opcode takes from the stack. -/
def demand : Opcode → Demand
  | .general instruction => instruction.demand
  | .builtin function => function.demand

/-- How many values an opcode puts on the stack. -/
def yield : Opcode → Nat
  | .general instruction => instruction.yield
  | .builtin function => function.yield

/-- The opcodes that move the frame pointers. -/
def movesFrames : Opcode → Bool
  | .general instruction => instruction.movesFrames
  | .builtin _ => false

end Opcode

namespace Machine

/-- What no opcode changes, whether or not it meets a fault. -/
structure Stable (before after : Machine) : Prop where
  code : after.code = before.code
  capacity : after.stack.capacity = before.stack.capacity

/-- What is stable twice is stable. -/
theorem Stable.trans
    {before middle after : Machine}
    (earlier : Stable before middle)
    (later : Stable middle after) :
    Stable before after :=
  ⟨later.code.trans earlier.code, later.capacity.trans earlier.capacity⟩

/-- What leaves frames alone leaves the code and the size of the stack alone, too. -/
theorem Calm.stable
    {action : Action α}
    (calm : Calm action) :
    Moves Stable action := by
  intro machine
  exact ⟨(calm machine).code, (calm machine).capacity⟩

/-- A literal is read from the code without changing it. -/
theorem stable_pushLiteral : Moves Stable pushLiteral := by
  intro machine
  rcases pushed : machine.stack.push (Word.ofBits machine.stringPointer) with fault | stack
  · rw [outcome_pushLiteral_of_error pushed]
    exact ⟨rfl, rfl⟩
  · have capacity := DataStack.capacity_push pushed
    rw [outcome_pushLiteral pushed]
    rcases literalBytes machine.code machine.xorFactor machine.pc #[] with ⟨found, _ | _⟩
    · exact ⟨rfl, capacity⟩
    · exact ⟨rfl, capacity⟩

/-- Entering a frame leaves the code and the size of the stack alone. -/
theorem stable_enterFrame (size arguments : Nat) : Moves Stable (enterFrame size arguments) := by
  intro machine
  rcases current : machine.frames with _ | frames
  · rw [outcome_enterFrame_of_none current]
    exact ⟨rfl, rfl⟩
  · rw [outcome_enterFrame current]
    split
    · exact ⟨rfl, rfl⟩
    · split
      · exact ⟨rfl, rfl⟩
      · rename_i taken
        exact ⟨rfl, DataStack.capacity_take taken⟩

/-- Leaving a frame leaves the code and the size of the stack alone. -/
theorem stable_leaveFrame : Moves Stable leaveFrame := by
  intro machine
  rcases current : machine.frames with _ | frames
  · rw [outcome_leaveFrame_of_none current]
    exact ⟨rfl, rfl⟩
  · rw [outcome_leaveFrame current]
    exact ⟨rfl, rfl⟩

/-- No instruction changes the code or the size of the stack. -/
theorem stable_execute (instruction : Instruction) : Moves Stable (execute instruction) := by
  by_cases literal : instruction = .pushLiteral
  · subst literal
    exact stable_pushLiteral
  rcases moves : instruction.movesFrames with _ | _
  · exact (calm_execute moves literal).stable
  · cases instruction with
    | setFrameBase =>
        refine Moves.bind Stable.trans (effect_fetch 2).calm.stable fun base => ?_
        intro machine
        exact ⟨rfl, rfl⟩
    | enter =>
        refine Moves.bind Stable.trans (effect_fetch 2).calm.stable fun size => ?_
        refine Moves.bind Stable.trans (effect_fetch 1).calm.stable fun arguments => ?_
        exact stable_enterFrame size arguments
    | leave => exact stable_leaveFrame
    | _ => cases moves

/-- No opcode changes the code or the size of the stack. -/
theorem stable_action (opcode : Opcode) : Moves Stable opcode.action := by
  cases opcode with
  | general instruction => exact stable_execute instruction
  | builtin function => exact (calm_call function).stable

/-- An opcode that does not move the frame pointers leaves them as they are. -/
theorem frames_of_outcome
    {machine after : Machine}
    {opcode : Opcode}
    (still : opcode.movesFrames = false)
    (ends : machine.outcome opcode.action = (.ok (), after)) :
    after.frames = machine.frames := by
  cases opcode with
  | builtin function => exact ((calm_call function).of_outcome ends).frames
  | general instruction =>
      by_cases literal : instruction = .pushLiteral
      · subst literal
        obtain ⟨stack, found, -, -, rfl⟩ := eq_of_outcome_pushLiteral ends
        rfl
      · exact ((calm_execute still literal).of_outcome ends).frames

/-- The opcode at the program counter, unless there is none. -/
def opcode? (machine : Machine) : Option Opcode :=
  machine.code[machine.pc]?.bind Opcode.ofByte?

/-- What a step reports when an action has ended: a fault ends the program. -/
def conclude : Except Fault Unit × Machine → Except Fault Bool × Machine
  | (.ok (), after) => (.ok after.finished, after)
  | (.error fault, after) => (.error fault, { after with finished := true })

/-- A running machine steps by executing one instruction. -/
theorem step_eq_conclude
    {machine : Machine}
    (running : machine.finished = false) :
    machine.step = conclude (machine.outcome instruct) := by
  unfold step outcome
  rw [running]
  rcases instruct.run.run machine with ⟨value | value, after⟩
  · rfl
  · rfl

/-- A number of one byte is that byte. -/
theorem ofNat_codeNumber_one
    {code : Array UInt8}
    {index : Nat}
    {byte : UInt8}
    (here : code[index]? = some byte) :
    UInt8.ofNat (codeNumber code 1 index) = byte := by
  simp [codeNumber, Array.getD_eq_getD_getElem?, here]

/-- A running machine carries out the opcode at its program counter. -/
theorem step_of_opcode
    {machine : Machine}
    {opcode : Opcode}
    (running : machine.finished = false)
    (current : machine.opcode? = some opcode) :
    machine.step = conclude ((machine.skip 1).outcome opcode.action) := by
  obtain ⟨byte, here, known⟩ := Option.bind_eq_some_iff.mp current
  obtain ⟨inside, -⟩ := Array.getElem?_eq_some_iff.mp here
  rw [step_eq_conclude running]
  unfold instruct
  rw [outcome_bind_of_ok (outcome_get machine), outcome_bind_of_ok (outcome_fetch inside)]
  dsimp only
  rw [ofNat_codeNumber_one here, known]
  cases opcode with
  | general instruction => rfl
  | builtin function => rfl

/-- An opcode that ends without a fault and does not stop the machine is a step. -/
theorem step_eq_ok
    {machine after : Machine}
    {opcode : Opcode}
    (running : machine.finished = false)
    (current : machine.opcode? = some opcode)
    (ends : (machine.skip 1).outcome opcode.action = (.ok (), after))
    (goesOn : after.finished = false) :
    machine.step = (.ok false, after) := by
  rw [step_of_opcode running current, ends, conclude, goesOn]

/-- Without an opcode the program ends, and nothing else changes. -/
theorem step_of_no_opcode
    {machine : Machine}
    (running : machine.finished = false)
    (unknown : machine.opcode? = none) :
    ∃ fault pc,
      machine.step = (.error fault, { machine with pc := pc, finished := true }) := by
  rw [step_eq_conclude running]
  unfold instruct
  rw [outcome_bind_of_ok (outcome_get machine)]
  rcases here : machine.code[machine.pc]? with _ | byte
  · have outside : machine.code.size < machine.pc + 1 :=
      Nat.lt_succ_of_le (Array.getElem?_eq_none_iff.mp here)
    rw [outcome_bind_of_error (outcome_fetch_of_lt outside)]
    exact ⟨_, machine.pc, rfl⟩
  · obtain ⟨inside, -⟩ := Array.getElem?_eq_some_iff.mp here
    have illegal : Opcode.ofByte? byte = none := by
      simpa [opcode?, here] using unknown
    rw [outcome_bind_of_ok (outcome_fetch inside)]
    dsimp only
    rw [ofNat_codeNumber_one here, illegal]
    exact ⟨_, machine.pc + 1, rfl⟩

/-- A step without a fault is the outcome of an opcode without a fault. -/
theorem outcome_of_step
    {machine after : Machine}
    {result : Bool}
    (running : machine.finished = false)
    (stepped : machine.step = (.ok result, after)) :
    ∃ opcode,
      machine.opcode? = some opcode ∧
        (machine.skip 1).outcome opcode.action = (.ok (), after) := by
  rcases current : machine.opcode? with _ | opcode
  · obtain ⟨fault, pc, ends⟩ := step_of_no_opcode running current
    rw [ends] at stepped
    cases stepped
  · refine ⟨opcode, rfl, ?_⟩
    rw [step_of_opcode running current] at stepped
    rcases ends : (machine.skip 1).outcome opcode.action with ⟨value | value, final⟩
    · rw [ends] at stepped
      cases stepped
    · rw [ends] at stepped
      cases stepped
      rfl

/-- No step changes the code or the size of the stack. -/
theorem stable_of_step
    {machine after : Machine}
    {result : Bool}
    (running : machine.finished = false)
    (stepped : machine.step = (.ok result, after)) :
    Stable machine after := by
  obtain ⟨opcode, -, ends⟩ := outcome_of_step running stepped
  have stable := (stable_action opcode).of_outcome ends
  exact ⟨stable.code, stable.capacity⟩

/-- The machine after some steps. -/
def afterSteps
    (machine : Machine) :
    Nat → Machine
  | 0 => machine
  | steps + 1 => (machine.afterSteps steps).step.2

/-- Steps are counted from the first. -/
theorem afterSteps_step
    (machine : Machine)
    (steps : Nat) :
    machine.step.2.afterSteps steps = machine.afterSteps (steps + 1) := by
  induction steps with
  | zero => rfl
  | succ earlier inductionHypothesis =>
      change (machine.step.2.afterSteps earlier).step.2 = (machine.afterSteps (earlier + 1)).step.2
      rw [inductionHypothesis]

end Machine

end Handheld
