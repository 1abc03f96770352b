import Handheld.Proofs.Machine.BuiltinEffect

namespace Handheld

/-!
# Effects of the general instructions

Four general instructions are not calm: setting the frame base, entering and
leaving a frame move the frame pointers, and a string literal moves the place of
the next one. Their outcomes are given in full. All other instructions have an
effect, as the built-in functions have.
-/

/-- The instructions that move the frame pointers. -/
def Instruction.movesFrames : Instruction → Bool
  | .setFrameBase | .enter | .leave => true
  | _ => false

/-- How many values a general instruction takes. -/
def Instruction.demand : Instruction → Demand
  | .enter => .asOperand
  | .load .indexed _ | .load .frameIndexed _ | .pointerIndexed _ | .pointerFrameIndexed _
  | .addressIndexed | .addressFrameIndexed | .negate | .stepPointer _ | .complement
  | .logicalNot | .loadByte | .bytePointer | .pop | .operateImmediate _ => .exactly 1
  | .operate _ | .store => .exactly 2
  | _ => .exactly 0

/-- An instruction that moves no frames takes a fixed number of values. -/
theorem Instruction.demand_eq_exactly
    {instruction : Instruction}
    (still : instruction.movesFrames = false) :
    ∃ count, instruction.demand = .exactly count := by
  cases instruction with
  | enter => cases still
  | load addressing width => cases addressing <;> exact ⟨_, rfl⟩
  | _ => exact ⟨_, rfl⟩

/-- How many values a general instruction gives. -/
def Instruction.yield : Instruction → Nat
  | .nothing | .loadAll | .pop | .jumpIfZero | .jumpIfNonzero | .jump | .setFrameBase
  | .call | .enter | .leave | .halt | .initData | .setXorFactor => 0
  | _ => 1

namespace Machine

section Calm

/-- An indexed address consumes its index. -/
theorem effect_indexedAddress : Effect 1 0 indexedAddress := by
  refine effect_pop.bind fun index => ?_
  exact effect_fetchWord.bind fun offset => .ofPure _

/-- An indexed address in the frame consumes its index. -/
theorem effect_frameIndexedAddress : Effect 1 0 frameIndexedAddress := by
  refine effect_fetchWord.bind fun offset => ?_
  refine effect_pop.bind fun index => ?_
  exact effect_frameBase.bind fun base => .ofPure _

/-- A pointer is pushed as one value. -/
theorem effect_pushPointer
    (address : Nat)
    (width : Width) :
    Effect 0 1 (pushPointer address width) :=
  effect_push _

/-- A pointer is popped as one value. -/
theorem effect_popPointer : Effect 1 0 popPointer := by
  refine effect_pop.bind fun raw => ?_
  refine (effect_check _).bind fun pointer => ?_
  refine effect_get.bind fun machine => ?_
  exact (effect_check _).bind fun address => .ofPure _

/-- A pointer that is stepped is consumed, and the value before or after it is produced. -/
theorem effect_stepPointer (stepping : Stepping) : Effect 1 1 (stepPointer stepping) := by
  refine effect_popPointer.bind fun (pointer, address) => ?_
  refine (effect_inRam _).bind fun value => ?_
  exact (effect_push _).followedBy fun _ => effect_onRam _

/-- A jump to an address of code. -/
theorem effect_jumpTo
    {target : Nat}
    (near : target < 0x1000000) :
    Effect 0 0 (modify fun machine => { machine with pc := target } : Action Unit) := by
  refine .ofModify (fun machine => .withPc ?_) fun _ => rfl
  exact Nat.le_trans (Nat.le_of_lt_succ near) (Nat.le_max_right _ _)

/-- A jump looks at the value last popped and consumes none. -/
theorem effect_jumpWhen (test : Word → Bool) : Effect 0 0 (jumpWhen test) := by
  refine (effect_fetch 3).bindWhere gives_fetch_three fun target near => ?_
  refine effect_get.bind fun machine => ?_
  refine (effect_check _).bind fun value => ?_
  exact .ofIte (effect_jumpTo near) (.ofPure ())

/-- A load produces a value and consumes the index if its addressing has one. -/
theorem effect_load
    (addressing : Addressing)
    (width : Width) :
    Effect (match addressing with | .indexed | .frameIndexed => 1 | _ => 0) 1
      (execute (.load addressing width)) := by
  have pushed (address : Nat) : Effect 0 1 (do
      push (← inRam (width.load · address))) :=
    (effect_inRam _).bind fun value => effect_push value
  cases addressing with
  | absolute => exact (effect_fetch 2).bind pushed
  | indexed => exact effect_indexedAddress.bind pushed
  | frame =>
      have address : Effect 0 0 (loadAddress .frame) :=
        (effect_fetch 2).bind fun offset => effect_frameBase.bind fun base => .ofPure _
      exact address.bind pushed
  | frameIndexed => exact effect_frameIndexedAddress.bind pushed

theorem effect_callInstruction : Effect 0 0 (execute .call) := by
  refine (effect_fetch 3).bindWhere gives_fetch_three fun target near => ?_
  refine effect_get.bind fun machine => ?_
  cases machine.frames with
  | none => exact .ofThrow _ 0 0
  | some frames =>
      refine effect_get.bind fun machine => ?_
      exact (effect_onRam _).bind fun _ => effect_jumpTo near

theorem effect_initData : Effect 0 0 (execute .initData) := by
  refine (effect_fetch 2).bind fun address => ?_
  refine (effect_fetch 2).bind fun length => ?_
  exact (effect_fetchBytes length).bind fun bytes => effect_onRam _

/-- A store consumes the pointer and the value and gives the value back. -/
theorem effect_storeInstruction : Effect 2 1 (execute .store) := by
  refine effect_pop.bind fun value => ?_
  refine effect_popPointer.bind fun (pointer, address) => ?_
  exact (effect_onRam _).bind fun _ => effect_push value

/-- An operator replaces its two operands by the result. -/
theorem effect_operate (operator : Operator) : Effect 2 1 (execute (.operate operator)) := by
  refine effect_pop.bind fun right => ?_
  refine effect_pop.bind fun left => ?_
  exact (effect_check _).bind fun result => effect_push result

/-- An operator with an operand in the code replaces the other one. -/
theorem effect_operateImmediate (operator : ImmediateOperator) :
    Effect 1 1 (execute (.operateImmediate operator)) := by
  refine effect_fetchSigned16.bind fun right => ?_
  refine effect_pop.bind fun left => ?_
  exact (effect_check _).bind fun result => effect_push result

/-- Every instruction that moves neither frames nor literals exchanges a fixed number of values. -/
theorem effect_execute :
    ∀ {count : Nat} (instruction : Instruction),
      instruction.movesFrames = false →
      instruction ≠ .pushLiteral →
      instruction.demand = .exactly count →
      Effect count instruction.yield (execute instruction)
  | _, .nothing, _, _, rfl => .ofPure ()
  | _, .loadAll, _, _, rfl => .ofPure ()
  | _, .pushImmediate .byte, _, _, rfl => (effect_fetch 1).bind fun _ => effect_push _
  | _, .pushImmediate .half, _, _, rfl => effect_fetchSigned16.bind fun _ => effect_push _
  | _, .pushImmediate .full, _, _, rfl => (effect_fetch 4).bind fun _ => effect_push _
  | _, .load .absolute width, _, _, rfl => effect_load .absolute width
  | _, .load .indexed width, _, _, rfl => effect_load .indexed width
  | _, .load .frame width, _, _, rfl => effect_load .frame width
  | _, .load .frameIndexed width, _, _, rfl => effect_load .frameIndexed width
  | _, .pointerIndexed width, _, _, rfl =>
      effect_indexedAddress.bind fun address => effect_pushPointer address width
  | _, .pointerFrameIndexed width, _, _, rfl =>
      effect_frameIndexedAddress.bind fun address => effect_pushPointer address width
  | _, .addressIndexed, _, _, rfl =>
      effect_fetchWord.bind fun _ => effect_pop.bind fun _ => effect_push _
  | _, .addressFrameIndexed, _, _, rfl =>
      effect_frameIndexedAddress.bind fun _ => effect_push _
  | _, .addressFrame, _, _, rfl =>
      effect_fetchWord.bind fun _ => effect_frameBase.bind fun _ => effect_push _
  | _, .pushArea _, _, _, rfl => effect_push _
  | _, .negate, _, _, rfl => effect_pop.bind fun _ => effect_push _
  | _, .complement, _, _, rfl => effect_pop.bind fun _ => effect_push _
  | _, .logicalNot, _, _, rfl => effect_pop.bind fun _ => effect_pushBool _
  | _, .stepPointer stepping, _, _, rfl => effect_stepPointer stepping
  | _, .operate operator, _, _, rfl => effect_operate operator
  | _, .operateImmediate operator, _, _, rfl => effect_operateImmediate operator
  | _, .store, _, _, rfl => effect_storeInstruction
  | _, .loadByte, _, _, rfl =>
      effect_popAddress.bind fun _ => (effect_inRam _).bind fun value => effect_push value
  | _, .bytePointer, _, _, rfl =>
      effect_popAddress.bind fun address => effect_pushPointer address .byte
  | _, .pop, _, _, rfl => effect_pop.bind fun _ => .ofPure ()
  | _, .jumpIfZero, _, _, rfl => effect_jumpWhen _
  | _, .jumpIfNonzero, _, _, rfl => effect_jumpWhen _
  | _, .jump, _, _, rfl =>
      (effect_fetch 3).bindWhere gives_fetch_three fun _ near => effect_jumpTo near
  | _, .call, _, _, rfl => effect_callInstruction
  | _, .halt, _, _, rfl => .ofModify (fun _ => ⟨rfl, rfl, rfl, rfl, .inl rfl⟩) fun _ => rfl
  | _, .initData, _, _, rfl => effect_initData
  | _, .setXorFactor, _, _, rfl =>
      (effect_fetch 1).bind fun _ =>
        .ofModify (fun _ => ⟨rfl, rfl, rfl, rfl, .inl rfl⟩) fun _ => rfl

end Calm

section Frames

/-- Frame pointers that all name one address. -/
def framesAt (base : Nat) : Frames :=
  { base := base, finish := base, initial := base }

/-- A frame base that is there is set. -/
theorem outcome_setFrameBase
    {machine : Machine}
    (inside : machine.pc + 2 ≤ machine.code.size) :
    machine.outcome (execute .setFrameBase) =
      (.ok (), { machine.skip 2 with
        frames := some (framesAt (codeNumber machine.code 2 machine.pc)) }) := by
  unfold execute
  rw [outcome_bind_of_ok (outcome_fetch inside), outcome_modify]
  rfl

/-- A frame base that is set was there. -/
theorem eq_of_outcome_setFrameBase
    {machine after : Machine}
    (ends : machine.outcome (execute .setFrameBase) = (.ok (), after)) :
    machine.pc + 2 ≤ machine.code.size ∧
      after = { machine.skip 2 with
        frames := some (framesAt (codeNumber machine.code 2 machine.pc)) } := by
  obtain ⟨base, fetched, fetchEnds, -⟩ := outcome_bind_eq_ok.mp ends
  obtain ⟨inside, -, -⟩ := eq_of_outcome_fetch fetchEnds
  rw [outcome_setFrameBase inside] at ends
  cases ends
  exact ⟨inside, rfl⟩

/-- A call that goes ahead leaves the address behind it where the next frame starts. -/
theorem eq_of_outcome_call
    {machine after : Machine}
    (ends : machine.outcome (execute .call) = (.ok (), after)) :
    ∃ frames,
      machine.pc + 3 ≤ machine.code.size ∧
        machine.frames = some frames ∧
        after = { machine.skip 3 with
          device := { machine.device with
            ram := machine.ram.setNumber 3 frames.finish (machine.pc + 3) }
          pc := codeNumber machine.code 3 machine.pc } := by
  obtain ⟨target, fetched, fetchEnds, callEnds⟩ := outcome_bind_eq_ok.mp ends
  obtain ⟨inside, rfl, rfl⟩ := eq_of_outcome_fetch fetchEnds
  rcases current : machine.frames with _ | frames
  · have absent : (machine.skip 3).frames = none := current
    rw [outcome_bind_of_ok (outcome_get _), absent] at callEnds
    cases callEnds
  · have present : (machine.skip 3).frames = some frames := current
    rw [outcome_bind_of_ok (outcome_get _), present] at callEnds
    cases callEnds
    exact ⟨frames, inside, rfl, rfl⟩

/-- The machine with a new frame, whose header names the base of the caller. -/
def openFrame
    (machine : Machine)
    (frames : Frames)
    (size : Nat) :
    Machine :=
  { machine with
    device := { machine.device with
      ram := machine.ram.setNumber 2 (frames.finish + 3) frames.base }
    frames := some { frames with base := frames.finish, finish := frames.finish + size } }

/-- The machine with values from its stack stored as the arguments of a frame. -/
def passArguments
    (machine : Machine)
    (base : Nat)
    (values : List Word)
    (rest : DataStack) :
    Machine :=
  { machine with
    device := { machine.device with
      ram := storeWords machine.ram (base + frameHeaderSize) values }
    stack := rest }

/--
A frame is opened before anything can go wrong; then it may turn out to be too
large, or the arguments to be missing.
-/
theorem outcome_enterFrame
    {machine : Machine}
    {frames : Frames}
    (current : machine.frames = some frames)
    (size arguments : Nat) :
    machine.outcome (enterFrame size arguments) =
      if frameRegion + frameRegionSize < frames.finish + size then
        (.error (.frameOverflow frames.finish), machine.openFrame frames size)
      else
        match machine.stack.take arguments with
        | .error fault =>
            (.error fault, machine.openFrame frames size)
        | .ok (values, rest) =>
            (.ok (),
              (machine.openFrame frames size).passArguments frames.finish values.toList rest) := by
  unfold enterFrame
  rw [outcome_bind_of_ok (outcome_get machine), current]
  dsimp only
  rw [outcome_bind_of_ok (outcome_onRam _ _), outcome_bind_of_ok (outcome_modify _ _)]
  split
  · rfl
  · change (machine.openFrame frames size).outcome (do
      let values ← take arguments
      onRam (storeWords · (frames.finish + frameHeaderSize) values.toList)) = _
    have sameStack : (machine.openFrame frames size).stack = machine.stack := rfl
    rcases taken : machine.stack.take arguments with fault | ⟨values, rest⟩
    · rw [← sameStack] at taken
      rw [outcome_bind_of_error (outcome_take_of_error taken)]
    · rw [← sameStack] at taken
      rw [outcome_bind_of_ok (outcome_take taken)]
      rfl

/-- Without frames none is entered. -/
theorem outcome_enterFrame_of_none
    {machine : Machine}
    (absent : machine.frames = none)
    (size arguments : Nat) :
    machine.outcome (enterFrame size arguments) = (.error .noFrame, machine) := by
  unfold enterFrame
  rw [outcome_bind_of_ok (outcome_get machine), absent]
  rfl

/-- A frame that is entered fits, and its arguments were on the stack. -/
theorem eq_of_outcome_enter
    {machine after : Machine}
    (ends : machine.outcome (execute .enter) = (.ok (), after)) :
    ∃ frames rest,
      ∃ values : Vector Word (codeNumber machine.code 1 (machine.pc + 2)),
        machine.pc + 3 ≤ machine.code.size ∧
          machine.frames = some frames ∧
          frames.finish + codeNumber machine.code 2 machine.pc ≤ frameRegion + frameRegionSize ∧
          machine.stack.take (codeNumber machine.code 1 (machine.pc + 2)) = .ok (values, rest) ∧
          after =
            ((machine.skip 3).openFrame frames
                (codeNumber machine.code 2 machine.pc)).passArguments
              frames.finish values.toList rest := by
  obtain ⟨size, sized, sizeEnds, argumentsEnd⟩ := outcome_bind_eq_ok.mp ends
  obtain ⟨-, rfl, rfl⟩ := eq_of_outcome_fetch sizeEnds
  obtain ⟨arguments, counted, countEnds, enterEnds⟩ := outcome_bind_eq_ok.mp argumentsEnd
  obtain ⟨inside, rfl, rfl⟩ := eq_of_outcome_fetch countEnds
  rcases current : machine.frames with _ | frames
  · have absent : ((machine.skip 2).skip 1).frames = none := current
    rw [outcome_enterFrame_of_none absent] at enterEnds
    cases enterEnds
  · have present : ((machine.skip 2).skip 1).frames = some frames := current
    rw [outcome_enterFrame present] at enterEnds
    split at enterEnds
    · cases enterEnds
    · rename_i fits
      split at enterEnds
      · cases enterEnds
      · rename_i values rest taken
        cases enterEnds
        exact ⟨frames, rest, values, inside, rfl, Nat.le_of_not_lt fits, taken, rfl⟩

/-- Leaving a frame goes by its header. -/
theorem outcome_leaveFrame
    {machine : Machine}
    {frames : Frames}
    (current : machine.frames = some frames) :
    machine.outcome leaveFrame =
      (.ok (), { machine with
        pc := machine.ram.number 3 frames.base
        frames := some { frames with
          base := machine.ram.number 2 (frames.base + 3)
          finish := frames.base } }) := by
  unfold leaveFrame
  rw [outcome_bind_of_ok (outcome_get machine), current]
  rfl

/-- Without frames none is left. -/
theorem outcome_leaveFrame_of_none
    {machine : Machine}
    (absent : machine.frames = none) :
    machine.outcome leaveFrame = (.error .noFrame, machine) := by
  unfold leaveFrame
  rw [outcome_bind_of_ok (outcome_get machine), absent]
  rfl

/-- A frame that is left was there. -/
theorem eq_of_outcome_leave
    {machine after : Machine}
    (ends : machine.outcome (execute .leave) = (.ok (), after)) :
    ∃ frames,
      machine.frames = some frames ∧
        after = { machine with
          pc := machine.ram.number 3 frames.base
          frames := some { frames with
            base := machine.ram.number 2 (frames.base + 3)
            finish := frames.base } } := by
  rcases current : machine.frames with _ | frames
  · have refused := outcome_leaveFrame_of_none current
    rw [show execute .leave = leaveFrame from rfl, refused] at ends
    cases ends
  · have left := outcome_leaveFrame current
    rw [show execute .leave = leaveFrame from rfl, left] at ends
    cases ends
    exact ⟨frames, rfl, rfl⟩

end Frames

section Literals

/-- Where the literal after one that ends at `stop` goes. -/
def nextLiteral (stop : Nat) : Nat :=
  if stringRegionTurn ≤ stop then stringRegion else stop

/-- The machine with bytes of a literal read and stored. -/
def storeLiteral
    (machine : Machine)
    (stack : DataStack)
    (text : List UInt8)
    (next : Nat) :
    Machine :=
  { machine with
    device := { machine.device with
      ram := machine.ram.write machine.stringPointer text }
    pc := machine.pc + text.length
    stack := stack
    stringPointer := next }

/-- A literal is stored up to its NUL, or up to the end of the code. -/
theorem outcome_pushLiteral
    {machine : Machine}
    {stack : DataStack}
    (pushed : machine.stack.push (Word.ofBits machine.stringPointer) = .ok stack) :
    machine.outcome pushLiteral =
      match literalBytes machine.code machine.xorFactor machine.pc #[] with
      | (found, true) =>
          (.ok (), machine.storeLiteral stack (found.toList ++ [0])
            (nextLiteral (machine.stringPointer + (found.size + 1))))
      | (found, false) =>
          (.error (.codeOutOfBounds (machine.pc + found.size)),
            machine.storeLiteral stack found.toList (machine.stringPointer + found.size)) := by
  unfold pushLiteral
  rw [outcome_bind_of_ok (outcome_get machine), outcome_bind_of_ok (outcome_push pushed),
    outcome_bind_of_ok (outcome_get _)]
  dsimp only
  rcases literalBytes machine.code machine.xorFactor machine.pc #[] with ⟨found, ended⟩
  dsimp only
  rw [outcome_bind_of_ok (outcome_onRam _ _), outcome_bind_of_ok (outcome_modify _ _)]
  cases ended with
  | false => simp [storeLiteral, ram]
  | true =>
      by_cases turn : stringRegionTurn ≤ machine.stringPointer + (found.size + 1)
      · simp [storeLiteral, nextLiteral, ram, turn]
      · simp [storeLiteral, nextLiteral, ram, turn]

/-- A literal whose address the stack refuses is not read. -/
theorem outcome_pushLiteral_of_error
    {machine : Machine}
    {fault : Fault}
    (refused : machine.stack.push (Word.ofBits machine.stringPointer) = .error fault) :
    machine.outcome pushLiteral = (.error fault, machine) := by
  unfold pushLiteral
  rw [outcome_bind_of_ok (outcome_get machine),
    outcome_bind_of_error (outcome_push_of_error refused)]

/-- A literal that is pushed has a NUL, and the stack had room for its address. -/
theorem eq_of_outcome_pushLiteral
    {machine after : Machine}
    (ends : machine.outcome pushLiteral = (.ok (), after)) :
    ∃ stack found,
      machine.stack.push (Word.ofBits machine.stringPointer) = .ok stack ∧
        literalBytes machine.code machine.xorFactor machine.pc #[] = (found, true) ∧
        after = machine.storeLiteral stack (found.toList ++ [0])
          (nextLiteral (machine.stringPointer + (found.size + 1))) := by
  rcases pushed : machine.stack.push (Word.ofBits machine.stringPointer) with fault | stack
  · rw [outcome_pushLiteral_of_error pushed] at ends
    cases ends
  · rw [outcome_pushLiteral pushed] at ends
    rcases read : literalBytes machine.code machine.xorFactor machine.pc #[] with ⟨found, ended⟩
    rw [read] at ends
    cases ended with
    | false => cases ends
    | true =>
        cases ends
        exact ⟨stack, found, rfl, rfl, rfl⟩

end Literals

/-- Every instruction that moves neither frames nor literals is calm. -/
theorem calm_execute
    {instruction : Instruction}
    (still : instruction.movesFrames = false)
    (other : instruction ≠ .pushLiteral) :
    Calm (execute instruction) := by
  obtain ⟨count, demand⟩ := Instruction.demand_eq_exactly still
  exact (effect_execute instruction still other demand).calm

end Machine

end Handheld
