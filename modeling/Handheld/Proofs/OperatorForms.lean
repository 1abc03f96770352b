import Handheld.Proofs.Addressing
import Handheld.Proofs.StraightLine

namespace Handheld

/-!
# The two forms of an operator

Thirteen operators take their right operand from the stack or from the code, by
two tables of their own and with opcodes in different orders. Pushing a number
and applying an operator to the stack ends as applying the operator to the number
in the code does, with the same values, the same memory and the same faults. The
forms differ only in shifts by a negative number.
-/

namespace ImmediateOperator

/-- The operator that takes both operands from the stack. -/
def onStack : ImmediateOperator → Operator
  | .add => .add
  | .subtract => .subtract
  | .multiply => .multiply
  | .divide => .divide
  | .remainder => .remainder
  | .shiftLeft => .shiftLeft
  | .shiftRight => .shiftRight
  | .equal => .equal
  | .notEqual => .notEqual
  | .greater => .greater
  | .less => .less
  | .greaterEqual => .greaterEqual
  | .lessEqual => .lessEqual

/-- The operators that shift. -/
def shifts : ImmediateOperator → Bool
  | .shiftLeft | .shiftRight => true
  | _ => false

/-- The bits of a word after a shift by so many places, as far as a word holds them. -/
def shiftedBits
    (operator : ImmediateOperator)
    (bits places : Nat) :
    Nat :=
  match operator with
  | .shiftLeft => bits <<< places
  | .shiftRight => bits >>> places
  | _ => bits

end ImmediateOperator

section Words

variable (word : Word)

/-- A word keeps the low bits of a number only. -/
theorem Word.ofBits_mod (bits : Nat) : Word.ofBits (bits % 0x100000000) = Word.ofBits bits := by
  rw [← Word.bits_ofBits, Word.ofBits_bits]

/-- A signed number of sixteen bits is read back from its bits. -/
theorem Word.ofSigned16_toUInt16 (value : Int16) :
    Word.ofSigned16 (value.toUInt16.toNat % 0x10000) = value.toInt32 := by
  rw [Word.ofSigned16_mod, Word.ofSigned16, UInt16.ofNat_toNat]
  rfl

/-- The places of a shift are counted around the width. -/
theorem places_mod_thirtyTwo (count : Nat) :
    (UInt32.ofNat (count % 32)).toNat % 32 = count % 32 := by
  rw [UInt32.toNat_ofNat']
  omega

/-- A word is shifted left on its bits, by the count around its width. -/
theorem Word.shiftedLeft_eq (count : Nat) :
    word.shiftedLeft count = Word.ofBits (word.bits <<< (count % 32)) := by
  have bits : (word.shiftedLeft count).bits = (word.bits <<< (count % 32)) % 0x100000000 := by
    change (word.toUInt32 <<< UInt32.ofNat (count % 32)).toNat = _
    rw [UInt32.toNat_shiftLeft, places_mod_thirtyTwo]
    rfl
  rw [← Word.ofBits_mod, ← bits, Word.ofBits_bits]

/-- A word is shifted right on its bits, by the count around its width. -/
theorem Word.shiftedRight_eq (count : Nat) :
    word.shiftedRight count = Word.ofBits (word.bits >>> (count % 32)) := by
  have bits : (word.shiftedRight count).bits = word.bits >>> (count % 32) := by
    change (word.toUInt32 >>> UInt32.ofNat (count % 32)).toNat = _
    rw [UInt32.toNat_shiftRight, places_mod_thirtyTwo]
    rfl
  rw [← bits, Word.ofBits_bits]

/-- A word that is not negative is its bits. -/
theorem Word.toNat_toInt (nonnegative : 0 ≤ word.toInt) : word.toInt.toNat = word.bits := by
  have value := word.toInt_eq_bits
  have bound : word.bits < 0x100000000 := word.toUInt32.toNat_lt
  split at value
  · omega
  · omega

/-- The places that the bits of a word count, modulo thirty-two. -/
theorem Word.bits_mod_thirtyTwo : word.bits % 32 = (word.toInt % 32).toNat := by
  have low := word.bits_emod
  omega

end Words

namespace ImmediateOperator

variable
  (operator : ImmediateOperator)
  (left right : Word)

/-- The two forms compute the same, unless they shift by a negative number. -/
theorem apply_onStack (usual : operator.shifts = true → 0 ≤ right.toInt) :
    operator.onStack.apply left right = operator.apply left right := by
  cases operator with
  | shiftLeft =>
      change Except.ok (left.shiftedLeft right.toInt.toNat) = .ok (left.shiftedLeft right.bits)
      rw [right.toNat_toInt (usual rfl)]
  | shiftRight =>
      change Except.ok (left.shiftedRight right.toInt.toNat) = .ok (left.shiftedRight right.bits)
      rw [right.toNat_toInt (usual rfl)]
  | _ => rfl

variable
  {operator right}
  (shifting : operator.shifts = true)

include shifting

/-- From the stack, a negative number shifts by nothing. -/
theorem apply_onStack_of_neg (negative : right.toInt < 0) :
    operator.onStack.apply left right = .ok left := by
  have nothing : right.toInt.toNat = 0 := Int.toNat_of_nonpos (Int.le_of_lt negative)
  cases operator with
  | shiftLeft =>
      change Except.ok (left.shiftedLeft right.toInt.toNat) = _
      rw [nothing, Word.shiftedLeft_eq, Nat.zero_mod, Nat.shiftLeft_zero, Word.ofBits_bits]
  | shiftRight =>
      change Except.ok (left.shiftedRight right.toInt.toNat) = _
      rw [nothing, Word.shiftedRight_eq, Nat.zero_mod, Nat.shiftRight_zero, Word.ofBits_bits]
  | _ => cases shifting

/-- In the code, any number shifts by what it is modulo thirty-two. -/
theorem apply_of_shifts :
    operator.apply left right =
      .ok (Word.ofBits (operator.shiftedBits left.bits (right.toInt % 32).toNat)) := by
  rw [← right.bits_mod_thirtyTwo]
  cases operator with
  | shiftLeft => exact congrArg Except.ok (left.shiftedLeft_eq right.bits)
  | shiftRight => exact congrArg Except.ok (left.shiftedRight_eq right.bits)
  | _ => cases shifting

end ImmediateOperator

namespace Machine

/-- How a step ends that puts the result of an operator on the stack, or meets its fault. -/
structure Settles
    (machine : Machine)
    (below : List Word)
    (result : Except Fault Word)
    (ended : Except Fault Bool × Machine) : Prop where
  answer : ended.1 = result.map fun _ => false
  stack : ended.2.stack.toList = below ++ result.toOption.toList
  finished : ended.2.finished = !result.toBool
  others :
    ended.2 = { machine with
      pc := ended.2.pc
      stack := ended.2.stack
      finished := ended.2.finished }

section Steps

variable
  {machine : Machine}
  {below : List Word}
  (running : machine.finished = false)

include running

/-- Behind its operands an operator pushes its result, which finds room, or stops with its fault. -/
theorem settles_of_outcome
    {action : Action Unit}
    {result : Except Fault Word}
    {rest : DataStack}
    (pc : Nat)
    (shown : rest.toList = below)
    (room : rest.toList.length < rest.capacity)
    (ends :
      (machine.skip 1).outcome action =
        { machine with stack := rest, pc := pc }.outcome (check result >>= push)) :
    machine.Settles below result (conclude ((machine.skip 1).outcome action)) := by
  cases result with
  | error fault =>
      rw [ends, outcome_bind_of_error (outcome_check _ _)]
      exact ⟨rfl, shown.trans (List.append_nil _).symm, rfl, rfl⟩
  | ok value =>
      subst shown
      obtain ⟨stack, pushed, values⟩ := DataStack.exists_push room value
      have pushedLater :
          { machine with stack := rest, pc := pc }.stack.push value = .ok stack :=
        pushed
      rw [ends, outcome_bind_of_ok (outcome_check _ _), outcome_push pushedLater]
      exact ⟨congrArg Except.ok running, values, running, rfl⟩

variable
  {operator : ImmediateOperator}
  {left : Word}
  {after : List UInt8}

/-- An operator on the stack settles as the operator does on the two values shown last. -/
theorem settles_operate
    {right : Word}
    (here : machine.ahead = (Instruction.operate operator.onStack).byte :: after)
    (shown : machine.stack.toList = below ++ [left, right]) :
    machine.Settles below (operator.onStack.apply left right) machine.step := by
  have known : .operate operator.onStack ∈ Instruction.table.toList := by
    cases operator with
    | _ => decide
  obtain ⟨middle, rest, popped, poppedNext, kept⟩ := DataStack.exists_popTwo shown
  have poppedRight :
      (machine.skip 1).outcome pop = (.ok right, { machine.skip 1 with stack := middle }) :=
    outcome_pop popped
  have poppedLeft :
      { machine.skip 1 with stack := middle }.outcome pop =
        (.ok left, { machine.skip 1 with stack := rest }) :=
    outcome_pop poppedNext
  rw [(step_of_ahead running known here).1]
  refine settles_of_outcome running (machine.pc + 1) kept (DataStack.length_lt_of_pop poppedNext) ?_
  change (machine.skip 1).outcome (pop >>= fun right => pop >>= fun left =>
    check (operator.onStack.apply left right) >>= push) = _
  rw [outcome_bind_of_ok poppedRight, outcome_bind_of_ok poppedLeft]
  rfl

omit running in
/-- A signed operand ahead is fetched with its sign. -/
theorem outcome_fetchSigned16_of_ahead
    {value : Int16}
    (here : machine.ahead = littleEndian 2 value.toUInt16.toNat ++ after) :
    machine.outcome fetchSigned16 = (.ok value.toInt32, machine.skip 2) := by
  unfold fetchSigned16
  rw [outcome_bind_of_ok (outcome_fetch_of_ahead (by decide) here), ← Word.ofSigned16_toUInt16]
  rfl

/-- An operator with an operand in the code settles as on the value shown last and the operand. -/
theorem settles_operateImmediate
    {value : Int16}
    (here :
      machine.ahead =
        (Instruction.operateImmediate operator).byte ::
          (littleEndian 2 value.toUInt16.toNat ++ after))
    (shown : machine.stack.toList = below ++ [left]) :
    machine.Settles below (operator.apply left value.toInt32) machine.step := by
  have known : .operateImmediate operator ∈ Instruction.table.toList := by
    cases operator with
    | _ => decide
  obtain ⟨stepped, operand⟩ := step_of_ahead running known here
  obtain ⟨rest, popped, kept⟩ := DataStack.exists_pop shown
  have poppedLeft :
      ((machine.skip 1).skip 2).outcome pop =
        (.ok left, { (machine.skip 1).skip 2 with stack := rest }) :=
    outcome_pop popped
  rw [stepped]
  refine settles_of_outcome running (machine.pc + 1 + 2) kept (DataStack.length_lt_of_pop popped) ?_
  change (machine.skip 1).outcome (fetchSigned16 >>= fun right => pop >>= fun left =>
    check (operator.apply left right) >>= push) = _
  rw [outcome_bind_of_ok (outcome_fetchSigned16_of_ahead operand),
    outcome_bind_of_ok poppedLeft]
  rfl

/-- Pushing a number leaves a machine in which an operator stands next. -/
theorem exists_pushedHalf
    {value : Int16}
    (here :
      machine.ahead =
        (Instruction.pushImmediate .half).byte ::
          (littleEndian 2 value.toUInt16.toNat ++ after))
    (shown : machine.stack.toList = below ++ [left])
    (room : machine.stack.toList.length < machine.stack.capacity) :
    ∃ stack,
      stack.toList = below ++ [left, value.toInt32] ∧
        machine.step = (.ok false, { machine.skip 3 with stack := stack }) ∧
        (machine.skip 3).ahead = after := by
  obtain ⟨stack, pushed, values⟩ := DataStack.exists_push room value.toInt32
  rw [← Word.ofSigned16_toUInt16] at pushed
  refine ⟨stack, ?_, step_pushImmediate running here pushed, ?_⟩
  · rw [values, shown, List.append_assoc]
    rfl
  · rw [← List.cons_append] at here
    exact ahead_skip here

end Steps

/-- Two runs end in the same way: their answers, the values shown and all else but the code. -/
structure EndAlike (first second : Except Fault Bool × Machine) : Prop where
  answer : second.1 = first.1
  stack : second.2.stack.toList = first.2.stack.toList
  others :
    second.2 = { first.2 with
      code := second.2.code
      pc := second.2.pc
      stack := second.2.stack }

/-- Two steps that settle with the same result end alike. -/
theorem EndAlike.of_settles
    {machine other : Machine}
    {below : List Word}
    {result : Except Fault Word}
    {first second : Except Fault Bool × Machine}
    (same : other = { machine with code := other.code, pc := other.pc })
    (settles : machine.Settles below result first)
    (settlesToo : other.Settles below result second) :
    EndAlike first second where
  answer := settlesToo.answer.trans settles.answer.symm
  stack := settlesToo.stack.trans settles.stack.symm
  others := by
    obtain ⟨pc, stack, finished, ends⟩ :
        ∃ pc stack finished,
          first.2 = { machine with pc := pc, stack := stack, finished := finished } :=
      ⟨_, _, _, settles.others⟩
    obtain ⟨pcToo, stackToo, finishedToo, endsToo⟩ :
        ∃ pc stack finished,
          second.2 = { other with pc := pc, stack := stack, finished := finished } :=
      ⟨_, _, _, settlesToo.others⟩
    have sameEnd : second.2.finished = first.2.finished :=
      settlesToo.finished.trans settles.finished.symm
    rw [ends, endsToo] at sameEnd ⊢
    obtain rfl : finishedToo = finished := sameEnd
    rw [same]

/-- What settles behind the bytes skipped and a value pushed settles before them. -/
theorem Settles.of_skip
    {machine : Machine}
    {count : Nat}
    {stack : DataStack}
    {below : List Word}
    {result : Except Fault Word}
    {ended : Except Fault Bool × Machine}
    (settles : { machine.skip count with stack := stack }.Settles below result ended) :
    machine.Settles below result ended where
  answer := settles.answer
  stack := settles.stack
  finished := settles.finished
  others := settles.others

section Forms

variable
  {operator : ImmediateOperator}
  {value : Int16}
  {stacked immediate : Machine}
  {afterStacked afterImmediate : List UInt8}
  (same : immediate = { stacked with code := immediate.code, pc := immediate.pc })

include same

/-- An ended machine stays as it is, whatever its code says. -/
theorem endAlike_of_finished (ended : stacked.finished = true) :
    stacked.step.1 = .ok true ∧ EndAlike stacked.step.2.step immediate.step := by
  have endedToo : immediate.finished = true := (congrArg finished same).trans ended
  have stays : stacked.step = (.ok true, stacked) := if_pos ended
  have staysToo : immediate.step = (.ok true, immediate) := if_pos endedToo
  rw [stays, staysToo]
  change _ ∧ EndAlike stacked.step _
  rw [stays]
  refine ⟨rfl, rfl, congrArg (fun machine => machine.stack.toList) same, ?_⟩
  rw [same]

variable
  (running : stacked.finished = false)
  (stackedAhead :
    stacked.ahead =
      codeBytes
          [⟨.pushImmediate .half, littleEndian 2 value.toUInt16.toNat⟩,
            ⟨.operate operator.onStack, []⟩] ++
        afterStacked)
  (immediateAhead :
    immediate.ahead =
      codeBytes [⟨.operateImmediate operator, littleEndian 2 value.toUInt16.toNat⟩] ++
        afterImmediate)
  (present : 0 < stacked.stack.toList.length)
  (room : stacked.stack.toList.length < stacked.stack.capacity)

include running stackedAhead immediateAhead present room

/-- Each form takes the top of the stack and the number and settles what it computes of them. -/
theorem exists_settledForms :
    ∃ below left,
      stacked.stack.toList = below ++ [left] ∧
        stacked.step.1 = .ok false ∧
        stacked.Settles below (operator.onStack.apply left value.toInt32) stacked.step.2.step ∧
        immediate.Settles below (operator.apply left value.toInt32) immediate.step := by
  have nonempty : stacked.stack.toList ≠ [] := List.ne_nil_of_length_pos present
  obtain ⟨below, left, shown⟩ : ∃ below left, stacked.stack.toList = below ++ [left] :=
    ⟨_, _, (List.dropLast_concat_getLast nonempty).symm⟩
  have here :
      stacked.ahead =
        (Instruction.pushImmediate .half).byte ::
          (littleEndian 2 value.toUInt16.toNat ++
            (Instruction.operate operator.onStack).byte :: afterStacked) := by
    rw [stackedAhead]
    rfl
  have hereToo :
      immediate.ahead =
        (Instruction.operateImmediate operator).byte ::
          (littleEndian 2 value.toUInt16.toNat ++ afterImmediate) := by
    rw [immediateAhead]
    rfl
  have runningToo : immediate.finished = false := (congrArg finished same).trans running
  have shownToo : immediate.stack.toList = below ++ [left] :=
    (congrArg (fun machine => machine.stack.toList) same).trans shown
  obtain ⟨stack, values, pushed, behind⟩ := exists_pushedHalf running here shown room
  refine ⟨below, left, shown, congrArg Prod.fst pushed, ?_,
    settles_operateImmediate runningToo hereToo shownToo⟩
  -- The push moves on by three bytes and changes nothing else but the stack.
  have runningLater : { stacked.skip 3 with stack := stack }.finished = false := running
  have behindLater :
      { stacked.skip 3 with stack := stack }.ahead =
        (Instruction.operate operator.onStack).byte :: afterStacked :=
    behind
  rw [pushed]
  exact (settles_operate runningLater behindLater values).of_skip

end Forms

/--
The two forms of an operator agree.

In any machine that shows a value and has room for another, pushing a number and
applying an operator ends as the single instruction does that has the number in
the code: with the same answer or fault, the same values, and all else the same
but the code and the place in it. Only shifts by a negative number differ: the
first form leaves the left operand as it is, and the second shifts it by the
number modulo thirty-two, filling with zeros.
-/
theorem operator_forms_agree
    (operator : ImmediateOperator)
    (value : Int16)
    (stacked immediate : Machine)
    (afterStacked afterImmediate : List UInt8)
    (same : immediate = { stacked with code := immediate.code, pc := immediate.pc })
    (stackedAhead :
      stacked.ahead =
        codeBytes
            [⟨.pushImmediate .half, littleEndian 2 value.toUInt16.toNat⟩,
              ⟨.operate operator.onStack, []⟩] ++
          afterStacked)
    (immediateAhead :
      immediate.ahead =
        codeBytes [⟨.operateImmediate operator, littleEndian 2 value.toUInt16.toNat⟩] ++
          afterImmediate)
    (present : 0 < stacked.stack.toList.length)
    (room : stacked.stack.toList.length < stacked.stack.capacity) :
    stacked.step.1 = .ok stacked.finished ∧
      ((operator.shifts = true → 0 ≤ value.toInt) →
        EndAlike stacked.step.2.step immediate.step) ∧
      (operator.shifts = true →
        value.toInt < 0 →
        stacked.finished = false →
        ∃ below left,
          stacked.stack.toList = below ++ [left] ∧
            stacked.Settles below (.ok left) stacked.step.2.step ∧
            immediate.Settles below
              (.ok (Word.ofBits
                (operator.shiftedBits left.bits (value.toInt % 32).toNat)))
              immediate.step) := by
  have signed : value.toInt32.toInt = value.toInt := Int16.toInt_toInt32 value
  cases running : stacked.finished with
  | true =>
      obtain ⟨answer, alike⟩ := endAlike_of_finished same running
      exact ⟨answer, fun _ => alike, fun _ _ stopped => by cases stopped⟩
  | false =>
      obtain ⟨below, left, shown, answer, settles, settlesToo⟩ :=
        exists_settledForms same running stackedAhead immediateAhead present room
      refine ⟨answer, ?_, ?_⟩
      · intro usual
        rw [← signed] at usual
        rw [operator.apply_onStack left _ usual] at settles
        exact .of_settles same settles settlesToo
      · intro shifting negative _
        rw [← signed] at negative ⊢
        rw [ImmediateOperator.apply_onStack_of_neg left shifting negative] at settles
        rw [ImmediateOperator.apply_of_shifts left shifting] at settlesToo
        exact ⟨below, left, shown, settles, settlesToo⟩

/-- A machine that shows minus eight and has room for one more value. -/
def aboutToShift (code : Array UInt8) : Machine where
  device := {}
  files := { store := { host := {}, root := [] } }
  code := code
  pc := 0
  stack := { slots := #[-8, 0], top := 1, top_le := by decide }
  frames := none
  finished := false

/-- Shifted right by minus one, minus eight stays as it is, or leaves its highest bit. -/
theorem shifted_by_minus_one :
    (aboutToShift
        #[Instruction.byte (.pushImmediate .half), 0xff, 0xff,
          Instruction.byte (.operate .shiftRight)]).step.2.step.2.stack.toList = [-8] ∧
      (aboutToShift
        #[Instruction.byte (.operateImmediate .shiftRight), 0xff, 0xff]).step.2.stack.toList =
          [1] := by
  obtain ⟨below, left, shown, settles, settlesToo⟩ :=
    (operator_forms_agree .shiftRight (-1)
      (aboutToShift
        #[Instruction.byte (.pushImmediate .half), 0xff, 0xff,
          Instruction.byte (.operate .shiftRight)])
      (aboutToShift #[Instruction.byte (.operateImmediate .shiftRight), 0xff, 0xff])
      [] [] rfl rfl rfl (by decide) (by decide)).2.2 rfl (by decide) rfl
  have values : [] ++ [-8] = below ++ [left] := shown
  obtain ⟨rfl, last⟩ := List.append_inj' values rfl
  obtain rfl : -8 = left := List.head_eq_of_cons_eq last
  exact ⟨settles.stack, settlesToo.stack.trans (by decide)⟩

end Machine

end Handheld
