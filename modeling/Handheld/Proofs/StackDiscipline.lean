import Handheld.Proofs.Machine.Step

namespace Handheld

/-!
# Stack discipline

Every opcode takes a number of values from the top of the data stack and puts at
most one there. Both numbers are fixed by the opcode, except that entering a
frame takes as many values as its operand says, and the two printing functions
as many as the top value says. What lies below is never touched, and a step that
does not find its values fails.
-/

/-- Every byte of the two ranges is an opcode. -/
theorem Opcode.exists_ofByte?
    {byte : UInt8}
    (known : byte ≤ 0x51 ∨ 0x80 ≤ byte ∧ byte ≤ 0xca) :
    ∃ opcode, Opcode.ofByte? byte = some opcode := by
  have tableSize : Instruction.table.size = 0x52 := rfl
  have builtinSize : Builtin.table.size = 0x4b := rfl
  have bounds : byte.toNat ≤ 0x51 ∨ 0x80 ≤ byte.toNat ∧ byte.toNat ≤ 0xca := by
    simpa [UInt8.le_iff_toNat_le] using known
  unfold Opcode.ofByte?
  by_cases general : byte < 0x80
  · rw [if_pos general]
    have below : byte.toNat < 0x80 := by
      simpa [UInt8.lt_iff_toNat_lt] using general
    have inside : byte.toNat < Instruction.table.size := by omega
    rw [Array.getElem?_eq_getElem inside]
    exact ⟨_, rfl⟩
  · rw [if_neg general]
    have above : 0x80 ≤ byte.toNat := by
      simpa [UInt8.le_iff_toNat_le] using general
    have inside : byte.toNat - 0x80 < Builtin.table.size := by omega
    rw [Array.getElem?_eq_getElem inside]
    exact ⟨_, rfl⟩

/-- Only entering a frame and printing take a number of values that varies. -/
theorem Opcode.demand_cases (opcode : Opcode) :
    (∃ count, opcode.demand = .exactly count) ∨
      opcode = .general .enter ∧ opcode.demand = .asOperand ∨
      (opcode = .builtin .print ∨ opcode = .builtin .printToString) ∧
        opcode.demand = .asTop := by
  cases opcode with
  | general instruction =>
      by_cases entering : instruction = .enter
      · subst entering
        exact .inr (.inl ⟨rfl, rfl⟩)
      · left
        cases instruction with
        | enter => exact (entering rfl).elim
        | load addressing width => cases addressing <;> exact ⟨_, rfl⟩
        | _ => exact ⟨_, rfl⟩
  | builtin function =>
      cases function with
      | print => exact .inr (.inr ⟨.inl rfl, rfl⟩)
      | printToString => exact .inr (.inr ⟨.inr rfl, rfl⟩)
      | _ => exact .inl ⟨_, rfl⟩

/-- No opcode puts more than one value on the stack. -/
theorem Opcode.yield_le_one (opcode : Opcode) : opcode.yield ≤ 1 := by
  cases opcode with
  | general instruction =>
      change instruction.yield ≤ 1
      unfold Instruction.yield
      split <;> decide
  | builtin function =>
      change function.yield ≤ 1
      unfold Builtin.yield
      split <;> decide

namespace Machine

/-- A general instruction that meets no fault exchanges what its tables say. -/
theorem replaces_of_execute
    {machine after : Machine}
    {instruction : Instruction}
    (ends : (machine.skip 1).outcome (execute instruction) = (.ok (), after)) :
    Replaces (instruction.demand.count machine) instruction.yield
      machine.stack.toList after.stack.toList := by
  by_cases literal : instruction = .pushLiteral
  · subst literal
    obtain ⟨stack, found, pushed, -, rfl⟩ := eq_of_outcome_pushLiteral ends
    refine ⟨machine.stack.toList, [], [Word.ofBits machine.stringPointer], ?_, rfl, ?_, rfl⟩
    · exact (List.append_nil _).symm
    · exact DataStack.toList_push pushed
  rcases moves : instruction.movesFrames with _ | _
  · obtain ⟨count, demand⟩ := Instruction.demand_eq_exactly moves
    have change := (effect_execute instruction moves literal demand).stack ends
    rw [demand]
    exact change
  · cases instruction with
    | setFrameBase =>
        obtain ⟨-, rfl⟩ := eq_of_outcome_setFrameBase ends
        exact .refl _
    | enter =>
        obtain ⟨frames, rest, values, -, -, -, taken, rfl⟩ := eq_of_outcome_enter ends
        refine ⟨rest.toList, values.toList, [], ?_, ?_, (List.append_nil _).symm, rfl⟩
        · exact DataStack.toList_take taken
        · exact Vector.length_toList
    | leave =>
        obtain ⟨frames, -, rfl⟩ := eq_of_outcome_leave ends
        exact .refl _
    | _ => cases moves

/-- An opcode that meets no fault exchanges what its tables say. -/
theorem replaces_of_action
    {machine after : Machine}
    {opcode : Opcode}
    (ends : (machine.skip 1).outcome opcode.action = (.ok (), after)) :
    Replaces (opcode.demand.count machine) opcode.yield
      machine.stack.toList after.stack.toList := by
  cases opcode with
  | general instruction => exact replaces_of_execute ends
  | builtin function =>
      -- No built-in function has an operand, so it does not matter where its byte stands.
      have sameCount :
          function.demand.count (machine.skip 1) = function.demand.count machine := by
        cases function <;> rfl
      have change := replaces_of_call ends
      rwa [sameCount] at change

/--
A running machine at an opcode of either range takes from the stack what the
opcode demands and puts there what it yields. If the step succeeds, the values
were there and those below them stay; if they were not there, the step fails.
-/
theorem step_stackDiscipline
    (machine : Machine)
    (byte : UInt8)
    (running : machine.finished = false)
    (current : machine.code[machine.pc]? = some byte)
    (known : byte ≤ 0x51 ∨ 0x80 ≤ byte ∧ byte ≤ 0xca) :
    ∃ opcode,
      Opcode.ofByte? byte = some opcode ∧
        ((∃ count, opcode.demand = .exactly count) ∨
          opcode = .general .enter ∧ opcode.demand = .asOperand ∨
          (opcode = .builtin .print ∨ opcode = .builtin .printToString) ∧
            opcode.demand = .asTop) ∧
        opcode.yield ≤ 1 ∧
        (∀ result after,
          machine.step = (.ok result, after) →
          opcode.demand.count machine ≤ machine.stack.toList.length ∧
            ∃ added,
              added.length = opcode.yield ∧
                after.stack.toList =
                  machine.stack.toList.take
                    (machine.stack.toList.length - opcode.demand.count machine) ++ added) ∧
        (machine.stack.toList.length < opcode.demand.count machine →
          ∃ fault after, machine.step = (.error fault, after)) := by
  obtain ⟨opcode, decoded⟩ := Opcode.exists_ofByte? known
  have here : machine.opcode? = some opcode := by
    unfold opcode?
    rw [current]
    exact decoded
  have change :
      ∀ result after,
        machine.step = (.ok result, after) →
        Replaces (opcode.demand.count machine) opcode.yield
          machine.stack.toList after.stack.toList := by
    intro result after stepped
    obtain ⟨found, foundHere, ends⟩ := outcome_of_step running stepped
    rw [here] at foundHere
    cases foundHere
    exact replaces_of_action ends
  refine ⟨opcode, decoded, opcode.demand_cases, opcode.yield_le_one, ?_, ?_⟩
  · intro result after stepped
    exact ⟨(change result after stepped).consumed_le, (change result after stepped).eq_take_append⟩
  · intro missing
    rcases stepped : machine.step with ⟨fault | result, after⟩
    · exact ⟨fault, after, rfl⟩
    · have enough := (change result after stepped).consumed_le
      omega

/-- A machine about to print with more values counted than there are. -/
def printingShort : Machine :=
  let start : Machine := {
    device := {}
    files := { store := { host := {}, root := [] } }
    code := #[0x01, 7, 0x01, 9, 0x01, 5, 0x82]
    pc := 0
    finished := false
  }
  start.step.2.step.2.step.2

theorem printingShort_fails :
    printingShort.stack.toList.length = 3 ∧
      ∃ fault after, printingShort.step = (.error fault, after) := by
  have depth : printingShort.stack.toList.length = 3 := by decide +kernel
  obtain ⟨opcode, decoded, -, -, -, fails⟩ :=
    step_stackDiscipline printingShort 0x82 (by decide +kernel) (by decide +kernel) (by decide)
  have printing : Opcode.ofByte? 0x82 = some (.builtin .print) := by decide +kernel
  rw [printing] at decoded
  cases decoded
  exact ⟨depth, fails (by decide +kernel)⟩

end Machine

end Handheld
