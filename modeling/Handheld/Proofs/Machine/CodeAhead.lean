import Handheld.Proofs.Machine.Step

namespace Handheld

/-!
# Reading code

What a machine reads when it is known which bytes lie ahead of its program
counter: the opcode, the operands that follow it, plain bytes and literals.
-/

/-- The byte of an instruction that has one stands for the instruction. -/
theorem Opcode.ofByte?_byte :
    ∀ instruction ∈ Instruction.table.toList,
      Opcode.ofByte? instruction.byte = some (.general instruction) := by
  decide +kernel

namespace Machine

/-- The code from the program counter on. -/
def ahead (machine : Machine) : List UInt8 :=
  machine.code.toList.drop machine.pc

variable
  {machine : Machine}
  {bytes rest : List UInt8}

/-- Behind the bytes ahead comes the rest. -/
theorem ahead_skip (here : machine.ahead = bytes ++ rest) :
    (machine.skip bytes.length).ahead = rest := by
  have behind : machine.code.toList.drop (machine.pc + bytes.length) = rest := by
    rw [← List.drop_drop]
    change machine.ahead.drop bytes.length = rest
    rw [here, List.drop_left]
  exact behind

/-- Bytes ahead lie in the code. -/
theorem inside_of_ahead
    (here : machine.ahead = bytes ++ rest)
    (present : 0 < bytes.length) :
    machine.pc + bytes.length ≤ machine.code.size := by
  have lengths := congrArg List.length here
  unfold ahead at lengths
  rw [List.length_drop, List.length_append, Array.length_toList] at lengths
  omega

/-- The byte of a known instruction stands for that instruction. -/
theorem opcode?_of_ahead
    {instruction : Instruction}
    (known : instruction ∈ Instruction.table.toList)
    (here : machine.ahead = instruction.byte :: rest) :
    machine.opcode? = some (.general instruction) := by
  unfold opcode?
  rw [(code_of_drop here).1]
  exact Opcode.ofByte?_byte instruction known

/-- A step carries out the instruction whose byte lies ahead. -/
theorem step_of_ahead
    {instruction : Instruction}
    (running : machine.finished = false)
    (known : instruction ∈ Instruction.table.toList)
    (here : machine.ahead = instruction.byte :: rest) :
    machine.step = conclude ((machine.skip 1).outcome (execute instruction)) ∧
      (machine.skip 1).ahead = rest :=
  ⟨step_of_opcode running (opcode?_of_ahead known here), (code_of_drop here).2⟩

/-- A number ahead is fetched, as far as its bytes hold it. -/
theorem outcome_fetch_of_ahead
    {count value : Nat}
    (positive : 0 < count)
    (here : machine.ahead = littleEndian count value ++ rest) :
    machine.outcome (fetch count) =
      (.ok (value % numberBound count), machine.skip count) := by
  have inside : machine.pc + count ≤ machine.code.size := by
    have bound := inside_of_ahead here (by rwa [length_littleEndian])
    rwa [length_littleEndian] at bound
  have number := codeNumber_eq_ofLittleEndian here
  rw [length_littleEndian, ofLittleEndian_littleEndian] at number
  rw [outcome_fetch inside, number]

/-- Behind a number lies the rest of the code. -/
theorem ahead_skip_littleEndian
    {count value : Nat}
    (here : machine.ahead = littleEndian count value ++ rest) :
    (machine.skip count).ahead = rest := by
  have behind := ahead_skip here
  rwa [length_littleEndian] at behind

/-- Bytes ahead are fetched as they are. -/
theorem outcome_fetchBytes_of_ahead
    (inside : machine.pc + bytes.length ≤ machine.code.size)
    (here : machine.ahead = bytes ++ rest) :
    machine.outcome (fetchBytes bytes.length) = (.ok bytes, machine.skip bytes.length) := by
  have read :
      (machine.code.extract machine.pc (machine.pc + bytes.length)).toList = bytes := by
    rw [Array.toList_extract, List.extract_eq_take_drop, Nat.add_sub_cancel_left]
    change machine.ahead.take bytes.length = bytes
    rw [here, List.take_left]
  unfold fetchBytes
  rw [outcome_bind_of_ok (outcome_advance inside), outcome_bind_of_ok (outcome_get _), outcome_pure]
  exact congrArg (fun found => (Except.ok found, machine.skip bytes.length)) read

/-- A text without NUL is read back under the factor that it was combined with. -/
theorem literalBytes_of_drop
    {code : Array UInt8}
    {factor : UInt8}
    {index : Nat}
    {text : List UInt8}
    (found : Array UInt8)
    (noNul : 0 ∉ text)
    (here : code.toList.drop index = (text ++ [0]).map (· ^^^ factor) ++ rest) :
    literalBytes code factor index found = (found ++ text, true) := by
  induction text generalizing index found with
  | nil =>
      obtain ⟨byte, -⟩ := code_of_drop here
      obtain ⟨inside, byte⟩ := Array.getElem?_eq_some_iff.mp byte
      have isNul : code[index] ^^^ factor = 0 := by
        rw [byte, UInt8.xor_assoc, UInt8.xor_self, UInt8.xor_zero]
      rw [literalBytes, dif_pos inside, if_pos isNul, Array.appendList_nil]
  | cons first others inductionHypothesis =>
      have notFirst : first ≠ 0 := by
        rintro rfl
        exact noNul List.mem_cons_self
      have noNulLater : 0 ∉ others := fun member => noNul (List.mem_cons_of_mem _ member)
      obtain ⟨byte, later⟩ := code_of_drop here
      obtain ⟨inside, byte⟩ := Array.getElem?_eq_some_iff.mp byte
      have decoded : code[index] ^^^ factor = first := by
        rw [byte, UInt8.xor_assoc, UInt8.xor_self, UInt8.xor_zero]
      rw [literalBytes, dif_pos inside, decoded, if_neg notFirst,
        inductionHypothesis _ noNulLater later, Array.appendList_cons]

end Machine

end Handheld
