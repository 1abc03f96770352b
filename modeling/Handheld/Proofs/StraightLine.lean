import Handheld.Proofs.Image.Layout
import Handheld.Proofs.Machine.CodeAhead
import Handheld.Proofs.ReachableBounds

namespace Handheld

/-!
# Straight-line programs

A program of directives that push values, push literals, set the factor of
literals, copy data and set the frame base, with a halt at its end. Its image is
accepted, and each step of the machine does what one directive says and goes on
right behind its bytes.
-/

section Immediates

/-- The word that pushing an operand of a width puts on the stack. -/
def Width.immediate
    (width : Width)
    (operand : Nat) :
    Word :=
  match width with
  | .byte => Word.ofBits operand
  | .half => Word.ofSigned16 operand
  | .full => Word.ofBits operand

/-- A word between 0 and 255 is read back from one byte. -/
theorem Word.ofBits_of_byte
    {word : Word}
    (low : 0 ≤ word.toInt)
    (high : word.toInt ≤ 255) :
    Word.ofBits (word.bits % 0x100) = word := by
  have value := word.toInt_eq_bits
  have bound : word.bits < 0x100000000 := word.toUInt32.toNat_lt
  have same : word.bits % 0x100 = word.bits := by
    split at value <;> omega
  rw [same, Word.ofBits_bits]

/-- A word that sixteen bits hold is read back from two bytes. -/
theorem Word.ofSigned16_of_half
    {word : Word}
    (low : -32768 ≤ word.toInt)
    (high : word.toInt ≤ 32767) :
    Word.ofSigned16 word.bits = word := by
  have value := word.toInt_eq_bits
  have bound : word.bits < 0x100000000 := word.toUInt32.toNat_lt
  apply Int32.toInt_inj.mp
  rw [Word.toInt_ofSigned16, Int.bmod_def]
  split at value <;> split <;> omega

/-- The shortest form of a push is one of the three, and its operand stands for the word. -/
theorem shortestPush_eq (value : Word) :
    ∃ width : Width,
      shortestPush value =
          (Instruction.pushImmediate width).byte :: littleEndian width.size value.bits ∧
        width.immediate (value.bits % numberBound width.size) = value := by
  unfold shortestPush
  dsimp only
  split
  · rename_i short
    exact ⟨.byte, rfl, Word.ofBits_of_byte short.1 short.2⟩
  · split
    · rename_i short
      refine ⟨.half, rfl, ?_⟩
      exact (Word.ofSigned16_mod value.bits).trans (Word.ofSigned16_of_half short.1 short.2)
    · refine ⟨.full, rfl, ?_⟩
      have bound : value.bits < 0x100000000 := value.toUInt32.toNat_lt
      change Word.ofBits (value.bits % 0x100000000) = value
      rw [Nat.mod_eq_of_lt bound, Word.ofBits_bits]

end Immediates

namespace Directive

/-- The directives of straight-line programs, with what their text or content may be. -/
def Straight : Directive → Prop
  | .pushByte _ | .pushHalf _ | .pushFull _ | .push _ | .xorFactor _ | .frameBase _ => True
  | .literal text => 0 ∉ text ∧ text.length ≤ 65535
  | .data _ content => content.length ≤ 65535
  | _ => False

/-- The directives that put a value on the stack. -/
def pushes : Directive → Bool
  | .pushByte _ | .pushHalf _ | .pushFull _ | .push _ | .literal _ => true
  | _ => false

/-- The values that a directive puts on the stack of a machine. -/
def pushed
    (machine : Machine) :
    Directive → List Word
  | .pushByte value => [Word.ofByte value]
  | .pushHalf value => [Word.ofSigned16 value]
  | .pushFull value => [value]
  | .push value => [value]
  | .literal _ => [Word.ofBits machine.stringPointer]
  | _ => []

/-- Where a directive stores bytes in the memory of a machine. -/
def storeStart
    (machine : Machine) :
    Directive → Nat
  | .data address _ => address
  | _ => machine.stringPointer

/-- The bytes that a directive stores. -/
def stored : Directive → List UInt8
  | .literal text => text ++ [0]
  | .data _ content => content
  | _ => []

/-- Straight directives name no labels. -/
theorem namesLabel_of_straight
    {directive : Directive}
    (straight : directive.Straight) :
    directive.namesLabel = false := by
  cases directive with
  | toLabel => exact straight.elim
  | _ => rfl

/-- A directive pushes one value or none. -/
theorem length_pushed
    {directive : Directive}
    (straight : directive.Straight)
    (machine : Machine) :
    (directive.pushed machine).length = if directive.pushes then 1 else 0 := by
  cases directive with
  | bytes => exact straight.elim
  | _ => rfl

/-- A directive stores no more than memory holds. -/
theorem length_stored_le
    {directive : Directive}
    (straight : directive.Straight) :
    directive.stored.length ≤ Ram.capacity := by
  cases directive with
  | literal text =>
      have short := straight.2
      change (text ++ [0]).length ≤ 0x10000
      rw [List.length_append, List.length_singleton]
      omega
  | data address content => exact Nat.le_succ_of_le straight
  | _ => exact Nat.zero_le _

end Directive

namespace Machine

/-- The frame pointers after a directive. -/
def framesAfter
    (machine : Machine) :
    Directive → Option Frames
  | .frameBase base => some (framesAt (base % 0x10000))
  | _ => machine.frames

/-- Where the next literal goes after a directive. -/
def stringPointerAfter
    (machine : Machine) :
    Directive → Nat
  | .literal text => nextLiteral (machine.stringPointer + (text.length + 1))
  | _ => machine.stringPointer

/-- What a directive does: nothing but what it says, and the program counter goes on. -/
structure Performs
    (directive : Directive)
    (before after : Machine) : Prop where
  stack : after.stack.toList = before.stack.toList ++ directive.pushed before
  stored :
    ∀ offset byte,
      directive.stored[offset]? = some byte →
      after.ram.byte (directive.storeStart before + offset) = byte
  untouched :
    ∀ address,
      (∀ offset < directive.stored.length,
        (directive.storeStart before + offset) % 0x10000 ≠ address % 0x10000) →
      after.ram.byte address = before.ram.byte address
  frames : after.frames = before.framesAfter directive
  stringPointer : after.stringPointer = before.stringPointerAfter directive
  xorFactor : after.xorFactor = Builder.factorAfter before.xorFactor directive
  others :
    after = { before with
      device := { before.device with ram := after.ram }
      pc := after.pc
      stack := after.stack
      frames := after.frames
      stringPointer := after.stringPointer
      xorFactor := after.xorFactor }

/-- The machine after a directive, given its stack and where it goes on. -/
def performed
    (machine : Machine)
    (directive : Directive)
    (stack : DataStack)
    (next : Nat) :
    Machine :=
  { machine with
    device := { machine.device with
      ram := machine.ram.write (directive.storeStart machine) directive.stored }
    pc := next
    stack := stack
    frames := machine.framesAfter directive
    stringPointer := machine.stringPointerAfter directive
    xorFactor := Builder.factorAfter machine.xorFactor directive }

/-- The machine that is written down performs the directive. -/
theorem performs_performed
    {machine : Machine}
    {directive : Directive}
    {stack : DataStack}
    {next : Nat}
    (straight : directive.Straight)
    (values : stack.toList = machine.stack.toList ++ directive.pushed machine) :
    Performs directive machine (machine.performed directive stack next) := by
  have short := Directive.length_stored_le straight
  refine ⟨values, ?_, ?_, rfl, rfl, rfl, rfl⟩
  · intro offset byte here
    obtain ⟨inside, -⟩ := List.getElem?_eq_some_iff.mp here
    have place :
        Ram.distance (directive.storeStart machine) (directive.storeStart machine + offset) =
          offset := by
      unfold Ram.distance Ram.capacity at *
      omega
    change (machine.ram.write _ directive.stored).byte _ = byte
    rw [Ram.byte_write _ _ _ _ short, place, here]
    rfl
  · intro address outside
    have far :
        directive.stored.length ≤ Ram.distance (directive.storeStart machine) address := by
      apply Nat.le_of_not_lt
      intro near
      apply outside _ near
      unfold Ram.distance
      omega
    change (machine.ram.write _ directive.stored).byte _ = _
    rw [Ram.byte_write _ _ _ _ short, List.getElem?_eq_none far]
    rfl

section Steps

variable
  {machine : Machine}
  {rest : List UInt8}
  {stack : DataStack}

/-- Pushing an operand of any width is fetching it and pushing the word it stands for. -/
theorem outcome_pushImmediate
    (machine : Machine)
    (width : Width) :
    machine.outcome (execute (.pushImmediate width)) =
      machine.outcome (do
        let operand ← fetch width.size
        push (width.immediate operand)) := by
  cases width with
  | byte => rfl
  | half =>
      have fetched : fetchSigned16 = Word.ofSigned16 <$> fetch 2 := rfl
      change machine.outcome (fetchSigned16 >>= push) = _
      rw [fetched, bind_map_left]
      rfl
  | full => rfl

/-- Pushing an operand takes one step past it. -/
theorem step_pushImmediate
    {width : Width}
    {bits : Nat}
    (running : machine.finished = false)
    (here :
      machine.ahead =
        (Instruction.pushImmediate width).byte :: (littleEndian width.size bits ++ rest))
    (pushed :
      machine.stack.push (width.immediate (bits % numberBound width.size)) = .ok stack) :
    machine.step = (.ok false, { machine.skip (1 + width.size) with stack := stack }) := by
  have known : .pushImmediate width ∈ Instruction.table.toList := by
    cases width with
    | _ => decide
  have positive : 0 < width.size := by
    cases width with
    | _ => decide
  have pushedLater :
      ((machine.skip 1).skip width.size).stack.push
          (width.immediate (bits % numberBound width.size)) =
        .ok stack :=
    pushed
  obtain ⟨stepped, operand⟩ := step_of_ahead running known here
  rw [stepped, outcome_pushImmediate,
    outcome_bind_of_ok (outcome_fetch_of_ahead positive operand), outcome_push pushedLater,
    ← running]
  unfold skip
  rw [Nat.add_assoc]
  rfl

/-- What a step has to do for a directive: perform it and go on behind its bytes. -/
def Follows
    (directive : Directive)
    (machine : Machine) : Prop :=
  ∃ stack,
    stack.toList = machine.stack.toList ++ directive.pushed machine ∧
      machine.step =
        (.ok false,
          machine.performed directive stack
            (machine.pc + (Builder.encode machine.xorFactor directive).length))

/-- The machine follows every directive that pushes a number. -/
theorem follows_push
    {directive : Directive}
    {width : Width}
    {bits : Nat}
    {word : Word}
    (running : machine.finished = false)
    (room : machine.stack.toList.length < machine.stack.capacity)
    (here : machine.ahead = Builder.encode machine.xorFactor directive ++ rest)
    (form :
      Builder.encode machine.xorFactor directive =
        (Instruction.pushImmediate width).byte :: littleEndian width.size bits)
    (stands : width.immediate (bits % numberBound width.size) = word)
    (pushed : directive.pushed machine = [word])
    (quiet :
      ∀ stack next,
        machine.performed directive stack next = { machine with stack := stack, pc := next }) :
    Follows directive machine := by
  obtain ⟨stack, accepted, values⟩ := DataStack.exists_push room word
  rw [form, List.cons_append] at here
  rw [← stands] at accepted
  refine ⟨stack, by rw [pushed, values], ?_⟩
  rw [step_pushImmediate running here accepted, quiet, form, List.length_cons, length_littleEndian,
    Nat.add_comm width.size 1]
  rfl

/-- The machine follows a literal to the end of its text. -/
theorem follows_literal
    {text : List UInt8}
    (running : machine.finished = false)
    (room : machine.stack.toList.length < machine.stack.capacity)
    (noNul : 0 ∉ text)
    (here : machine.ahead = Builder.encode machine.xorFactor (.literal text) ++ rest) :
    Follows (.literal text) machine := by
  obtain ⟨stack, accepted, values⟩ := DataStack.exists_push room (Word.ofBits machine.stringPointer)
  have known : .pushLiteral ∈ Instruction.table.toList := by decide
  obtain ⟨stepped, operand⟩ := step_of_ahead running known here
  have acceptedLater :
      (machine.skip 1).stack.push (Word.ofBits (machine.skip 1).stringPointer) = .ok stack :=
    accepted
  have read :
      literalBytes (machine.skip 1).code (machine.skip 1).xorFactor (machine.skip 1).pc #[] =
        (text.toArray, true) := by
    have found := literalBytes_of_drop #[] noNul operand
    have plain : (#[] : Array UInt8) ++ text = text.toArray := by simp
    rwa [plain] at found
  have length :
      (Builder.encode machine.xorFactor (.literal text)).length = 1 + (text ++ [0]).length := by
    rw [Builder.encode, List.length_cons, List.length_map, Nat.add_comm]
  refine ⟨stack, values, ?_⟩
  rw [stepped]
  change conclude ((machine.skip 1).outcome pushLiteral) = _
  rw [outcome_pushLiteral acceptedLater, read, length, ← Nat.add_assoc, ← running]
  rfl

/-- The machine follows a change of the factor. -/
theorem follows_xorFactor
    {factor : UInt8}
    (running : machine.finished = false)
    (here : machine.ahead = Builder.encode machine.xorFactor (.xorFactor factor) ++ rest) :
    Follows (.xorFactor factor) machine := by
  have known : .setXorFactor ∈ Instruction.table.toList := by decide
  obtain ⟨stepped, operand⟩ := step_of_ahead running known here
  have number : (machine.skip 1).ahead = littleEndian 1 factor.toNat ++ rest := by
    rw [operand, littleEndian, UInt8.ofNat_toNat]
    rfl
  have fetched := outcome_fetch_of_ahead Nat.one_pos number
  have bound : factor.toNat < numberBound 1 := factor.toNat_lt
  have same : UInt8.ofNat (factor.toNat % numberBound 1) = factor := by
    rw [Nat.mod_eq_of_lt bound, UInt8.ofNat_toNat]
  refine ⟨machine.stack, (List.append_nil _).symm, ?_⟩
  rw [stepped]
  unfold execute
  rw [outcome_bind_of_ok fetched, outcome_modify, same, ← running]
  rfl

/-- The machine follows the directive that sets the frame base. -/
theorem follows_frameBase
    {base : Nat}
    (running : machine.finished = false)
    (here : machine.ahead = Builder.encode machine.xorFactor (.frameBase base) ++ rest) :
    Follows (.frameBase base) machine := by
  have known : .setFrameBase ∈ Instruction.table.toList := by decide
  obtain ⟨stepped, operand⟩ := step_of_ahead running known here
  have fetched := outcome_fetch_of_ahead Nat.two_pos operand
  refine ⟨machine.stack, (List.append_nil _).symm, ?_⟩
  rw [stepped]
  unfold execute
  rw [outcome_bind_of_ok fetched, outcome_modify, ← running]
  rfl

/-- The machine follows data into memory. -/
theorem follows_data
    {address : Nat}
    {content : List UInt8}
    (running : machine.finished = false)
    (short : content.length ≤ 65535)
    (here : machine.ahead = Builder.encode machine.xorFactor (.data address content) ++ rest) :
    Follows (.data address content) machine := by
  have form :
      Builder.encode machine.xorFactor (.data address content) =
        Instruction.initData.byte ::
          (littleEndian 2 address ++ (littleEndian 2 content.length ++ content)) := by
    rw [Builder.encode, List.take_of_length_le short, List.cons_append, List.cons_append,
      List.append_assoc]
  have length :
      (Builder.encode machine.xorFactor (.data address content)).length =
        1 + (2 + (2 + content.length)) := by
    rw [form, List.length_cons, List.length_append, List.length_append, length_littleEndian,
      length_littleEndian, Nat.add_comm]
  have inside := inside_of_ahead here (by omega)
  rw [form, List.cons_append, List.append_assoc, List.append_assoc] at here
  have known : .initData ∈ Instruction.table.toList := by decide
  obtain ⟨stepped, operands⟩ := step_of_ahead running known here
  have addressFetched := outcome_fetch_of_ahead Nat.two_pos operands
  have afterAddress := ahead_skip_littleEndian operands
  have lengthFetched := outcome_fetch_of_ahead Nat.two_pos afterAddress
  have afterLength := ahead_skip_littleEndian afterAddress
  have sameLength : content.length % numberBound 2 = content.length :=
    Nat.mod_eq_of_lt (Nat.lt_succ_of_le short)
  have contentInside :
      (((machine.skip 1).skip 2).skip 2).pc + content.length ≤
        (((machine.skip 1).skip 2).skip 2).code.size := by
    change machine.pc + 1 + 2 + 2 + content.length ≤ machine.code.size
    omega
  have contentFetched := outcome_fetchBytes_of_ahead contentInside afterLength
  -- The operand keeps sixteen bits of the address, and memory looks at no others.
  have sameRam :
      machine.ram.write (address % numberBound 2) content = machine.ram.write address content :=
    Ram.write_congr (Nat.mod_mod _ _)
  refine ⟨machine.stack, (List.append_nil _).symm, ?_⟩
  rw [stepped]
  unfold execute
  rw [outcome_bind_of_ok addressFetched, outcome_bind_of_ok lengthFetched, sameLength,
    outcome_bind_of_ok contentFetched, outcome_onRam, length, ← running, ← Nat.add_assoc,
    ← Nat.add_assoc, ← Nat.add_assoc]
  change (Except.ok machine.finished, { machine with
      device := { machine.device with
        ram := machine.ram.write (address % numberBound 2) content }
      pc := machine.pc + 1 + 2 + 2 + content.length }) = _
  rw [sameRam]
  rfl

/-- A step follows the straight directive whose bytes lie ahead. -/
theorem follows_of_straight
    {directive : Directive}
    (straight : directive.Straight)
    (running : machine.finished = false)
    (room : directive.pushes = true → machine.stack.toList.length < machine.stack.capacity)
    (here : machine.ahead = Builder.encode machine.xorFactor directive ++ rest) :
    Follows directive machine := by
  cases directive with
  | pushByte value =>
      have form : [value] = littleEndian 1 value.toNat := by
        rw [littleEndian, UInt8.ofNat_toNat]
        rfl
      have bound : value.toNat < numberBound 1 := value.toNat_lt
      refine follows_push running (room rfl) here (congrArg _ form) ?_ rfl fun _ _ => rfl
      exact congrArg Word.ofBits (Nat.mod_eq_of_lt bound)
  | pushHalf value =>
      exact follows_push running (room rfl) here rfl (Word.ofSigned16_mod value) rfl fun _ _ => rfl
  | pushFull value =>
      have bound : value.bits < numberBound 4 := value.toUInt32.toNat_lt
      refine follows_push running (room rfl) here rfl ?_ rfl fun _ _ => rfl
      exact (congrArg Word.ofBits (Nat.mod_eq_of_lt bound)).trans (Word.ofBits_bits value)
  | push value =>
      obtain ⟨width, form, stands⟩ := shortestPush_eq value
      exact follows_push running (room rfl) here form stands rfl fun _ _ => rfl
  | literal text => exact follows_literal running (room rfl) straight.1 here
  | xorFactor factor => exact follows_xorFactor running here
  | data address content => exact follows_data running straight here
  | frameBase base => exact follows_frameBase running here
  | _ => exact straight.elim

/-- At the halt instruction the program is over. -/
theorem step_halt
    (running : machine.finished = false)
    (here : machine.ahead = Instruction.halt.byte :: rest) :
    machine.step = (.ok true, { machine.skip 1 with finished := true }) := by
  have known : .halt ∈ Instruction.table.toList := by decide
  obtain ⟨stepped, -⟩ := step_of_ahead running known here
  rw [stepped]
  rfl

/-- A machine that has performed a directive is ready for the directives behind it. -/
theorem ready_of_follows
    {directive : Directive}
    {directives : List Directive}
    (straight : directive.Straight)
    (running : machine.finished = false)
    (follows : Follows directive machine)
    (room :
      machine.stack.toList.length + (directive :: directives).countP Directive.pushes ≤
        machine.stack.capacity)
    (here :
      machine.ahead = Builder.encodeAll machine.xorFactor (directive :: directives) ++ rest) :
    machine.step.1 = .ok false ∧
      Performs directive machine machine.step.2 ∧
      machine.step.2.pc = machine.pc + (Builder.encode machine.xorFactor directive).length ∧
      machine.step.2.finished = false ∧
      machine.step.2.stack.toList.length + directives.countP Directive.pushes ≤
        machine.step.2.stack.capacity ∧
      machine.step.2.ahead =
        Builder.encodeAll (Builder.factorAfter machine.xorFactor directive) directives ++ rest := by
  obtain ⟨stack, values, stepped⟩ := follows
  have stable := stable_of_step running stepped
  rw [stepped]
  refine ⟨rfl, performs_performed straight values, rfl, running, ?_, ?_⟩
  · rw [stable.capacity]
    change stack.toList.length + _ ≤ _
    rw [values, List.length_append, Directive.length_pushed straight]
    rw [List.countP_cons] at room
    omega
  · rw [Builder.encodeAll, List.append_assoc] at here
    exact ahead_skip here

end Steps

/-- A machine with straight directives ahead performs them one step at a time. -/
theorem afterSteps_of_straight
    {machine : Machine}
    {rest : List UInt8}
    {directives : List Directive}
    (straight : ∀ directive ∈ directives, directive.Straight)
    (running : machine.finished = false)
    (room :
      machine.stack.toList.length + directives.countP Directive.pushes ≤ machine.stack.capacity)
    (here : machine.ahead = Builder.encodeAll machine.xorFactor directives ++ rest) :
    (∀ index directive,
        directives[index]? = some directive →
        (machine.afterSteps index).step.1 = .ok false ∧
          Performs directive (machine.afterSteps index) (machine.afterSteps (index + 1)) ∧
          (machine.afterSteps (index + 1)).pc =
            machine.pc +
              (Builder.encodeAll machine.xorFactor (directives.take (index + 1))).length) ∧
      (machine.afterSteps directives.length).finished = false ∧
      (machine.afterSteps directives.length).ahead = rest := by
  -- The machine varies: each step changes the factor and the room that the rest is read under.
  induction directives generalizing machine with
  | nil => exact ⟨nofun, running, here⟩
  | cons first others inductionHypothesis =>
      obtain ⟨firstStraight, othersStraight⟩ := List.forall_mem_cons.mp straight
      have free : first.pushes = true → machine.stack.toList.length < machine.stack.capacity := by
        intro pushes
        rw [List.countP_cons, if_pos pushes] at room
        omega
      have firstAhead := here
      rw [Builder.encodeAll, List.append_assoc] at firstAhead
      have follows := follows_of_straight firstStraight running free firstAhead
      obtain ⟨reported, performs, pc, stillRunning, stillRoom, ahead⟩ :=
        ready_of_follows firstStraight running follows room here
      rw [← performs.xorFactor] at ahead
      obtain ⟨later, lastRunning, lastAhead⟩ :=
        inductionHypothesis othersStraight stillRunning stillRoom ahead
      rw [afterSteps_step] at lastRunning lastAhead
      refine ⟨?_, lastRunning, lastAhead⟩
      intro index directive present
      cases index with
      | zero =>
          cases present
          refine ⟨reported, performs, pc.trans ?_⟩
          rw [List.take_succ_cons, Builder.encodeAll, List.take_zero, Builder.encodeAll,
            List.append_nil]
      | succ earlier =>
          obtain ⟨laterReported, laterPerforms, laterPc⟩ := later earlier directive present
          rw [afterSteps_step] at laterReported laterPerforms laterPc
          rw [afterSteps_step] at laterPerforms
          refine ⟨laterReported, laterPerforms, laterPc.trans ?_⟩
          rw [pc, performs.xorFactor, List.take_succ_cons, Builder.encodeAll, List.length_append,
            Nat.add_assoc]

/-- A machine at the start of a run, with the given bytes to go through. -/
structure Starts
    (bytes : List UInt8)
    (machine : Machine) : Prop where
  running : machine.finished = false
  pc : machine.pc = Image.codeStart
  ahead : machine.ahead = bytes
  xorFactor : machine.xorFactor = 0
  stack : machine.stack.toList = []
  capacity : machine.stack.capacity = DataStack.standardCapacity

/-- The machine with an image of the given bytes behind the header. -/
def withImage
    (machine : Machine)
    (bytes : List UInt8) :
    Machine :=
  { machine with code := Image.header ++ bytes, finished := true }

/-- A prepared machine starts on the bytes behind the header. -/
theorem starts_prepared
    {machine : Machine}
    (capacity : machine.stack.capacity = DataStack.standardCapacity)
    (bytes : List UInt8) :
    Starts bytes (machine.withImage bytes).prepared where
  running := rfl
  pc := rfl
  ahead := by
    change (Image.header ++ bytes).toList.drop Image.codeStart = bytes
    rw [Array.toList_appendList]
    rfl
  xorFactor := rfl
  stack := by
    rw [stack_prepared]
    exact DataStack.toList_clear _
  capacity := by
    rw [stack_prepared, DataStack.capacity_clear]
    exact capacity

/-- Any bytes behind the header make an image that can be loaded and started. -/
theorem exists_starts
    {machine : Machine}
    {bytes : List UInt8}
    (reachable : machine.Reachable)
    (present : bytes ≠ []) :
    ∃ loaded start,
      machine.load (Image.header ++ bytes) = (.ok (), loaded) ∧
        loaded.prepare = (.ok (), start) ∧
        Starts bytes start := by
  have notEmpty : (machine.withImage bytes).code.isEmpty = false := by
    change (Image.header ++ bytes).isEmpty = false
    rw [← Array.isEmpty_toList, Array.toList_appendList]
    rfl
  have starts := starts_prepared reachable.bounded.capacity bytes
  refine ⟨machine.withImage bytes, (machine.withImage bytes).prepared, ?_, ?_, starts⟩
  · unfold load
    rw [Image.check_header_append present]
    rfl
  · rw [prepare_eq, notEmpty]
    rfl

/--
Straight directives and a halt are assembled into an image that a machine
accepts. Each of its steps then performs one directive and goes on at the
position that the builder had behind it, and one more step ends the program.
-/
theorem assembled_performs
    (machine : Machine)
    (reachable : machine.Reachable)
    (directives : List Directive)
    (straight : ∀ directive ∈ directives, directive.Straight)
    (few : directives.countP Directive.pushes ≤ 1024) :
    ∃ image loaded start,
      Builder.assemble (directives ++ [.halt]) = .ok image ∧
        machine.load image = (.ok (), loaded) ∧
        loaded.prepare = (.ok (), start) ∧
        (∀ index directive,
          directives[index]? = some directive →
          (start.afterSteps index).step.1 = .ok false ∧
            Performs directive (start.afterSteps index) (start.afterSteps (index + 1)) ∧
            (start.afterSteps (index + 1)).pc =
              ((directives.take (index + 1)).foldl Builder.add {}).position) ∧
        (start.afterSteps directives.length).step.1 = .ok true ∧
        (start.afterSteps (directives.length + 1)).finished = true := by
  have unnamed : ∀ directive ∈ directives ++ [.halt], directive.namesLabel = false := by
    intro directive member
    rcases List.mem_append.mp member with inside | last
    · exact Directive.namesLabel_of_straight (straight directive inside)
    · cases List.mem_singleton.mp last
      rfl
  have assembled := Builder.assemble_of_unnamed unnamed
  rw [Builder.encodeAll_halt] at assembled
  have present : Builder.encodeAll 0 directives ++ [Instruction.halt.byte] ≠ [] :=
    List.append_ne_nil_of_right_ne_nil _ (List.cons_ne_nil _ _)
  obtain ⟨loaded, start, load, prepare, starts⟩ := exists_starts reachable present
  have room :
      start.stack.toList.length + directives.countP Directive.pushes ≤ start.stack.capacity := by
    rw [starts.stack, starts.capacity, List.length_nil, Nat.zero_add]
    exact few
  have ahead := starts.ahead
  rw [← starts.xorFactor] at ahead
  obtain ⟨performed, running, last⟩ :=
    afterSteps_of_straight straight starts.running room ahead
  have halted := step_halt running last
  refine ⟨_, loaded, start, assembled, load, prepare, ?_, ?_, ?_⟩
  · intro index directive present
    obtain ⟨reported, performs, pc⟩ := performed index directive present
    rw [starts.pc, starts.xorFactor] at pc
    exact ⟨reported, performs, pc.trans (Builder.position_foldl_add _).symm⟩
  · rw [halted]
  · change (start.afterSteps directives.length).step.2.finished = true
    rw [halted]

/-- A program with pushes of all widths, a hidden literal and data that goes around memory. -/
def greeting : List Directive :=
  [.push 255, .push (-32768), .push 32768, .xorFactor 0x5a, .literal [0x48, 0x69],
    .data 0xffff [1, 2], .frameBase 0x2000]

theorem greeting_performed :
    ∃ image loaded start,
      Builder.assemble (greeting ++ [.halt]) = .ok image ∧
        (fresh {} { store := { host := {}, root := [] } } { seconds := 0 } .keep).load image =
          (.ok (), loaded) ∧
        loaded.prepare = (.ok (), start) ∧
        (start.afterSteps 5).ram.byte ((start.afterSteps 4).stringPointer + 1) = 0x69 ∧
        (start.afterSteps 6).ram.byte 0x10000 = 2 ∧
        (start.afterSteps 7).step.1 = .ok true := by
  obtain ⟨image, loaded, start, assembled, load, prepare, performed, last, -⟩ :=
    assembled_performs (fresh {} { store := { host := {}, root := [] } } { seconds := 0 } .keep)
      ⟨_, _, _, _, [], rfl⟩ greeting (by simp [greeting, Directive.Straight]) (by decide)
  refine ⟨image, loaded, start, assembled, load, prepare, ?_, ?_, last⟩
  · exact (performed 4 _ rfl).2.1.stored 1 0x69 rfl
  · exact (performed 5 _ rfl).2.1.stored 1 2 rfl

end Machine

end Handheld
