import Handheld.Proofs.Machine.CodeAhead
import Handheld.Proofs.Memory.TypedAccess

namespace Handheld

/-!
# Addressing

A value in a frame can be reached in several ways: by an index and an offset
from the frame base, by the address that the same index and offset give, through
a pointer to it, and, without an index, by its offset alone or through a pointer
that counts from the frame base. Some of these cut the address down to sixteen
bits before memory is read, others leave it to every byte to go around the
address space. This module shows that all of them name the same bytes.
-/

section Words

/-- A word keeps the low thirty-two bits of a number. -/
@[simp] theorem Word.bits_ofBits (bits : Nat) :
    (Word.ofBits bits).bits = bits % 0x100000000 := by
  simp [Word.ofBits, Word.bits]

/-- Words are added on their bits, around the end. -/
@[simp] theorem Word.bits_add (left right : Word) :
    (left + right).bits = (left.bits + right.bits) % 0x100000000 := by
  simp [Word.bits]

end Words

/-- A width is known by its size. -/
theorem Width.ofSize?_size (width : Width) : Width.ofSize? width.size = some width := by
  cases width with
  | _ => rfl

theorem Width.size_le (width : Width) : width.size ≤ 4 := by
  cases width with
  | _ => decide

namespace Pointer

section Packing

variable (pointer : Pointer)

/-- The offset, the width and the flag do not overlap in the bits of a pointer. -/
theorem bits_encode :
    pointer.encode.bits =
      pointer.offset.toNat + pointer.width.size * 0x10000 + pointer.isLocal.toNat * 0x800000 := by
  have small : pointer.offset.toNat < 0x10000 := pointer.offset.toNat_lt
  have few := pointer.width.size_le
  have flagBound := pointer.isLocal.toNat_le
  have flag :
      (if pointer.isLocal = true then localFlag else 0) = pointer.isLocal.toNat * 0x800000 := by
    cases pointer.isLocal with
    | _ => rfl
  unfold encode
  rw [Word.bits_ofBits, flag]
  omega

/-- The low sixteen bits of an encoded pointer are its offset. -/
theorem offset_encode : UInt16.ofNat pointer.encode.bits = pointer.offset := by
  have small : pointer.offset.toNat < 0x10000 := pointer.offset.toNat_lt
  apply UInt16.toNat_inj.mp
  rw [UInt16.toNat_ofNat', bits_encode]
  omega

/-- Bits sixteen to twenty-two of an encoded pointer are the size of its width. -/
theorem size_encode : pointer.encode.bits / 0x10000 % 0x80 = pointer.width.size := by
  have small : pointer.offset.toNat < 0x10000 := pointer.offset.toNat_lt
  have few := pointer.width.size_le
  rw [bits_encode]
  omega

/-- Bit twenty-three of an encoded pointer tells whether it counts from the frame. -/
theorem flag_encode : pointer.encode.bits / localFlag % 2 = pointer.isLocal.toNat := by
  have small : pointer.offset.toNat < 0x10000 := pointer.offset.toNat_lt
  have few := pointer.width.size_le
  have flagBound := pointer.isLocal.toNat_le
  unfold localFlag
  rw [bits_encode]
  omega

/-- A pointer whose size is that of a width is decoded field by field. -/
theorem decode_of_known
    {raw : Word}
    {width : Width}
    (known : Width.ofSize? (raw.bits / 0x10000 % 0x80) = some width) :
    decode raw = .ok {
      offset := UInt16.ofNat raw.bits
      width := width
      isLocal := raw.bits / localFlag % 2 = 1
    } := by
  unfold decode
  rw [known]

/-- Every pointer is found again in the word that packs it. -/
theorem decode_encode : decode pointer.encode = .ok pointer := by
  have known : Width.ofSize? (pointer.encode.bits / 0x10000 % 0x80) = some pointer.width := by
    rw [size_encode, Width.ofSize?_size]
  have flag : decide (pointer.isLocal.toNat = 1) = pointer.isLocal := by
    cases pointer.isLocal with
    | _ => rfl
  rw [decode_of_known known, offset_encode]
  simp only [flag_encode, flag]

end Packing

/-- A pointer that does not count from the frame base is its offset with the bits of its width. -/
theorem encode_of_global
    {address : Nat}
    (inside : address < 0x10000)
    (width : Width) :
    Word.ofBits address ||| width.tag =
      encode { offset := UInt16.ofNat address, width := width, isLocal := false } := by
  have offset : (UInt16.ofNat address).toNat = address := UInt16.toNat_ofNat_of_lt' inside
  have together : address ||| width.size * 0x10000 = address + width.size * 0x10000 := by
    have sum := Nat.two_pow_add_eq_or_of_lt (i := 16) inside width.size
    rw [Nat.or_comm, Nat.mul_comm, Nat.add_comm]
    exact sum.symm
  unfold encode Width.tag Word.ofBits
  rw [offset]
  apply Int32.toBitVec_inj.mp
  change BitVec.ofNat 32 address ||| BitVec.ofNat 32 (width.size * 0x10000) =
    BitVec.ofNat 32 (address + width.size * 0x10000 + 0)
  rw [← BitVec.ofNat_or, together, Nat.add_zero]

/-- The value behind the pointer that a word packs, in a frame with the given base. -/
def read
    (ram : Ram)
    (base : Nat)
    (raw : Word) :
    Except Fault Word := do
  let pointer ← decode raw
  let address ← pointer.resolve (some base)
  return pointer.width.load ram address

/-- Reading through an encoded pointer loads its width where it resolves. -/
theorem read_encode
    {ram : Ram}
    {base address : Nat}
    {pointer : Pointer}
    (resolved : pointer.resolve (some base) = .ok address) :
    read ram base pointer.encode = .ok (pointer.width.load ram address) := by
  unfold read
  rw [decode_encode]
  change (pointer.resolve (some base) >>= fun address =>
    Except.ok (pointer.width.load ram address)) = _
  rw [resolved]
  rfl

end Pointer

namespace Machine

/-- The address that an index, an offset and a frame base name together. -/
def frameAddress
    (base : Nat)
    (offset : UInt16)
    (index : Word) :
    Nat :=
  ((index.toInt + offset.toNat + base) % 0x10000).toNat

/-- An address relative to the frame lies in the address space. -/
theorem frameAddress_lt
    (base : Nat)
    (offset : UInt16)
    (index : Word) :
    frameAddress base offset index < 0x10000 := by
  unfold frameAddress
  omega

/-- Words that wrap around give the same address as exact numbers. -/
theorem sumAddress_eq
    (base : Nat)
    (offset : UInt16)
    (index : Word) :
    Word.sumAddress index (Word.ofBits offset.toNat + Word.ofBits base) =
      frameAddress base offset index := by
  have low := index.bits_emod
  unfold Word.sumAddress Word.address frameAddress
  rw [Word.bits_add, Word.bits_add, Word.bits_ofBits, Word.bits_ofBits]
  omega

/-- Without an index the address is the frame base and the offset, around the address space. -/
theorem frameAddress_zero
    (base : Nat)
    (offset : UInt16) :
    (offset.toNat + base) % 0x10000 = frameAddress base offset 0 % 0x10000 := by
  have nothing : (0 : Word).toInt = 0 := rfl
  unfold frameAddress
  rw [nothing]
  omega

section Runs

/-- An instruction and the bytes of its operand. -/
structure Coded where
  instruction : Instruction
  operand : List UInt8 := []

/-- The bytes of an instruction with its operand. -/
def Coded.bytes (coded : Coded) : List UInt8 :=
  coded.instruction.byte :: coded.operand

/-- The bytes of instructions one after the other. -/
def codeBytes (program : List Coded) : List UInt8 :=
  program.flatMap Coded.bytes

/-- The machine with another stack and memory, behind the given bytes of code. -/
def moved
    (machine : Machine)
    (bytes : List UInt8)
    (stack : DataStack)
    (ram : Ram) :
    Machine :=
  { machine with
    device := { machine.device with ram := ram }
    pc := machine.pc + bytes.length
    stack := stack }

/-- A running machine with the given memory, frame base, code ahead and values shown. -/
structure Faces
    (ram : Ram)
    (base : Nat)
    (bytes : List UInt8)
    (values : List Word)
    (machine : Machine) : Prop where
  running : machine.finished = false
  ram : machine.ram = ram
  frame : machine.frameBase? = some base
  ahead : ∃ rest, machine.ahead = bytes ++ rest
  shown : machine.stack.toList = values

/-- A stack of the same size that shows the given values. -/
structure Shows
    (before after : DataStack)
    (values : List Word) : Prop where
  values : after.toList = values
  capacity : after.capacity = before.capacity

/--
Instructions that put `result` in the place of `given` on top of any stack with
room for it and turn the memory `ram` into `after`, in every machine with the
frame base. Each of them succeeds, and nothing else changes.
-/
def Computes
    (ram : Ram)
    (base : Nat)
    (program : List Coded)
    (given : List Word)
    (after : Ram)
    (result : List Word) : Prop :=
  ∀ (machine : Machine) (below : List Word),
    Faces ram base (codeBytes program) (below ++ given) machine →
    below.length + result.length ≤ machine.stack.capacity →
    (∀ index < program.length, (machine.afterSteps index).step.1 = .ok false) ∧
      ∃ stack,
        Shows machine.stack stack (below ++ result) ∧
          machine.afterSteps program.length = machine.moved (codeBytes program) stack after

variable
  {ram middle after : Ram}
  {base : Nat}
  {given between result : List Word}

/-- What an instruction does behind its opcode, it does in a step. -/
theorem computes_of_outcome
    {instruction : Instruction}
    {operand : List UInt8}
    (known : instruction ∈ Instruction.table.toList)
    (ends :
      ∀ (machine : Machine) (below : List Word),
        Faces ram base operand (below ++ given) machine →
        below.length + result.length ≤ machine.stack.capacity →
        ∃ stack,
          Shows machine.stack stack (below ++ result) ∧
            machine.outcome (execute instruction) = (.ok (), machine.moved operand stack after)) :
    Computes ram base [⟨instruction, operand⟩] given after result := by
  intro machine below faces room
  obtain ⟨rest, here⟩ := faces.ahead
  have bytes : codeBytes [⟨instruction, operand⟩] = instruction.byte :: operand :=
    List.append_nil _
  rw [bytes, List.cons_append] at here
  obtain ⟨stepped, operandAhead⟩ := step_of_ahead faces.running known here
  have facesOperand : Faces ram base operand (below ++ given) (machine.skip 1) :=
    ⟨faces.running, faces.ram, faces.frame, ⟨rest, operandAhead⟩, faces.shown⟩
  obtain ⟨stack, shows, ended⟩ := ends (machine.skip 1) below facesOperand room
  have behind : (machine.skip 1).moved operand stack after =
      machine.moved (instruction.byte :: operand) stack after := by
    unfold moved skip
    rw [List.length_cons, Nat.add_assoc, Nat.add_comm 1]
  rw [ended, behind] at stepped
  change machine.step = (.ok machine.finished, _) at stepped
  rw [faces.running] at stepped
  refine ⟨?_, stack, shows, ?_⟩
  · intro index first
    obtain rfl : index = 0 := Nat.lt_one_iff.mp first
    change machine.step.1 = _
    rw [stepped]
  · change machine.step.2 = _
    rw [stepped, bytes]

/-- Steps can be taken in two parts. -/
theorem afterSteps_add
    (machine : Machine)
    (first second : Nat) :
    machine.afterSteps (first + second) = (machine.afterSteps first).afterSteps second := by
  induction second with
  | zero => rfl
  | succ earlier inductionHypothesis =>
      change (machine.afterSteps (first + earlier)).step.2 = _
      rw [inductionHypothesis]
      rfl

/-- Instructions follow one another as long as the first ones leave no more than they found. -/
theorem Computes.append
    {first second : List Coded}
    (earlier : Computes ram base first given middle between)
    (later : Computes middle base second between after result)
    (shorter : between.length ≤ given.length) :
    Computes ram base (first ++ second) given after result := by
  intro machine below faces room
  obtain ⟨rest, here⟩ := faces.ahead
  have bytes : codeBytes (first ++ second) = codeBytes first ++ codeBytes second :=
    List.flatMap_append
  rw [bytes, List.append_assoc] at here
  have firstRoom : below.length + between.length ≤ machine.stack.capacity := by
    have bound := machine.stack.length_toList_le
    rw [faces.shown, List.length_append] at bound
    omega
  obtain ⟨firstSteps, firstStack, firstShows, firstEnds⟩ :=
    earlier machine below ⟨faces.running, faces.ram, faces.frame, ⟨_, here⟩, faces.shown⟩ firstRoom
  have secondAhead :
      (machine.moved (codeBytes first) firstStack middle).ahead = codeBytes second ++ rest :=
    ahead_skip here
  obtain ⟨secondSteps, stack, shows, ends⟩ :=
    later (machine.moved (codeBytes first) firstStack middle) below
      ⟨faces.running, rfl, faces.frame, ⟨rest, secondAhead⟩, firstShows.values⟩
      (Nat.le_trans room (Nat.le_of_eq firstShows.capacity.symm))
  refine ⟨?_, stack, ⟨shows.values, shows.capacity.trans firstShows.capacity⟩, ?_⟩
  · intro index inside
    rcases Nat.lt_or_ge index first.length with early | late
    · exact firstSteps index early
    · obtain ⟨offset, rfl⟩ := Nat.exists_eq_add_of_le late
      rw [List.length_append] at inside
      rw [afterSteps_add, firstEnds]
      exact secondSteps offset (Nat.lt_of_add_lt_add_left inside)
  · rw [List.length_append, afterSteps_add, firstEnds, ends, bytes]
    unfold moved
    rw [List.length_append, Nat.add_assoc]

end Runs

section Instructions

variable
  {machine : Machine}
  {ram : Ram}
  {base : Nat}
  {below : List Word}

/-- With room for it, a value is pushed on top of what the stack shows. -/
theorem outcome_push_of_room
    {value : Word}
    (shown : machine.stack.toList = below)
    (room : below.length + 1 ≤ machine.stack.capacity) :
    ∃ stack,
      Shows machine.stack stack (below ++ [value]) ∧
        machine.outcome (push value) = (.ok (), { machine with stack := stack }) := by
  subst shown
  obtain ⟨stack, pushed, values⟩ := DataStack.exists_push room value
  exact ⟨stack, ⟨values, DataStack.capacity_push pushed⟩, outcome_push pushed⟩

/-- The value shown last is taken, and the rest stays. -/
theorem outcome_pop_of_shown
    {value : Word}
    (shown : machine.stack.toList = below ++ [value]) :
    ∃ stack,
      Shows machine.stack stack below ∧
        machine.outcome pop = (.ok value, { machine with stack := stack }) := by
  obtain ⟨stack, popped, values⟩ := DataStack.exists_pop shown
  exact ⟨stack, ⟨values, DataStack.capacity_pop popped⟩, outcome_pop popped⟩

/-- A machine that faces an offset fetches it and moves past its two bytes. -/
theorem outcome_fetchWord
    {offset : UInt16}
    {values : List Word}
    (faces : Faces ram base (littleEndian 2 offset.toNat) values machine) :
    machine.outcome fetchWord = (.ok (Word.ofBits offset.toNat), machine.skip 2) := by
  obtain ⟨rest, here⟩ := faces.ahead
  have fetched := outcome_fetch_of_ahead (by decide) here
  have small : offset.toNat % numberBound 2 = offset.toNat := Nat.mod_eq_of_lt offset.toNat_lt
  rw [small] at fetched
  unfold fetchWord
  rw [outcome_bind_of_ok fetched]
  rfl

/-- Inside a frame the base is at hand and nothing changes. -/
theorem outcome_frameBase (frame : machine.frameBase? = some base) :
    machine.outcome frameBase = (.ok base, machine) := by
  unfold frameBase
  rw [outcome_bind_of_ok (outcome_get machine), frame]
  rfl

/-- An offset, an index and the frame base give their address. -/
theorem outcome_frameIndexedAddress
    {offset : UInt16}
    {index : Word}
    (faces : Faces ram base (littleEndian 2 offset.toNat) (below ++ [index]) machine) :
    ∃ stack,
      Shows machine.stack stack below ∧
        machine.outcome frameIndexedAddress =
          (.ok (frameAddress base offset index), { machine.skip 2 with stack := stack }) := by
  have shown : (machine.skip 2).stack.toList = below ++ [index] := faces.shown
  obtain ⟨stack, shows, popped⟩ := outcome_pop_of_shown shown
  have frame : { machine.skip 2 with stack := stack }.frameBase? = some base := faces.frame
  refine ⟨stack, shows, ?_⟩
  unfold frameIndexedAddress
  rw [outcome_bind_of_ok (outcome_fetchWord faces), outcome_bind_of_ok popped,
    outcome_bind_of_ok (outcome_frameBase frame), outcome_pure, sumAddress_eq]

variable
  {offset : UInt16}
  {index : Word}
  {width : Width}

/-- Every addressing loads in every width. -/
theorem load_known
    (addressing : Addressing)
    (width : Width) :
    .load addressing width ∈ Instruction.table.toList := by
  cases addressing with
  | _ =>
      cases width with
      | _ => decide

/-- Pointers into the frame with an index exist in every width. -/
theorem pointerFrameIndexed_known (width : Width) :
    .pointerFrameIndexed width ∈ Instruction.table.toList := by
  cases width with
  | _ => decide

/-- Behind an operand and what was popped, a value finds room on the stack. -/
theorem outcome_push_behind
    {value : Word}
    {rest : DataStack}
    (count : Nat)
    (popped : Shows machine.stack rest below)
    (room : below.length + 1 ≤ machine.stack.capacity) :
    ∃ stack,
      Shows machine.stack stack (below ++ [value]) ∧
        { machine.skip count with stack := rest }.outcome (push value) =
          (.ok (), { machine.skip count with stack := stack }) := by
  rw [← popped.capacity] at room
  have shown : { machine.skip count with stack := rest }.stack.toList = below := popped.values
  obtain ⟨stack, shows, pushed⟩ := outcome_push_of_room shown room
  exact ⟨stack, ⟨shows.values, shows.capacity.trans popped.capacity⟩, pushed⟩

/-- An instruction that pushes something made of a frame address. -/
theorem computes_frameIndexed
    {instruction : Instruction}
    {value : Nat → Word}
    (known : instruction ∈ Instruction.table.toList)
    (shape : execute instruction = frameIndexedAddress >>= fun address => push (value address)) :
    Computes ram base [⟨instruction, littleEndian 2 offset.toNat⟩] [index] ram
      [value (frameAddress base offset index)] := by
  apply computes_of_outcome known
  intro machine below faces room
  obtain rfl := faces.ram
  obtain ⟨rest, popped, addressed⟩ := outcome_frameIndexedAddress faces
  obtain ⟨stack, shows, pushed⟩ := outcome_push_behind 2 popped room
  refine ⟨stack, shows, ?_⟩
  rw [shape, outcome_bind_of_ok addressed]
  exact pushed

/-- A load pushes the value at the address that it finds. -/
theorem computes_load
    {addressing : Addressing}
    {operand : List UInt8}
    {given : List Word}
    {address : Nat}
    (found :
      ∀ (machine : Machine) (below : List Word),
        Faces ram base operand (below ++ given) machine →
        ∃ rest,
          Shows machine.stack rest below ∧
            machine.outcome (loadAddress addressing) =
              (.ok address, { machine.skip operand.length with stack := rest })) :
    Computes ram base [⟨.load addressing width, operand⟩] given ram [width.load ram address] := by
  apply computes_of_outcome (load_known addressing width)
  intro machine below faces room
  obtain rfl := faces.ram
  obtain ⟨rest, popped, addressed⟩ := found machine below faces
  obtain ⟨stack, shows, pushed⟩ := outcome_push_behind operand.length popped room
  refine ⟨stack, shows, ?_⟩
  change machine.outcome (loadAddress addressing >>= fun address =>
    inRam (width.load · address) >>= push) = _
  rw [outcome_bind_of_ok addressed, outcome_bind_of_ok (outcome_inRam _ _)]
  exact pushed

/-- Loading by the address alone gives the value there. -/
theorem computes_load_indexed
    {address : Nat}
    (inside : address < 0x10000) :
    Computes ram base [⟨.load .indexed width, littleEndian 2 0⟩] [Word.ofBits address] ram
      [width.load ram address] := by
  apply computes_load
  intro machine below faces
  obtain ⟨rest, popped, ends⟩ := outcome_pop_of_shown faces.shown
  have operand :
      Faces ram base (littleEndian 2 (0 : UInt16).toNat) below { machine with stack := rest } :=
    ⟨faces.running, faces.ram, faces.frame, faces.ahead, popped.values⟩
  have sum : Word.sumAddress (Word.ofBits address) (Word.ofBits (0 : UInt16).toNat) = address := by
    unfold Word.sumAddress Word.address
    rw [Word.bits_add, Word.bits_ofBits, Word.bits_ofBits, UInt16.toNat_zero]
    omega
  refine ⟨rest, popped, ?_⟩
  change machine.outcome indexedAddress = _
  unfold indexedAddress
  rw [outcome_bind_of_ok ends, outcome_bind_of_ok (outcome_fetchWord operand), outcome_pure, sum]
  rfl

/-- Loading without an index gives the value at the offset from the frame base. -/
theorem computes_load_frame :
    Computes ram base [⟨.load .frame width, littleEndian 2 offset.toNat⟩] [] ram
      [width.load ram (offset.toNat + base)] := by
  apply computes_load
  intro machine below faces
  obtain ⟨rest, here⟩ := faces.ahead
  have fetched := outcome_fetch_of_ahead (by decide) here
  have small : offset.toNat % numberBound 2 = offset.toNat := Nat.mod_eq_of_lt offset.toNat_lt
  have frame : (machine.skip 2).frameBase? = some base := faces.frame
  have shown := faces.shown
  rw [List.append_nil] at shown
  rw [small] at fetched
  refine ⟨machine.stack, ⟨shown, rfl⟩, ?_⟩
  change machine.outcome (fetch 2 >>= fun offset =>
    frameBase >>= fun base => pure (offset + base)) = _
  rw [outcome_bind_of_ok fetched, outcome_bind_of_ok (outcome_frameBase frame), outcome_pure]
  rfl

/-- A pointer on top of the stack is taken with the address that it names. -/
theorem outcome_popPointer
    {pointer : Pointer}
    {address : Nat}
    (shown : machine.stack.toList = below ++ [pointer.encode])
    (frame : machine.frameBase? = some base)
    (resolved : pointer.resolve (some base) = .ok address) :
    ∃ stack,
      Shows machine.stack stack below ∧
        machine.outcome popPointer = (.ok (pointer, address), { machine with stack := stack }) := by
  obtain ⟨stack, popped, ends⟩ := outcome_pop_of_shown shown
  have sameFrame : { machine with stack := stack }.frameBase? = some base := frame
  refine ⟨stack, popped, ?_⟩
  unfold popPointer
  rw [outcome_bind_of_ok ends, Pointer.decode_encode, outcome_bind_of_ok (outcome_check _ _),
    outcome_bind_of_ok (outcome_get _), sameFrame, resolved,
    outcome_bind_of_ok (outcome_check _ _), outcome_pure]

/-- Storing through a pointer changes the bytes that it names. -/
theorem computes_store
    {pointer : Pointer}
    {address : Nat}
    {value : Word}
    (resolved : pointer.resolve (some base) = .ok address) :
    Computes ram base [⟨.store, []⟩] [pointer.encode, value]
      (pointer.width.store ram address value) [value] := by
  apply computes_of_outcome (by decide)
  intro machine below faces room
  obtain rfl := faces.ram
  have shown : machine.stack.toList = (below ++ [pointer.encode]) ++ [value] := by
    rw [faces.shown, List.append_assoc]
    rfl
  obtain ⟨first, firstPopped, firstEnds⟩ := outcome_pop_of_shown shown
  have pointerShown :
      { machine with stack := first }.stack.toList = below ++ [pointer.encode] :=
    firstPopped.values
  obtain ⟨rest, popped, ends⟩ := outcome_popPointer pointerShown faces.frame resolved
  have capacity : rest.capacity = machine.stack.capacity :=
    popped.capacity.trans firstPopped.capacity
  let stored : Machine := { machine with
    stack := rest
    device := { machine.device with ram := pointer.width.store machine.ram address value } }
  have storedShown : stored.stack.toList = below := popped.values
  have storedRoom : below.length + 1 ≤ stored.stack.capacity :=
    Nat.le_trans room (Nat.le_of_eq capacity.symm)
  obtain ⟨stack, shows, pushed⟩ := outcome_push_of_room storedShown storedRoom
  refine ⟨stack, ⟨shows.values, shows.capacity.trans capacity⟩, ?_⟩
  change machine.outcome (pop >>= fun value => popPointer >>= fun target =>
    onRam (target.1.width.store · target.2 value) >>= fun _ => push value) = _
  rw [outcome_bind_of_ok firstEnds, outcome_bind_of_ok ends]
  dsimp only
  rw [outcome_bind_of_ok (outcome_onRam _ _)]
  exact pushed

/-- Stepping through a pointer reads the value behind it and stores the next one. -/
theorem computes_stepPointer
    {pointer : Pointer}
    {address : Nat}
    {stepping : Stepping}
    (resolved : pointer.resolve (some base) = .ok address) :
    Computes ram base [⟨.stepPointer stepping, []⟩] [pointer.encode]
      (pointer.width.store ram address (stepped stepping (pointer.width.load ram address)).2)
      [(stepped stepping (pointer.width.load ram address)).1] := by
  have known : .stepPointer stepping ∈ Instruction.table.toList := by
    cases stepping with
    | _ => decide
  apply computes_of_outcome known
  intro machine below faces room
  obtain rfl := faces.ram
  obtain ⟨rest, popped, ends⟩ := outcome_popPointer faces.shown faces.frame resolved
  obtain ⟨stack, shows, pushed⟩ := outcome_push_behind 0 popped room
  refine ⟨stack, shows, ?_⟩
  change machine.outcome (popPointer >>= fun target =>
    inRam (target.1.width.load · target.2) >>= fun value =>
      push (stepped stepping value).1 >>= fun _ =>
        onRam (target.1.width.store · target.2 (stepped stepping value).2)) = _
  rw [outcome_bind_of_ok ends]
  dsimp only
  rw [outcome_bind_of_ok (outcome_inRam _ _)]
  exact (outcome_bind_of_ok pushed _).trans (outcome_onRam _ _)

end Instructions

section Forms

/-- The pointer to the value of a frame that an offset and an index name. -/
def framePointer
    (base : Nat)
    (offset : UInt16)
    (index : Word)
    (width : Width) :
    Pointer where
  offset := UInt16.ofNat (frameAddress base offset index)
  width := width
  isLocal := false

/-- The pointer to the value at an offset from whatever the frame base is. -/
def localPointer
    (offset : UInt16)
    (width : Width) :
    Pointer where
  offset := offset
  width := width
  isLocal := true

/--
What reading through a pointer to an address gives: the value behind it, which
the instructions that step a value through a pointer start from.
-/
structure ReadsThrough
    (ram : Ram)
    (base : Nat)
    (pointer : Pointer)
    (address : Nat)
    (value : Word) : Prop where
  read : Pointer.read ram base pointer.encode = .ok value
  steps :
    ∀ stepping,
      Computes ram base [⟨.stepPointer stepping, []⟩] [pointer.encode]
        (pointer.width.store ram address (stepped stepping value).2)
        [(stepped stepping value).1]

/-- All ways to read what an offset and an index name in a frame give one value. -/
structure Reads
    (ram : Ram)
    (base : Nat)
    (offset : UInt16)
    (index : Word)
    (width : Width)
    (value : Word) : Prop where
  indexed :
    Computes ram base [⟨.load .frameIndexed width, littleEndian 2 offset.toNat⟩]
      [index] ram [value]
  byAddress :
    Computes ram base
      [⟨.addressFrameIndexed, littleEndian 2 offset.toNat⟩,
        ⟨.load .indexed width, littleEndian 2 0⟩]
      [index] ram [value]
  pointer :
    Computes ram base [⟨.pointerFrameIndexed width, littleEndian 2 offset.toNat⟩]
      [index] ram [(framePointer base offset index width).encode]
  decoded :
    Pointer.decode (framePointer base offset index width).encode =
      .ok (framePointer base offset index width)
  throughPointer :
    ReadsThrough ram base (framePointer base offset index width)
      (frameAddress base offset index) value
  unindexed :
    index = 0 →
    Computes ram base [⟨.load .frame width, littleEndian 2 offset.toNat⟩] [] ram [value]
  throughLocal :
    index = 0 →
    ReadsThrough ram base (localPointer offset width) (frameAddress base offset index) value

/-- What a pointer resolves to can be named by any address of the same cell. -/
theorem readsThrough_of_resolve
    {base address target : Nat}
    {pointer : Pointer}
    (ram : Ram)
    (resolved : pointer.resolve (some base) = .ok address)
    (same : address % 0x10000 = target % 0x10000) :
    ReadsThrough ram base pointer target (pointer.width.load ram target) where
  read := by
    rw [Pointer.read_encode resolved, pointer.width.load_congr ram same]
  steps := by
    intro stepping
    have steps :
        Computes ram base [⟨.stepPointer stepping, []⟩] [pointer.encode]
          (pointer.width.store ram address (stepped stepping (pointer.width.load ram address)).2)
          [(stepped stepping (pointer.width.load ram address)).1] :=
      computes_stepPointer resolved
    rwa [pointer.width.load_congr ram same, pointer.width.store_congr ram _ same] at steps

variable
  (ram : Ram)
  (base : Nat)
  (offset : UInt16)
  (index : Word)
  (width : Width)

/-- A pointer to an indexed place of the frame resolves to that place. -/
theorem resolve_framePointer :
    (framePointer base offset index width).resolve (some base) =
      .ok (frameAddress base offset index) := by
  have small := UInt16.toNat_ofNat_of_lt' (frameAddress_lt base offset index)
  exact congrArg Except.ok small

/-- A pointer that counts from the frame resolves to offset plus base. -/
theorem resolve_localPointer :
    (localPointer offset width).resolve (some base) = .ok (offset.toNat + base) :=
  rfl

/-- Every way to read gives the value at the address in memory. -/
theorem reads :
    Reads ram base offset index width (width.load ram (frameAddress base offset index)) where
  indexed := computes_load fun _ _ faces => outcome_frameIndexedAddress faces
  byAddress := by
    have address :
        Computes ram base [⟨.addressFrameIndexed, littleEndian 2 offset.toNat⟩] [index] ram
          [Word.ofBits (frameAddress base offset index)] :=
      computes_frameIndexed (by decide) rfl
    exact address.append (computes_load_indexed (frameAddress_lt base offset index)) (Nat.le_refl 1)
  pointer := by
    have pushed :
        Computes ram base [⟨.pointerFrameIndexed width, littleEndian 2 offset.toNat⟩] [index] ram
          [Word.ofBits (frameAddress base offset index) ||| width.tag] :=
      computes_frameIndexed (pointerFrameIndexed_known width) rfl
    rwa [Pointer.encode_of_global (frameAddress_lt base offset index)] at pushed
  decoded := Pointer.decode_encode _
  throughPointer :=
    readsThrough_of_resolve ram (resolve_framePointer base offset index width) rfl
  unindexed := by
    rintro rfl
    rw [← width.load_congr ram (frameAddress_zero base offset)]
    exact computes_load_frame
  throughLocal := by
    rintro rfl
    exact readsThrough_of_resolve ram (resolve_localPointer base offset width)
      (frameAddress_zero base offset)

/--
All ways to address a value of a frame name the same bytes.

Whatever is in memory and wherever the frame lies, loading by an index, loading
by the address, and reading through a pointer made of them give the same value,
and so do loading without an index and reading through a local pointer when the
index is zero. A word stored through either pointer is read back in every way as
far as the width holds it, also where the value goes around the address space.
-/
theorem addressing_forms_agree :
    Reads ram base offset index width (width.load ram (frameAddress base offset index)) ∧
      ∀ value,
        let after := width.store ram (frameAddress base offset index) value
        Computes ram base [⟨.store, []⟩]
            [(framePointer base offset index width).encode, value] after [value] ∧
          (index = 0 →
            Computes ram base [⟨.store, []⟩]
              [(localPointer offset width).encode, value] after [value]) ∧
          Reads after base offset index width (width.narrow value) := by
  refine ⟨reads ram base offset index width, ?_⟩
  intro value
  refine ⟨computes_store (resolve_framePointer base offset index width), ?_, ?_⟩
  · rintro rfl
    rw [← width.store_congr ram value (frameAddress_zero base offset)]
    exact computes_store (resolve_localPointer base offset width)
  · rw [← width.load_store ram (frameAddress base offset index) value]
    exact reads _ base offset index width

end Forms

/-- A machine about to load two bytes, the last one of memory and the first one, as a value. -/
def straddling : Machine where
  device := { ram := Width.half.store Ram.blank 0xffff 0x1fffe }
  files := { store := { host := {}, root := [] } }
  code := #[Instruction.byte (.load .frameIndexed .half), 0xf, 0]
  pc := 0
  stack := { slots := #[-0x10000], top := 1, top_le := Nat.le_refl 1 }
  frames := some { base := 0xfff0, finish := 0xfff0, initial := 0xfff0 }
  finished := false

theorem straddling_loaded :
    straddling.step.1 = .ok false ∧ straddling.step.2.stack.toList = [-2] := by
  obtain ⟨-, -, read⟩ :=
    (addressing_forms_agree Ram.blank 0xfff0 0xf (-0x10000) .half).2 0x1fffe
  have faces :
      Faces straddling.ram 0xfff0
        (codeBytes [⟨.load .frameIndexed .half, littleEndian 2 (0xf : UInt16).toNat⟩])
        [-0x10000] straddling :=
    ⟨rfl, rfl, rfl, ⟨[], rfl⟩, rfl⟩
  obtain ⟨steps, stack, shows, ends⟩ := read.indexed straddling [] faces (Nat.le_refl 1)
  refine ⟨steps 0 Nat.zero_lt_one, ?_⟩
  have after : straddling.step.2.stack = stack := congrArg Machine.stack ends
  rw [after]
  exact shows.values.trans (by decide)

end Machine

end Handheld
