import Handheld.Proofs.Machine.Step

namespace Handheld

/-!
# Bounds of reachable machines

A host drives a machine by loading images, preparing runs, making steps and
cleaning up, in any order. Between its calls keys may be pressed, files of the
host may change and time may pass. Whatever is done, the data stack keeps within
its slots, and a machine that is not over has its string pointer, frame pointers
and program counter where the rest of the machine relies on them to be.
-/

/-- A call of the host, or a change that happens outside of the machine. -/
inductive HostCall where
  | load (image : Array UInt8)
  | prepare
  | step
  | cleanUp
  /-- Memory, screen, keys, files or the clock change between two calls. -/
  | outside (device : Device) (files : HandleTable) (clock : Clock)

namespace Machine

/-- A machine before its first call. -/
def fresh
    (device : Device)
    (files : HandleTable)
    (clock : Clock)
    (policy : RamPolicy) :
    Machine :=
  { device := device, files := files, clock := clock, ramPolicy := policy }

/-- The machine after a call. -/
def respond
    (machine : Machine) :
    HostCall → Machine
  | .load image => (machine.load image).2
  | .prepare => machine.prepare.2
  | .step => machine.step.2
  | .cleanUp => machine.cleanUp
  | .outside device files clock =>
      { machine with device := device, files := files, clock := clock }

/-- A machine that some sequence of calls leads to. -/
def Reachable (machine : Machine) : Prop :=
  ∃ device files clock policy calls,
    machine = List.foldl respond (fresh device files clock policy) calls

/-- What holds of new machines and is kept by every call holds of all reachable machines. -/
theorem Reachable.invariant
    {property : Machine → Prop}
    (initial : ∀ device files clock policy, property (fresh device files clock policy))
    (kept : ∀ machine call, property machine → property (respond machine call))
    {machine : Machine}
    (reachable : machine.Reachable) :
    property machine := by
  obtain ⟨device, files, clock, policy, calls, rfl⟩ := reachable
  have start := initial device files clock policy
  generalize fresh device files clock policy = first at start ⊢
  induction calls generalizing first with
  | nil => exact start
  | cons call rest inductionHypothesis =>
      exact inductionHypothesis (respond first call) (kept first call start)

/-- Where a running machine keeps its pointers. -/
structure Placed (machine : Machine) : Prop where
  stringPointer_ge : stringRegion ≤ machine.stringPointer
  stringPointer_lt : machine.stringPointer < stringRegionTurn
  frames :
    ∀ frames,
      machine.frames = some frames →
      frames.base ≤ 0xffff ∧ frames.finish ≤ 0xffff
  pc : machine.pc ≤ machine.reach

/-- A steady machine keeps its pointers where they were. -/
theorem Placed.of_steady
    {before after : Machine}
    (placed : Placed before)
    (steady : Steady before after) :
    Placed after where
  stringPointer_ge := by
    rw [steady.stringPointer]
    exact placed.stringPointer_ge
  stringPointer_lt := by
    rw [steady.stringPointer]
    exact placed.stringPointer_lt
  frames := by
    rw [steady.frames]
    exact placed.frames
  pc := by
    have sameReach : after.reach = before.reach := by
      unfold reach
      rw [steady.code]
    rw [sameReach]
    rcases steady.pc with same | near
    · rw [same]
      exact placed.pc
    · exact near

/-- The next literal goes into the first three quarters of its region. -/
theorem nextLiteral_bounds
    {stop : Nat}
    (above : stringRegion ≤ stop) :
    stringRegion ≤ nextLiteral stop ∧ nextLiteral stop < stringRegionTurn := by
  unfold nextLiteral
  split
  · exact ⟨Nat.le_refl _, by decide⟩
  · rename_i before
    exact ⟨above, Nat.lt_of_not_le before⟩

/-- The NUL of a literal lies in the code, as far behind its start as the literal is long. -/
theorem literalBytes_lt_size
    {code : Array UInt8}
    {factor : UInt8}
    {index : Nat}
    {before found : Array UInt8}
    (read : literalBytes code factor index before = (found, true)) :
    index + found.size < code.size + before.size := by
  fun_induction literalBytes code factor index before with
  | case1 index before inside byte isNul =>
      cases read
      exact Nat.add_lt_add_right inside _
  | case2 index before inside byte notNul inductionHypothesis =>
      have bound := inductionHypothesis read
      rw [Array.size_push] at bound
      omega
  | case3 index before outside => cases read

/-- The string pointer stays in its area when a literal is pushed. -/
theorem placed_pushLiteral
    {machine after : Machine}
    (placed : Placed machine)
    (ends : machine.outcome pushLiteral = (.ok (), after)) :
    Placed after := by
  obtain ⟨stack, found, -, read, rfl⟩ := eq_of_outcome_pushLiteral ends
  have above : stringRegion ≤ machine.stringPointer + (found.size + 1) :=
    Nat.le_trans placed.stringPointer_ge (Nat.le_add_right _ _)
  have inside := literalBytes_lt_size read
  refine ⟨(nextLiteral_bounds above).1, (nextLiteral_bounds above).2, placed.frames, ?_⟩
  change machine.pc + (found.toList ++ [0]).length ≤ max machine.code.size 0xffffff
  rw [List.length_append, Array.length_toList, List.length_singleton]
  exact Nat.le_trans inside (Nat.le_max_left _ _)

/-- A frame base comes from sixteen bits of the code. -/
theorem placed_setFrameBase
    {machine after : Machine}
    (placed : Placed machine)
    (ends : machine.outcome (execute .setFrameBase) = (.ok (), after)) :
    Placed after := by
  obtain ⟨inside, rfl⟩ := eq_of_outcome_setFrameBase ends
  refine ⟨placed.stringPointer_ge, placed.stringPointer_lt, ?_, ?_⟩
  · intro frames current
    cases current
    have bound := Nat.le_of_lt_succ (codeNumber_lt machine.code 2 machine.pc)
    exact ⟨bound, bound⟩
  · exact Nat.le_trans inside (Nat.le_max_left _ _)

/-- A frame that is entered ends in the address space. -/
theorem placed_enter
    {machine after : Machine}
    (placed : Placed machine)
    (ends : machine.outcome (execute .enter) = (.ok (), after)) :
    Placed after := by
  obtain ⟨frames, rest, values, inside, current, fits, -, rfl⟩ := eq_of_outcome_enter ends
  refine ⟨placed.stringPointer_ge, placed.stringPointer_lt, ?_, ?_⟩
  · intro opened same
    cases same
    exact ⟨(placed.frames frames current).2, Nat.le_trans fits (by decide)⟩
  · exact Nat.le_trans inside (Nat.le_max_left _ _)

/-- Whatever a program wrote over the header of a frame, leaving it stays in bounds. -/
theorem placed_leave
    {machine after : Machine}
    (placed : Placed machine)
    (ends : machine.outcome (execute .leave) = (.ok (), after)) :
    Placed after := by
  obtain ⟨frames, current, rfl⟩ := eq_of_outcome_leave ends
  refine ⟨placed.stringPointer_ge, placed.stringPointer_lt, ?_, ?_⟩
  · intro closed same
    cases same
    -- The base comes out of memory that programs can write, but two bytes hold no more.
    have bound := Nat.le_of_lt_succ (machine.ram.number_lt 2 (frames.base + 3))
    exact ⟨bound, (placed.frames frames current).1⟩
  · have bound := Nat.le_of_lt_succ (machine.ram.number_lt 3 frames.base)
    exact Nat.le_trans bound (Nat.le_max_right _ _)

/-- An opcode that meets no fault leaves the pointers in their places. -/
theorem placed_action
    {machine after : Machine}
    {opcode : Opcode}
    (placed : Placed machine)
    (ends : machine.outcome opcode.action = (.ok (), after)) :
    Placed after := by
  cases opcode with
  | builtin function => exact placed.of_steady ((calm_call function).of_outcome ends)
  | general instruction =>
      by_cases literal : instruction = .pushLiteral
      · subst literal
        exact placed_pushLiteral placed ends
      rcases moves : instruction.movesFrames with _ | _
      · exact placed.of_steady ((calm_execute moves literal).of_outcome ends)
      · cases instruction with
        | setFrameBase => exact placed_setFrameBase placed ends
        | enter => exact placed_enter placed ends
        | leave => exact placed_leave placed ends
        | _ => cases moves

/-- The byte of an opcode lies in the code. -/
theorem pc_lt_of_opcode
    {machine : Machine}
    {opcode : Opcode}
    (current : machine.opcode? = some opcode) :
    machine.pc < machine.code.size := by
  obtain ⟨byte, here, -⟩ := Option.bind_eq_some_iff.mp current
  obtain ⟨inside, -⟩ := Array.getElem?_eq_some_iff.mp here
  exact inside

/-- Behind an opcode the counter is in the code or at its end. -/
theorem placed_skip
    {machine : Machine}
    {opcode : Opcode}
    (placed : Placed machine)
    (current : machine.opcode? = some opcode) :
    Placed (machine.skip 1) := by
  have inside := pc_lt_of_opcode current
  exact placed.of_steady (.withPc (Nat.le_trans inside (Nat.le_max_left _ _)))

/-- The bounds that every call of the host keeps. -/
structure Bounded (machine : Machine) : Prop where
  capacity : machine.stack.capacity = DataStack.standardCapacity
  placed : machine.finished = false → Placed machine

/-- What holds the machine steady keeps its bounds. -/
theorem Bounded.of_steady
    {before after : Machine}
    (bounded : Bounded before)
    (steady : Steady before after)
    (sameEnd : after.finished = before.finished) :
    Bounded after where
  capacity := steady.capacity.trans bounded.capacity
  placed := by
    intro running
    rw [sameEnd] at running
    exact (bounded.placed running).of_steady steady

/-- A new machine is in bounds. -/
theorem bounded_fresh
    (device : Device)
    (files : HandleTable)
    (clock : Clock)
    (policy : RamPolicy) :
    Bounded (fresh device files clock policy) where
  capacity := by simp [fresh, DataStack.capacity, DataStack.empty]
  placed := nofun

/-- Loading an image, accepted or not, keeps the bounds. -/
theorem bounded_load
    {machine : Machine}
    (bounded : Bounded machine)
    (image : Array UInt8) :
    Bounded (machine.load image).2 := by
  unfold load
  split
  · exact ⟨bounded.capacity, nofun⟩
  · exact bounded

/-- The machine made ready for a run. -/
def prepared (machine : Machine) : Machine :=
  { machine with
    device := preparedDevice machine.ramPolicy machine.device
    files := machine.files.reset
    pc := Image.codeStart
    stack := machine.stack.clear
    frames := none
    stringPointer := stringRegion
    xorFactor := 0
    finished := false }

/-- Preparing fails only when there is no code. -/
theorem prepare_eq (machine : Machine) :
    machine.prepare =
      if machine.code.isEmpty then (.error .noCode, machine) else (.ok (), machine.prepared) :=
  rfl

/-- Preparing clears the stack. -/
theorem stack_prepared (machine : Machine) : machine.prepared.stack = machine.stack.clear :=
  rfl

/-- A prepared machine stands behind the header, with no frames. -/
theorem placed_prepared (machine : Machine) : Placed machine.prepared where
  stringPointer_ge := Nat.le_refl _
  stringPointer_lt := by
    have turn : stringRegion < stringRegionTurn := by decide
    exact turn
  frames := nofun
  pc := by
    have near : Image.codeStart ≤ 0xffffff := by decide
    exact Nat.le_trans near (Nat.le_max_right _ _)

/-- Preparing keeps the bounds. -/
theorem bounded_prepare
    {machine : Machine}
    (bounded : Bounded machine) :
    Bounded machine.prepare.2 := by
  have sameSlots : machine.prepared.stack.capacity = machine.stack.capacity := by
    rw [stack_prepared, DataStack.capacity_clear]
  rw [prepare_eq]
  split
  · exact bounded
  · exact ⟨sameSlots.trans bounded.capacity, fun _ => placed_prepared machine⟩

/-- A step keeps the bounds: one that fails ends the program. -/
theorem bounded_step
    {machine : Machine}
    (bounded : Bounded machine) :
    Bounded machine.step.2 := by
  rcases running : machine.finished with _ | _
  · rcases current : machine.opcode? with _ | opcode
    · obtain ⟨fault, pc, stepped⟩ := step_of_no_opcode running current
      rw [stepped]
      exact ⟨bounded.capacity, nofun⟩
    · have placed : Placed (machine.skip 1) := placed_skip (bounded.placed running) current
      rw [step_of_opcode running current]
      rcases ends : (machine.skip 1).outcome opcode.action with ⟨fault | _, after⟩
      · have stable := (stable_action opcode).of_outcome ends
        exact ⟨stable.capacity.trans bounded.capacity, nofun⟩
      · have stable := (stable_action opcode).of_outcome ends
        exact ⟨stable.capacity.trans bounded.capacity, fun _ => placed_action placed ends⟩
  · unfold step
    rw [if_pos running]
    exact bounded

/-- Every reachable machine keeps within its bounds. -/
theorem Reachable.bounded
    {machine : Machine}
    (reachable : machine.Reachable) :
    Bounded machine := by
  refine Reachable.invariant bounded_fresh ?_ reachable
  intro before call bounded
  cases call with
  | load image => exact bounded_load bounded image
  | prepare => exact bounded_prepare bounded
  | step => exact bounded_step bounded
  | cleanUp => exact bounded.of_steady ⟨rfl, rfl, rfl, rfl, .inl rfl⟩ rfl
  | outside device files clock =>
      exact bounded.of_steady ⟨rfl, rfl, rfl, rfl, .inl rfl⟩ rfl

/-- A literal of at most 256 bytes is stored in its region. -/
theorem byte_step_pushLiteral
    {machine : Machine}
    {address : Nat}
    (placed : Placed machine)
    (running : machine.finished = false)
    (current : machine.opcode? = some (.general .pushLiteral))
    (short :
      (literalBytes machine.code machine.xorFactor (machine.pc + 1) #[]).1.size ≤ 256)
    (inside : address < 0x10000)
    (outside : address < 0x1000 ∨ 0x1400 ≤ address) :
    machine.step.2.ram.byte address = machine.ram.byte address := by
  have above : 0x1000 ≤ machine.stringPointer := placed.stringPointer_ge
  have below : machine.stringPointer < 0x1300 := placed.stringPointer_lt
  have kept (text : List UInt8) (brief : text.length ≤ 257) :
      (machine.ram.write machine.stringPointer text).byte address = machine.ram.byte address := by
    apply Ram.byte_write_of_outside inside
    · unfold Ram.capacity
      omega
    · omega
  rw [step_of_opcode running current]
  change (conclude ((machine.skip 1).outcome pushLiteral)).2.ram.byte address = _
  rcases pushed :
      (machine.skip 1).stack.push (Word.ofBits (machine.skip 1).stringPointer) with fault | stack
  · rw [outcome_pushLiteral_of_error pushed]
    rfl
  · rw [outcome_pushLiteral pushed]
    rcases read :
        literalBytes (machine.skip 1).code (machine.skip 1).xorFactor (machine.skip 1).pc #[]
      with ⟨found, ended⟩
    change literalBytes machine.code machine.xorFactor (machine.pc + 1) #[] = _ at read
    rw [read] at short
    cases ended with
    | false =>
        refine kept found.toList ?_
        rw [Array.length_toList]
        exact Nat.le_succ_of_le short
    | true =>
        refine kept (found.toList ++ [0]) ?_
        rw [List.length_append, Array.length_toList]
        exact Nat.succ_le_succ short

/-- The base of the caller that entering a frame stores is read back in full. -/
theorem number_step_enter
    {machine : Machine}
    {frames : Frames}
    (placed : Placed machine)
    (running : machine.finished = false)
    (current : machine.opcode? = some (.general .enter))
    (inside : machine.pc + 4 ≤ machine.code.size)
    (present : machine.frames = some frames) :
    machine.step.2.ram.number 2 (frames.finish + 3) = frames.base := by
  have bound := (placed.frames frames present).1
  have stored :
      (machine.ram.setNumber 2 (frames.finish + 3) frames.base).number 2 (frames.finish + 3) =
        frames.base := by
    rw [Ram.number_setNumber (by decide)]
    exact Nat.mod_eq_of_lt (Nat.lt_succ_of_le bound)
  have sizeInside : (machine.skip 1).pc + 2 ≤ (machine.skip 1).code.size := by
    change machine.pc + 1 + 2 ≤ machine.code.size
    omega
  have countInside : ((machine.skip 1).skip 2).pc + 1 ≤ ((machine.skip 1).skip 2).code.size := by
    change machine.pc + 1 + 2 + 1 ≤ machine.code.size
    omega
  have stillPresent : (((machine.skip 1).skip 2).skip 1).frames = some frames := present
  rw [step_of_opcode running current]
  change (conclude ((machine.skip 1).outcome (execute .enter))).2.ram.number 2 _ = _
  unfold execute
  rw [outcome_bind_of_ok (outcome_fetch sizeInside), outcome_bind_of_ok (outcome_fetch countInside),
    outcome_enterFrame stillPresent]
  split
  · exact stored
  · rename_i fits
    have room := Nat.le_of_not_lt fits
    split
    · exact stored
    · rename_i values rest taken
      have few := codeNumber_lt ((machine.skip 1).skip 2).code 1 ((machine.skip 1).skip 2).pc
      change _ < 256 at few
      change _ ≤ 0x7000 at room
      refine Eq.trans (number_storeWords_of_le ?_ ?_) stored
      · rw [Vector.length_toList]
        unfold Ram.capacity frameHeaderSize
        omega
      · exact Nat.le_refl _

/--
The data stack of a reachable machine keeps within its slots. While the machine
runs, its pointers are in bounds, a literal of at most 256 bytes stays in its
region, and the base that entering a frame stores is not cut short.
-/
theorem reachable_bounds
    (machine : Machine)
    (reachable : machine.Reachable) :
    machine.stack.toList.length ≤ 1024 ∧
      (machine.finished = false →
        (0x1000 ≤ machine.stringPointer ∧ machine.stringPointer < 0x1300) ∧
        (∀ frames,
          machine.frames = some frames →
          frames.base ≤ 0xffff ∧ frames.finish ≤ 0xffff) ∧
        machine.pc ≤ max machine.code.size 0xffffff ∧
        (machine.opcode? = some (.general .pushLiteral) →
          (literalBytes machine.code machine.xorFactor (machine.pc + 1) #[]).1.size ≤ 256 →
          ∀ address,
            address < 0x10000 →
            address < 0x1000 ∨ 0x1400 ≤ address →
            machine.step.2.ram.byte address = machine.ram.byte address) ∧
        (machine.opcode? = some (.general .enter) →
          machine.pc + 4 ≤ machine.code.size →
          ∀ frames,
            machine.frames = some frames →
            machine.step.2.ram.number 2 (frames.finish + 3) = frames.base)) := by
  have bounded := reachable.bounded
  refine ⟨?_, ?_⟩
  · have slots : machine.stack.slots.size = 1024 := bounded.capacity
    rw [DataStack.length_toList, ← slots]
    exact machine.stack.top_le
  · intro running
    have placed := bounded.placed running
    refine ⟨⟨placed.stringPointer_ge, placed.stringPointer_lt⟩, placed.frames, placed.pc, ?_, ?_⟩
    · intro current short address inside outside
      exact byte_step_pushLiteral placed running current short inside outside
    · intro current inside frames present
      exact number_step_enter placed running current inside present

/-- A program about to enter a frame that takes one argument. -/
def entering : Machine :=
  List.foldl respond
    (fresh {} { store := { host := {}, root := [] } } { seconds := 0 } .keep)
    [.load (Image.header ++ #[0x3c, 0x34, 0x21, 0x01, 7, 0x3e, 16, 0, 1]), .prepare, .step, .step]

theorem entering_stores_base :
    entering.frames = some { base := 0x2134, finish := 0x2134, initial := 0x2134 } ∧
      entering.stack.toList = [7] ∧
      entering.step.2.ram.number 2 0x2137 = 0x2134 := by
  have present :
      entering.frames = some { base := 0x2134, finish := 0x2134, initial := 0x2134 } := by
    decide +kernel
  have reachable : entering.Reachable := ⟨_, _, _, _, _, rfl⟩
  obtain ⟨-, running⟩ := reachable_bounds entering reachable
  obtain ⟨-, -, -, -, stored⟩ := running (by decide +kernel)
  have base := stored (by decide +kernel) (by decide +kernel) _ present
  exact ⟨present, by decide +kernel, base⟩

end Machine

end Handheld
