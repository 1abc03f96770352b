import Handheld.Proofs.ReachableBounds

namespace Handheld

/-!
# Nested calls

A call leaves the address behind it where the next frame starts, entering the
frame adds the base of the caller, and leaving it goes by these five bytes. They
stand in ordinary memory, so a return is right only as long as nothing writes
over them. This module follows a call from its instruction to its return, with
calls of any depth in between.
-/

namespace Machine

section Memory

/-- Memory with a new frame: its return address, the base of the caller and its arguments. -/
def frameRam
    (ram : Ram)
    (start back base : Nat)
    (arguments : List Word) :
    Ram :=
  storeWords
    ((ram.setNumber 3 start back).setNumber 2 (start + 3) base)
    (start + frameHeaderSize)
    arguments

variable
  {ram : Ram}
  {start back base : Nat}
  {arguments : List Word}

/-- A new frame leaves everything below it as it is. -/
theorem byte_frameRam_of_lt
    {read : Nat}
    (fits : start + frameHeaderSize + 4 * arguments.length ≤ Ram.capacity)
    (below : read < start) :
    (frameRam ram start back base arguments).byte read = ram.byte read := by
  have header : start + 5 ≤ Ram.capacity := Nat.le_of_add_right_le fits
  unfold frameRam
  rw [byte_storeWords_of_lt fits (Nat.lt_add_right frameHeaderSize below),
    Ram.byte_setNumber_of_lt (by omega) (by omega), Ram.byte_setNumber_of_lt (by omega) below]

/-- The return address stands at the start of a frame. -/
theorem number_frameRam_back
    (fits : start + frameHeaderSize + 4 * arguments.length ≤ Ram.capacity)
    (short : back < 0x1000000) :
    (frameRam ram start back base arguments).number 3 start = back := by
  have header : start + 5 ≤ Ram.capacity := Nat.le_of_add_right_le fits
  have behind : start + 3 ≤ start + frameHeaderSize := Nat.add_le_add_left (by decide) start
  unfold frameRam
  rw [number_storeWords_of_le fits behind, Ram.number_setNumber_of_le (by omega) (Nat.le_refl _),
    Ram.number_setNumber (by decide)]
  exact Nat.mod_eq_of_lt short

/-- The caller's base stands behind the return address. -/
theorem number_frameRam_base
    (fits : start + frameHeaderSize + 4 * arguments.length ≤ Ram.capacity)
    (short : base ≤ 0xffff) :
    (frameRam ram start back base arguments).number 2 (start + 3) = base := by
  have behind : start + 3 + 2 ≤ start + frameHeaderSize := Nat.le_refl _
  unfold frameRam
  rw [number_storeWords_of_le fits behind, Ram.number_setNumber (by decide)]
  exact Nat.mod_eq_of_lt (Nat.lt_succ_of_le short)

/-- The arguments stand behind the header, four bytes each. -/
theorem signed32_frameRam
    {index : Nat}
    {argument : Word}
    (fits : start + frameHeaderSize + 4 * arguments.length ≤ Ram.capacity)
    (here : arguments[index]? = some argument) :
    (frameRam ram start back base arguments).signed32 (start + frameHeaderSize + 4 * index) =
      argument := by
  unfold frameRam Ram.signed32
  rw [number_storeWords fits here]
  exact Word.ofBits_bits argument

end Memory

section Runs

/-- One opcode that is carried out without a fault. -/
structure Executes
    (opcode : Opcode)
    (before after : Machine) : Prop where
  running : before.finished = false
  current : before.opcode? = some opcode
  stepped : before.step = (.ok after.finished, after)

/-- The opcodes that calls are made of. -/
def frameOpcodes : List Opcode :=
  [.general .call, .general .enter, .general .leave, .general .setFrameBase]

/-- The size that an `enter` at the program counter asks for. -/
def enteredSize (machine : Machine) : Nat :=
  codeNumber machine.code 2 (machine.pc + 1)

/-- The number of arguments that an `enter` at the program counter asks for. -/
def enteredArguments (machine : Machine) : Nat :=
  codeNumber machine.code 1 (machine.pc + 3)

/-- The headers of the frames that start at the given addresses stay as they are. -/
def KeepsHeaders
    (starts : List Nat)
    (before after : Machine) : Prop :=
  ∀ start ∈ starts,
    ∀ offset < frameHeaderSize,
      after.ram.byte (start + offset) = before.ram.byte (start + offset)

/-- A call and the entry into its frame, which has room for its header. -/
structure Opens
    (before called entered : Machine) : Prop where
  call : Executes (.general .call) before called
  enter : Executes (.general .enter) called entered
  room : frameHeaderSize ≤ called.enteredSize

/--
What runs between entering a frame and leaving it, where `active` lists the starts
of the frames that are open: instructions that have nothing to do with frames and
write over no header of an open one, and calls that return.
-/
inductive Body : List Nat → Machine → Machine → Prop where
  | done
      {active : List Nat}
      {machine : Machine} :
      Body active machine machine
  | plain
      {active : List Nat}
      {opcode : Opcode}
      {before middle after : Machine}
      (executes : Executes opcode before middle)
      (other : opcode ∉ frameOpcodes)
      (kept : KeepsHeaders active before middle)
      (rest : Body active middle after) :
      Body active before after
  | nested
      {active : List Nat}
      {frames : Frames}
      {before called entered left middle after : Machine}
      (opens : Opens before called entered)
      (current : entered.frames = some frames)
      (body : Body (frames.base :: active) entered left)
      (leaves : Executes (.general .leave) left middle)
      (rest : Body active middle after) :
      Body active before after

/-- An opcode that executes has that outcome behind its byte. -/
theorem Executes.outcome
    {opcode : Opcode}
    {before after : Machine}
    (executes : Executes opcode before after) :
    (before.skip 1).outcome opcode.action = (.ok (), after) := by
  obtain ⟨found, foundHere, ends⟩ := outcome_of_step executes.running executes.stepped
  rw [executes.current] at foundHere
  cases foundHere
  exact ends

/-- Executing an opcode does not change the code. -/
theorem Executes.code
    {opcode : Opcode}
    {before after : Machine}
    (executes : Executes opcode before after) :
    after.code = before.code :=
  ((stable_action opcode).of_outcome executes.outcome).code

/-- Other opcodes than those of frames do not move them. -/
theorem movesFrames_of_not_mem
    {opcode : Opcode}
    (other : opcode ∉ frameOpcodes) :
    opcode.movesFrames = false := by
  rcases moves : opcode.movesFrames with _ | _
  · rfl
  · cases opcode with
    | builtin function => cases moves
    | general instruction =>
        cases instruction with
        | setFrameBase => exact absurd (by decide) other
        | enter => exact absurd (by decide) other
        | leave => exact absurd (by decide) other
        | _ => cases moves

/-- An opcode that has nothing to do with frames leaves them as they are. -/
theorem Executes.frames
    {opcode : Opcode}
    {before after : Machine}
    (executes : Executes opcode before after)
    (other : opcode ∉ frameOpcodes) :
    after.frames = before.frames := by
  have kept : after.frames = (before.skip 1).frames :=
    frames_of_outcome (movesFrames_of_not_mem other) executes.outcome
  exact kept

/-- What a call that is entered leaves behind. -/
theorem Opens.eq_entered
    {before called entered : Machine}
    (opens : Opens before called entered) :
    ∃ frames rest,
      ∃ values : Vector Word called.enteredArguments,
        before.pc + 4 ≤ before.code.size ∧
          before.frames = some frames ∧
          frames.finish + called.enteredSize ≤ frameRegion + frameRegionSize ∧
          before.stack.take called.enteredArguments = .ok (values, rest) ∧
          entered.stack = rest ∧
          entered.frames =
            some { frames with
              base := frames.finish
              finish := frames.finish + called.enteredSize } ∧
          entered.ram =
            frameRam before.ram frames.finish (before.pc + 4) frames.base values.toList := by
  obtain ⟨frames, inside, present, rfl⟩ := eq_of_outcome_call opens.call.outcome
  obtain ⟨opened, rest, values, -, current, fits, taken, rfl⟩ :=
    eq_of_outcome_enter opens.enter.outcome
  have same : some opened = some frames := current.symm.trans present
  cases same
  exact ⟨frames, rest, values, inside, present, fits, taken, rfl, rfl, rfl⟩

/-- The arguments of a frame that fits into its region fit into memory. -/
theorem arguments_fit
    {machine : Machine}
    {start size : Nat}
    (values : Vector Word machine.enteredArguments)
    (fits : start + size ≤ frameRegion + frameRegionSize) :
    start + frameHeaderSize + 4 * values.toList.length ≤ Ram.capacity := by
  have few : machine.enteredArguments < 256 := codeNumber_lt _ _ _
  change start + size ≤ 0x7000 at fits
  rw [Vector.length_toList]
  unfold frameHeaderSize Ram.capacity
  omega

/-- A frame that has been opened for a call, as far as returning from it is concerned. -/
structure Opened
    (frames : Frames)
    (size : Nat)
    (before entered : Machine) : Prop where
  present : before.frames = some frames
  fits : frames.finish + size ≤ frameRegion + frameRegionSize
  room : frameHeaderSize ≤ size
  code : entered.code = before.code
  current :
    entered.frames =
      some { frames with base := frames.finish, finish := frames.finish + size }
  back : entered.ram.number 3 frames.finish = before.pc + 4
  base : entered.ram.number 2 (frames.finish + 3) = frames.base
  below :
    ∀ address,
      address < frames.finish →
      entered.ram.byte address = before.ram.byte address

/-- A call that is entered has a frame to return from. -/
theorem Opens.opened
    {before called entered : Machine}
    {frames : Frames}
    (opens : Opens before called entered)
    (small : before.code.size < 0x1000000)
    (present : before.frames = some frames)
    (bound : frames.base ≤ 0xffff) :
    Opened frames called.enteredSize before entered := by
  obtain ⟨found, rest, values, inside, foundPresent, fits, -, -, after, ram⟩ := opens.eq_entered
  rw [present] at foundPresent
  cases foundPresent
  have argumentsFit := arguments_fit values fits
  have short : before.pc + 4 < 0x1000000 := Nat.lt_of_le_of_lt inside small
  refine ⟨present, fits, opens.room, opens.enter.code.trans opens.call.code, after, ?_, ?_, ?_⟩
  · rw [ram]
    exact number_frameRam_back argumentsFit short
  · rw [ram]
    exact number_frameRam_base argumentsFit bound
  · intro address below
    rw [ram]
    exact byte_frameRam_of_lt argumentsFit below

/-- Leaving a frame whose header was kept undoes the call. -/
theorem Opened.returns
    {before entered left after : Machine}
    {frames : Frames}
    {size : Nat}
    (opened : Opened frames size before entered)
    (sameFrames : left.frames = entered.frames)
    (kept : KeepsHeaders [frames.finish] entered left)
    (leaves : Executes (.general .leave) left after) :
    after.pc = before.pc + 4 ∧ after.frames = some frames ∧ after.ram = left.ram := by
  have header := kept frames.finish (List.mem_singleton.mpr rfl)
  have back : left.ram.number 3 frames.finish = before.pc + 4 := by
    refine Eq.trans (Ram.number_congr ?_) opened.back
    intro offset near
    exact header offset (Nat.lt_trans near (by decide))
  have base : left.ram.number 2 (frames.finish + 3) = frames.base := by
    refine Eq.trans (Ram.number_congr ?_) opened.base
    intro offset near
    rw [Nat.add_assoc]
    exact header (3 + offset) (Nat.add_lt_add_left near 3)
  obtain ⟨current, present, rfl⟩ := eq_of_outcome_leave leaves.outcome
  have same : some current = some { frames with
      base := frames.finish
      finish := frames.finish + size } :=
    present.symm.trans (sameFrames.trans opened.current)
  cases same
  refine ⟨back, ?_, rfl⟩
  change some { frames with base := left.ram.number 2 (frames.finish + 3) } = some frames
  rw [base]

/-- What a body keeps while the frames in `active` are open. -/
structure Preserves
    (active : List Nat)
    (before after : Machine) : Prop where
  code : after.code = before.code
  frames : after.frames = before.frames
  headers : KeepsHeaders active before after

/-- What is preserved twice is preserved. -/
theorem Preserves.trans
    {active : List Nat}
    {before middle after : Machine}
    (earlier : Preserves active before middle)
    (later : Preserves active middle after) :
    Preserves active before after where
  code := later.code.trans earlier.code
  frames := later.frames.trans earlier.frames
  headers := by
    intro start member offset near
    exact (later.headers start member offset near).trans (earlier.headers start member offset near)

/-- A call that returns keeps the headers below its frame. -/
theorem Opened.preserves
    {active : List Nat}
    {before entered left after : Machine}
    {frames : Frames}
    {size : Nat}
    (opened : Opened frames size before entered)
    (inside : ∀ start ∈ active, start + frameHeaderSize ≤ frames.finish)
    (body : Preserves (frames.finish :: active) entered left)
    (leaves : Executes (.general .leave) left after) :
    Preserves active before after := by
  have header : KeepsHeaders [frames.finish] entered left := by
    intro start member
    cases List.mem_singleton.mp member
    exact body.headers frames.finish List.mem_cons_self
  obtain ⟨-, sameFrames, sameRam⟩ := opened.returns body.frames header leaves
  refine ⟨?_, sameFrames.trans opened.present.symm, ?_⟩
  · exact leaves.code.trans (body.code.trans opened.code)
  · intro start member offset near
    have below : start + offset < frames.finish :=
      Nat.lt_of_lt_of_le (Nat.add_lt_add_left near start) (inside start member)
    rw [sameRam, body.headers start (List.mem_cons_of_mem _ member) offset near,
      opened.below _ below]

/-- The headers of all open frames lie below the frame that a call opens, or are its own. -/
theorem Opened.headers_inside
    {active : List Nat}
    {before entered : Machine}
    {frames : Frames}
    {size : Nat}
    (opened : Opened frames size before entered)
    (inside : ∀ start ∈ active, start + frameHeaderSize ≤ frames.finish) :
    ∀ start ∈ frames.finish :: active,
      start + frameHeaderSize ≤ frames.finish + size := by
  intro start member
  rcases List.mem_cons.mp member with rfl | older
  · exact Nat.add_le_add_left opened.room _
  · exact Nat.le_add_right_of_le (inside start older)

/-- A frame that was opened ends in the address space. -/
theorem Opened.finish_le
    {before entered : Machine}
    {frames : Frames}
    {size : Nat}
    (opened : Opened frames size before entered) :
    frames.finish ≤ 0xffff := by
  have low : frames.finish ≤ frameRegion + frameRegionSize := Nat.le_of_add_right_le opened.fits
  exact Nat.le_trans low (by decide)

/-- A body keeps the frame it runs in and the headers of the open frames. -/
theorem Body.preserves
    {active : List Nat}
    {before after : Machine}
    {frames : Frames}
    (body : Body active before after)
    (small : before.code.size < 0x1000000)
    (present : before.frames = some frames)
    (bound : frames.base ≤ 0xffff)
    (inside : ∀ start ∈ active, start + frameHeaderSize ≤ frames.finish) :
    Preserves active before after := by
  induction body generalizing frames with
  | done => exact ⟨rfl, rfl, fun _ _ _ _ => rfl⟩
  | plain executes other kept _ inductionHypothesis =>
      have first := Preserves.mk executes.code (executes.frames other) kept
      refine first.trans (inductionHypothesis ?_ (first.frames.trans present) bound inside)
      rw [first.code]
      exact small
  | nested opens current _ leaves _ bodyHypothesis restHypothesis =>
      -- The inner call writes from the end of the current frame on, so above all open headers.
      have opened := opens.opened small present bound
      rw [opened.current] at current
      cases current
      have smallEntered := small
      rw [← opened.code] at smallEntered
      have inner :=
        bodyHypothesis smallEntered opened.current opened.finish_le (opened.headers_inside inside)
      have first := opened.preserves inside inner leaves
      refine first.trans (restHypothesis ?_ (first.frames.trans present) bound inside)
      rw [first.code]
      exact small

/--
A call comes back to the instruction behind it, with all frame pointers as they
were. Its frame starts out with the top values of the stack as its arguments,
deepest first, and the values below them stay.
-/
theorem call_returns
    {before called entered left after : Machine}
    {frame : Frames}
    (reachable : before.Reachable)
    (small : before.code.size < 0x1000000)
    (opens : Opens before called entered)
    (current : entered.frames = some frame)
    (body : Body [frame.base] entered left)
    (leaves : Executes (.general .leave) left after) :
    after.pc = before.pc + 4 ∧
      after.frames = before.frames ∧
      ∃ arguments : List Word,
        arguments.length = called.enteredArguments ∧
          before.stack.toList = entered.stack.toList ++ arguments ∧
          ∀ index argument,
            arguments[index]? = some argument →
            entered.ram.signed32 (frame.base + 5 + 4 * index) = argument := by
  obtain ⟨frames, rest, values, -, present, fits, taken, stack, -, ram⟩ := opens.eq_entered
  have placed := reachable.bounded.placed opens.call.running
  have opened := opens.opened small present (placed.frames frames present).1
  rw [opened.current] at current
  cases current
  rw [← opened.code] at small
  have inner : Preserves [frames.finish] entered left := by
    refine body.preserves small opened.current opened.finish_le (opened.headers_inside ?_)
    intro start member
    cases member
  obtain ⟨back, sameFrames, -⟩ := opened.returns inner.frames inner.headers leaves
  refine ⟨back, sameFrames.trans present.symm, values.toList, Vector.length_toList, ?_, ?_⟩
  · rw [stack]
    exact DataStack.toList_take taken
  · intro index argument here
    rw [ram]
    exact signed32_frameRam (arguments_fit values fits) here

/-- A step that reports no fault carries out its opcode. -/
theorem executes_step
    {opcode : Opcode}
    {machine : Machine}
    (fine :
      machine.finished = false ∧ machine.opcode? = some opcode ∧ machine.step.1.isOk = true) :
    Executes opcode machine machine.step.2 := by
  obtain ⟨running, current, fine⟩ := fine
  refine ⟨running, current, ?_⟩
  rw [step_of_opcode running current] at fine ⊢
  rcases ends : (machine.skip 1).outcome opcode.action with ⟨fault | _, after⟩
  · rw [ends] at fine
    cases fine
  · rfl

/-- A program about to call a function that calls another one, with a frame in blank memory. -/
def calling : Machine :=
  List.foldl respond
    (fresh {} { store := { host := {}, root := [] } } { seconds := 0 } .keep)
    [.load (Image.header ++ #[
        0x3c, 16, 0, 0x01, 9, 0x01, 7, 0x3d, 28, 0, 0, 0x40,
        0x3e, 16, 0, 1, 0x01, 5, 0x3d, 39, 0, 0, 0x3f,
        0x3e, 5, 0, 0, 0x3f]),
      .prepare,
      .outside {} { store := { host := {}, root := [] } } { seconds := 0 },
      .step, .step, .step]

theorem calling_returns :
    calling.stack.toList = [9, 7] ∧
      (calling.afterSteps 2).ram.signed32 21 = 7 ∧
      (calling.afterSteps 2).stack.toList = [9] ∧
      (calling.afterSteps 7).pc = 27 ∧
      (calling.afterSteps 7).frames = calling.frames := by
  have opens : Opens calling (calling.afterSteps 1) (calling.afterSteps 2) :=
    ⟨executes_step (by decide +kernel), executes_step (by decide +kernel), by decide +kernel⟩
  have inFrame :
      (calling.afterSteps 2).frames = some { base := 16, finish := 32, initial := 16 } := by
    decide +kernel
  have pushes :
      Executes (.general (.pushImmediate .byte)) (calling.afterSteps 2) (calling.afterSteps 3) :=
    executes_step (by decide +kernel)
  have kept : KeepsHeaders [16] (calling.afterSteps 2) (calling.afterSteps 3) := by
    unfold KeepsHeaders
    decide +kernel
  have opensInner : Opens (calling.afterSteps 3) (calling.afterSteps 4) (calling.afterSteps 5) :=
    ⟨executes_step (by decide +kernel), executes_step (by decide +kernel), by decide +kernel⟩
  have inInner :
      (calling.afterSteps 5).frames = some { base := 32, finish := 37, initial := 16 } := by
    decide +kernel
  have leavesInner : Executes (.general .leave) (calling.afterSteps 5) (calling.afterSteps 6) :=
    executes_step (by decide +kernel)
  have leaves : Executes (.general .leave) (calling.afterSteps 6) (calling.afterSteps 7) :=
    executes_step (by decide +kernel)
  have body : Body [16] (calling.afterSteps 2) (calling.afterSteps 6) :=
    .plain pushes (by decide) kept (.nested opensInner inInner .done leavesInner .done)
  have reachable : calling.Reachable := ⟨_, _, _, _, _, rfl⟩
  obtain ⟨back, sameFrames, -⟩ :=
    call_returns reachable (by decide +kernel) opens inFrame body leaves
  have callAt : calling.pc + 4 = 27 := by decide +kernel
  exact ⟨by decide +kernel, by decide +kernel, by decide +kernel, back.trans callAt, sameFrames⟩

end Runs

end Machine

end Handheld
