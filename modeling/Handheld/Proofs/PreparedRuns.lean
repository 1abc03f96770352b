import Handheld.Proofs.Machine.ParallelOpcodes
import Handheld.Proofs.ReachableBounds

namespace Handheld

/-!
# Runs that start over

Preparing a run leaves behind what earlier runs did to memory, files, keys and
pointers, but two things stay: the font size of the text, and the values that
were removed from the stack, which conditional jumps can still test. Two
machines with whatever past that are prepared for the same image therefore show
the same from then on, provided that they have the same font size and that each
conditional jump tests a slot that the run itself has used, or that the slots of
both stacks hold the same. The user may press and release keys at any time, also
while a step waits for one.
-/

/--
What happens to a machine during a run. Keys that move during a step that waits
for none might as well move before it or after it.
-/
inductive RunEvent where
  /-- A step, and what the user does while it waits for keys. -/
  | step (visits : List Visit)
  | press (key : Word)
  | release (key : Word)
  | time (clock : Clock)
  deriving DecidableEq, Repr

/-- Whether the machine itself does something. -/
def RunEvent.isStep : RunEvent → Bool
  | .step _ => true
  | .press _ | .release _ | .time _ => false

/-- What happens to a machine in its life. -/
inductive LifeEvent where
  | load (image : Array UInt8)
  | prepare
  | run (event : RunEvent)
  | cleanUp
  /-- Files are changed by others than the machine. -/
  | host (host : Host)

/-- What of a machine can be looked at. -/
structure View where
  pc : Nat
  frames : Option Frames
  stack : List Word
  fontSize : FontSize
  ram : Ram

namespace Machine

/-- What the machine shows. -/
def view (machine : Machine) : View where
  pc := machine.pc
  frames := machine.frames
  stack := machine.stack.toList
  fontSize := machine.device.fontSize.1
  ram := machine.ram

/-- The machine with other keys. -/
def withKeyboard
    (machine : Machine)
    (change : Keyboard → Keyboard) :
    Machine :=
  { machine with
    device := { machine.device with keyboard := change machine.device.keyboard } }

/--
The machine after an event of a run, and the result if it is a step. Visits that
a step does not wait for are not made.
-/
def meet
    (machine : Machine) :
    RunEvent → Option (Except Fault Bool) × Machine
  | .step visits =>
      let after := (machine.withKeyboard (·.expect visits)).step
      (some after.1, after.2.withKeyboard (·.expect []))
  | .press key => (none, machine.withKeyboard (·.press key))
  | .release key => (none, machine.withKeyboard (·.release key))
  | .time clock => (none, { machine with clock := clock })

/-- The results of the steps among some events, and what the machine shows after each event. -/
def history
    (machine : Machine) :
    List RunEvent → List (Option (Except Fault Bool) × View)
  | [] => []
  | event :: rest =>
      ((machine.meet event).1, (machine.meet event).2.view) :: (machine.meet event).2.history rest

/-- The machine after an event of its life. -/
def live
    (machine : Machine) :
    LifeEvent → Machine
  | .load image => (machine.load image).2
  | .prepare => machine.prepare.2
  | .run event => (machine.meet event).2
  | .cleanUp => machine.cleanUp
  | .host host =>
      { machine with
        files := { machine.files with store := { machine.files.store with host := host } } }

/-- A new machine with a screen, text, keys that can be pressed and nothing loaded. -/
def standard
    (fonts : FontTable)
    (store : Host × Place)
    (clock : Clock)
    (policy : RamPolicy)
    (random : Random) :
    Machine :=
  {
    device := { screen := .painted fonts, keyboard := .live {} }
    files := { store := { host := store.1, root := store.2 } }
    clock := clock
    ramPolicy := policy
    random := random
  }

/-- A machine with some fonts that some life has led to. -/
def Lived
    (fonts : FontTable)
    (machine : Machine) :
    Prop :=
  ∃ store clock policy random life,
    machine = List.foldl live (standard fonts store clock policy random) life

/--
Every conditional jump among some events tests a slot of the stack that has held
a value before, where the slots below `reached` are those that have.
-/
def TestsOwnSlots
    (machine : Machine)
    (reached : Nat) :
    List RunEvent → Prop
  | [] => True
  | event :: rest =>
      (event.isStep → ∀ slot ∈ machine.testedSlot?, slot < reached) ∧
        (machine.meet event).2.TestsOwnSlots (max reached (machine.meet event).2.stack.top) rest

instance decidableTestsOwnSlots
    (machine : Machine)
    (reached : Nat) :
    (events : List RunEvent) → Decidable (machine.TestsOwnSlots reached events)
  | [] => .isTrue trivial
  | event :: rest =>
      have := decidableTestsOwnSlots (machine.meet event).2
        (max reached (machine.meet event).2.stack.top) rest
      inferInstanceAs (Decidable (_ ∧ _))

/-- Two machines that are about to be prepared have the same to start from. -/
structure SameStart (first second : Machine) : Prop where
  loaded : first.code ≠ #[]
  code : second.code = first.code
  clock : second.clock = first.clock
  random : second.random = first.random
  cleared : first.ramPolicy = .clear ∧ second.ramPolicy = .clear
  root : second.files.store.root = first.files.store.root
  /-- The trees are compared after preparing has written open files back. -/
  tree : first.prepare.2.files.store.host.SameTree second.prepare.2.files.store.host

section Alike

variable
  {fonts : FontTable}
  {depth : Nat}
  {machine other : Machine}

/-- Below the top, the slots are the same anyway. -/
theorem Alike.raise (alike : Alike fonts depth machine other) :
    Alike fonts (max depth machine.stack.top) machine other := by
  obtain ⟨devices, tables, dataStacks⟩ := alike
  exact .intro machine devices tables dataStacks.raise

/-- The same change of both keyboards keeps machines alike. -/
theorem Alike.withKeyboard
    (alike : Alike fonts depth machine other)
    (change : Keyboard → Keyboard)
    (live : ∀ board, ∃ after, change (.live board) = .live after) :
    Alike fonts depth (machine.withKeyboard change) (other.withKeyboard change) := by
  obtain ⟨devices, tables, dataStacks⟩ := alike
  exact .intro (machine.withKeyboard change) (devices.setKeyboard change live) tables dataStacks

/-- Machines that are alike show the same. -/
theorem Alike.view (alike : Alike fonts depth machine other) : other.view = machine.view := by
  obtain ⟨devices, tables, dataStacks⟩ := alike
  unfold Machine.view Machine.ram
  dsimp only
  rw [dataStacks.toList, devices.fontSize, devices.ram]

/-- Events of a run keep machines alike. -/
theorem sameAnswer_meet
    (alike : Alike fonts depth machine other)
    (event : RunEvent)
    (covered : event.isStep → ∀ slot ∈ machine.testedSlot?, slot < depth) :
    SameAnswer (Alike fonts depth) (machine.meet event) (other.meet event) := by
  cases event with
  | step visits =>
      have visited := alike.withKeyboard (·.expect visits) fun _ => ⟨_, rfl⟩
      obtain ⟨answer, state⟩ := sameAnswer_step visited (covered rfl)
      exact ⟨congrArg some answer, state.withKeyboard (·.expect []) fun _ => ⟨_, rfl⟩⟩
  | press key => exact ⟨rfl, alike.withKeyboard (·.press key) fun _ => ⟨_, rfl⟩⟩
  | release key => exact ⟨rfl, alike.withKeyboard (·.release key) fun _ => ⟨_, rfl⟩⟩
  | time clock =>
      obtain ⟨devices, tables, dataStacks⟩ := alike
      exact ⟨rfl, .intro { machine with clock := clock } devices tables dataStacks⟩

/-- Machines that are alike show the same for as long as no jump tests what only one has. -/
theorem Alike.history
    (alike : Alike fonts depth machine other)
    (events : List RunEvent)
    (tests : machine.TestsOwnSlots depth events) :
    other.history events = machine.history events := by
  induction events generalizing depth machine other with
  | nil => rfl
  | cons event rest inductionHypothesis =>
      obtain ⟨now, later⟩ := tests
      obtain ⟨answer, after⟩ := sameAnswer_meet alike event now
      unfold Machine.history
      rw [answer, after.view, inductionHypothesis after.raise later]

end Alike

section Life

/-- What becomes of the device is decided by the policy. -/
theorem device_prepared (machine : Machine) :
    machine.prepared.device = preparedDevice machine.ramPolicy machine.device :=
  rfl

/-- The files are closed and the working directory is the root. -/
theorem files_prepared (machine : Machine) : machine.prepared.files = machine.files.reset :=
  rfl

/-- A machine with code can always be prepared. -/
theorem prepare_of_loaded
    {machine : Machine}
    (loaded : machine.code ≠ #[]) :
    machine.prepare = (.ok (), machine.prepared) := by
  rw [prepare_eq, if_neg]
  rw [Array.isEmpty_iff]
  exact loaded

/-- Clearing leaves nothing of what memory was. -/
theorem preparedRam_clear (ram other : Ram) :
    preparedRam .clear ram = preparedRam .clear other := by
  have cleared (any : Ram) (address : Nat) : (preparedRam .clear any).byte address = 0 := by
    have near : Ram.distance 0 address < Ram.capacity := Nat.mod_lt _ (by decide)
    have fits : (List.replicate Ram.capacity (0 : UInt8)).length ≤ Ram.capacity :=
      Nat.le_of_eq List.length_replicate
    unfold preparedRam
    rw [Ram.fill_eq_write, Ram.byte_write _ _ _ _ fits, List.getElem?_replicate_of_lt near]
    rfl
  apply Ram.ext_byte
  intro address _
  rw [cleared, cleared]

/-- Preparing a device resets its keyboard. -/
theorem keyboard_preparedDevice
    (policy : RamPolicy)
    (device : Device) :
    (preparedDevice policy device).keyboard = device.keyboard.reset := by
  unfold preparedDevice Device.resetText
  dsimp only
  split <;> rfl

/-- A live keyboard without plans for its user is reset to a new one. -/
theorem reset_of_idle
    {board : LiveKeyboard}
    (idle : (Keyboard.live board).expect [] = .live board) :
    (Keyboard.live board).reset = .live {} := by
  obtain ⟨keys, coming⟩ := board
  cases idle
  rfl

/-- Prepared devices differ in what they draw on at most, if they had the same font size. -/
theorem alike_preparedDevice
    {fonts : FontTable}
    {first second : Device}
    (firstAlike : first.Alike fonts first)
    (secondAlike : second.Alike fonts second)
    (firstIdle : first.keyboard.expect [] = first.keyboard)
    (secondIdle : second.keyboard.expect [] = second.keyboard)
    (fontSize : second.fontSize.1 = first.fontSize.1) :
    Device.Alike fonts (preparedDevice .clear first) (preparedDevice .clear second) := by
  cases firstAlike with
  | intro ram target _ grid board log =>
      cases secondAlike with
      | intro otherRam otherTarget _ otherGrid otherBoard otherLog =>
          have sameSize : otherGrid.size = grid.size := fontSize
          unfold preparedDevice Device.resetText TextGrid.reset
          dsimp only
          rw [preparedRam_clear otherRam ram, sameSize, reset_of_idle firstIdle,
            reset_of_idle secondIdle]
          exact .intro ..

/-- What is kept in the life of a machine. -/
structure Kept
    (fonts : FontTable)
    (machine : Machine) :
    Prop where
  device : machine.device.Alike fonts machine.device
  files : machine.files.Alike machine.files
  capacity : machine.stack.slots.size = DataStack.standardCapacity
  /-- What the user does while a step waits is over with the step. -/
  idle : machine.device.keyboard.expect [] = machine.device.keyboard

/-- A machine in the standard setting is like itself. -/
theorem Kept.alike
    {fonts : FontTable}
    {machine : Machine}
    (kept : machine.Kept fonts)
    (depth : Nat) :
    Alike fonts depth machine machine :=
  .intro machine kept.device kept.files (.refl kept.capacity depth)

/-- A slot that is tested is one of the stack. -/
theorem testedSlot?_lt_capacity
    {machine : Machine}
    {slot : Nat}
    (tested : slot ∈ machine.testedSlot?) :
    slot < machine.stack.capacity := by
  unfold testedSlot? at tested
  split at tested
  · rename_i jumps
    cases tested
    exact jumps.2.2.2
  · cases tested

/-- A new machine is in the standard setting. -/
theorem kept_standard
    (fonts : FontTable)
    (store : Host × Place)
    (clock : Clock)
    (policy : RamPolicy)
    (random : Random) :
    (standard fonts store clock policy random).Kept fonts where
  device := .intro ..
  files := .intro _ (.intro _ (.refl _)) fun _ => nofun
  capacity := Array.size_replicate
  idle := rfl

/-- Preparing keeps the standard setting. -/
theorem Kept.prepared
    {fonts : FontTable}
    {machine : Machine}
    (kept : machine.Kept fonts) :
    machine.prepared.Kept fonts where
  device := by
    rw [device_prepared]
    exact kept.device.prepared machine.ramPolicy
  files := by
    rw [files_prepared]
    exact kept.files.reset
  capacity := by
    rw [stack_prepared]
    exact kept.capacity
  idle := by
    rw [device_prepared, keyboard_preparedDevice, Keyboard.expect_reset, kept.idle]

/-- Between the events of a run the user has no plans. -/
theorem idle_meet
    {machine : Machine}
    (idle : machine.device.keyboard.expect [] = machine.device.keyboard)
    (event : RunEvent) :
    (machine.meet event).2.device.keyboard.expect [] = (machine.meet event).2.device.keyboard := by
  cases event with
  | step visits => exact Keyboard.expect_expect _ [] []
  | press key =>
      change (machine.device.keyboard.press key).expect [] = machine.device.keyboard.press key
      rw [Keyboard.expect_press, idle]
  | release key =>
      change (machine.device.keyboard.release key).expect [] = machine.device.keyboard.release key
      rw [Keyboard.expect_release, idle]
  | time clock => exact idle

/-- All slots of a machine are its own, so an event is parallel to itself. -/
theorem kept_meet
    {fonts : FontTable}
    {machine : Machine}
    (kept : machine.Kept fonts)
    (event : RunEvent) :
    (machine.meet event).2.Kept fonts := by
  have alike : Alike fonts machine.stack.capacity (machine.meet event).2 (machine.meet event).2 :=
    (sameAnswer_meet (kept.alike machine.stack.capacity) event fun _ slot tested =>
      testedSlot?_lt_capacity tested).state
  exact ⟨alike.devices, alike.tables, alike.dataStacks.capacity, idle_meet kept.idle event⟩

/-- No event of a machine's life leaves the standard setting. -/
theorem kept_live
    {fonts : FontTable}
    {machine : Machine}
    (kept : machine.Kept fonts)
    (event : LifeEvent) :
    (machine.live event).Kept fonts := by
  cases event with
  | load image =>
      change (machine.load image).2.Kept fonts
      unfold load
      split
      · exact ⟨kept.device, kept.files, kept.capacity, kept.idle⟩
      · exact kept
  | prepare =>
      change machine.prepare.2.Kept fonts
      rw [prepare_eq]
      split
      · exact kept
      · exact kept.prepared
  | run event => exact kept_meet kept event
  | cleanUp => exact ⟨kept.device, kept.files.closeAll, kept.capacity, kept.idle⟩
  | host host =>
      exact ⟨kept.device, .intro _ (.intro _ (.refl host)) kept.files.tracked, kept.capacity,
        kept.idle⟩

/-- A machine that has lived is in the standard setting. -/
theorem Lived.kept
    {fonts : FontTable}
    {machine : Machine}
    (lived : machine.Lived fonts) :
    machine.Kept fonts := by
  obtain ⟨store, clock, policy, random, life, rfl⟩ := lived
  have start := kept_standard fonts store clock policy random
  generalize standard fonts store clock policy random = first at start ⊢
  induction life generalizing first with
  | nil => exact start
  | cons event rest inductionHypothesis =>
      exact inductionHypothesis (first.live event) (kept_live start event)

/-- A run tests no slot past those that any stack has. -/
theorem Kept.testsOwnSlots
    {fonts : FontTable}
    {machine : Machine}
    (kept : machine.Kept fonts)
    (events : List RunEvent)
    {reached : Nat}
    (all : DataStack.standardCapacity ≤ reached) :
    machine.TestsOwnSlots reached events := by
  induction events generalizing machine reached with
  | nil => trivial
  | cons event rest inductionHypothesis =>
      refine ⟨fun _ slot tested => ?_, ?_⟩
      · have below : slot < DataStack.standardCapacity := by
          rw [← kept.capacity]
          exact testedSlot?_lt_capacity tested
        exact Nat.lt_of_lt_of_le below all
      · exact inductionHypothesis (kept_meet kept event)
          (Nat.le_trans all (Nat.le_max_left _ _))

/-- Prepared machines are alike, as far as the slots of their stacks are. -/
theorem alike_prepare
    {fonts : FontTable}
    {depth : Nat}
    {first second : Machine}
    (firstKept : first.Kept fonts)
    (secondKept : second.Kept fonts)
    (same : SameStart first second)
    (fontSize : second.device.fontSize.1 = first.device.fontSize.1)
    (dataStacks : DataStack.Alike depth first.stack.clear second.stack.clear) :
    first.prepare.1 = .ok () ∧
      second.prepare.1 = .ok () ∧
      Alike fonts depth first.prepare.2 second.prepare.2 := by
  have secondLoaded : second.code ≠ #[] := by
    rw [same.code]
    exact same.loaded
  have trees := same.tree
  rw [prepare_of_loaded same.loaded, prepare_of_loaded secondLoaded] at trees ⊢
  have devices := alike_preparedDevice firstKept.device secondKept.device firstKept.idle
    secondKept.idle fontSize
  have tables : first.files.reset.Alike second.files.reset :=
    HandleTable.alike_reset firstKept.files.closeAll.tracked
      secondKept.files.closeAll.tracked same.root trees
  have registers : second.prepared =
      { first.prepared with
        device := preparedDevice .clear second.device
        files := second.files.reset
        stack := second.stack.clear } := by
    unfold Machine.prepared
    rw [same.code, same.clock, same.random, same.cleared.1, same.cleared.2]
  refine ⟨rfl, rfl, ?_⟩
  rw [registers]
  refine .intro first.prepared ?_ ?_ ?_
  · rw [device_prepared, same.cleared.1]
    exact devices
  · rw [files_prepared]
    exact tables
  · rw [stack_prepared]
    exact dataStacks

end Life

/--
Two machines, whatever happened to them, that are prepared for the same image and
have the same font size show the same from then on, as long as each conditional
jump tests a slot that the run has used, and for good if the slots of both stacks
hold the same.
-/
theorem prepared_runs_show_the_same
    {fonts : FontTable}
    {first second : Machine}
    (firstLived : first.Lived fonts)
    (secondLived : second.Lived fonts)
    (same : SameStart first second)
    (fontSize : second.device.fontSize.1 = first.device.fontSize.1)
    (events : List RunEvent)
    (slots :
      first.prepare.2.TestsOwnSlots 0 events ∨ second.stack.slots = first.stack.slots) :
    first.prepare.1 = .ok () ∧
      second.prepare.1 = .ok () ∧
      second.prepare.2.view = first.prepare.2.view ∧
      second.prepare.2.history events = first.prepare.2.history events := by
  have firstKept := firstLived.kept
  have secondKept := secondLived.kept
  rcases slots with tests | sameSlots
  · obtain ⟨firstReady, secondReady, alike⟩ := alike_prepare firstKept secondKept same fontSize
      (.clear firstKept.capacity secondKept.capacity)
    exact ⟨firstReady, secondReady, alike.view, alike.history events tests⟩
  · obtain ⟨firstReady, secondReady, alike⟩ := alike_prepare firstKept secondKept same fontSize
      (.clear_of_slots firstKept.capacity sameSlots DataStack.standardCapacity)
    have tests := (kept_live firstKept .prepare).testsOwnSlots events (Nat.le_refl _)
    exact ⟨firstReady, secondReady, alike.view, alike.history events tests⟩

section Instances

/-- A machine without files that has lived through some events. -/
def after (life : List LifeEvent) : Machine :=
  List.foldl live (standard FontTable.blank ({}, []) { seconds := 0 } .clear {}) life

/-- What happens when an image is run for some steps and another one is loaded then. -/
def runThenLoad
    (earlier : Array UInt8)
    (steps : Nat)
    (image : Array UInt8) :
    List LifeEvent :=
  [.load earlier, .prepare] ++ List.replicate steps (.run (.step [])) ++ [.load image]

theorem lived_after (life : List LifeEvent) : (after life).Lived FontTable.blank :=
  ⟨_, _, _, _, life, rfl⟩

theorem sameStart_of_eq
    {first second : Machine}
    (start :
      first.code ≠ #[] ∧
        second.code = first.code ∧
        second.clock = first.clock ∧
        second.random = first.random ∧
        (first.ramPolicy = .clear ∧ second.ramPolicy = .clear) ∧
        second.files.store.root = first.files.store.root ∧
        second.prepare.2.files.store.host = first.prepare.2.files.store.host) :
    SameStart first second := by
  obtain ⟨loaded, code, clock, random, cleared, root, host⟩ := start
  refine ⟨loaded, code, clock, random, cleared, root, ?_⟩
  rw [host]
  exact .refl _

/-- Push nine and stop. -/
def leaving : Array UInt8 :=
  Image.header ++ #[0x01, 9, 0x40]

/-- Choose the small font and stop. -/
def shrinking : Array UInt8 :=
  Image.header ++ #[0x01, 1, 0x85, 0x40]

/-- Wait for a key, remove it, and jump over an instruction because it is not zero. -/
def jumping : Array UInt8 :=
  Image.header ++ #[0x81, 0x38, 0x3a, 0x17, 0, 0, 0x40, 0x40]

/-- While the first step waits, key seven is pressed and released, and key nine pressed. -/
def keysDuringStep : List RunEvent :=
  [.step [{ Visit.escape with motions := [.down 7, .up 7, .down 9] }], .release 9,
    .step [], .step [], .step []]

/-- Jump over an instruction if the slot above the empty stack is not zero. -/
def testing : Array UInt8 :=
  Image.header ++ #[0x3a, 0x15, 0, 0, 0x40, 0x40]

theorem jump_runs_as_in_new_machine :
    (after (runThenLoad leaving 2 jumping)).stack.toList = [9] ∧
      ((after [.load jumping]).prepare.2.history keysDuringStep).map
          (fun seen => (seen.2.pc, seen.2.stack)) =
        [(0x11, [9]), (0x11, [9]), (0x12, []), (0x17, []), (0x18, [])] ∧
      (after (runThenLoad leaving 2 jumping)).prepare.2.history keysDuringStep =
        (after [.load jumping]).prepare.2.history keysDuringStep := by
  have same := prepared_runs_show_the_same (lived_after [.load jumping])
    (lived_after (runThenLoad leaving 2 jumping)) (sameStart_of_eq (by decide +kernel))
    (by decide +kernel) keysDuringStep (.inl (by decide +kernel))
  exact ⟨by decide +kernel, by decide +kernel, same.2.2.2⟩

/--
A value that an earlier run removed from the stack decides a jump, and an earlier
choice of the small font stays.
-/
theorem earlier_runs_show_through :
    (after [.load testing]).Lived FontTable.blank ∧
      ((after (runThenLoad leaving 2 testing)).Lived FontTable.blank ∧
        SameStart (after [.load testing]) (after (runThenLoad leaving 2 testing)) ∧
        (after (runThenLoad leaving 2 testing)).prepare.2.view.fontSize =
          (after [.load testing]).prepare.2.view.fontSize ∧
        (after (runThenLoad leaving 2 testing)).prepare.2.history [.step []] ≠
          (after [.load testing]).prepare.2.history [.step []]) ∧
      ((after (runThenLoad shrinking 3 testing)).Lived FontTable.blank ∧
        SameStart (after [.load testing]) (after (runThenLoad shrinking 3 testing)) ∧
        (after (runThenLoad shrinking 3 testing)).prepare.2.view ≠
          (after [.load testing]).prepare.2.view) := by
  have pcs :
      ((after (runThenLoad leaving 2 testing)).prepare.2.history [.step []]).map (·.2.pc) ≠
        ((after [.load testing]).prepare.2.history [.step []]).map (·.2.pc) := by
    decide +kernel
  have sizes :
      (after (runThenLoad shrinking 3 testing)).prepare.2.view.fontSize ≠
        (after [.load testing]).prepare.2.view.fontSize := by
    decide +kernel
  refine ⟨lived_after _,
    ⟨lived_after _, sameStart_of_eq (by decide +kernel), by decide +kernel, ?_⟩,
    ⟨lived_after _, sameStart_of_eq (by decide +kernel), ?_⟩⟩
  · intro same
    exact pcs (congrArg (List.map (·.2.pc)) same)
  · intro same
    exact sizes (congrArg View.fontSize same)

end Instances

end Machine

end Handheld
