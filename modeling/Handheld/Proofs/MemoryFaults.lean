import Handheld.Proofs.Machine.Atomic
import Handheld.Proofs.ReachableBounds

namespace Handheld

/-!
# Memory faults are atomic

Functions that use memory at addresses of the program's choosing check all of it
before they change anything. So where memory does not reach, or a string has no
end, the program is over, but nothing is half done: apart from the values taken
from the stack and the place in the code, the machine is as it was before.
-/

namespace Machine

/-- A step that meets a memory fault leaves all as it was, and the program is over. -/
theorem untouched_of_step
    {machine after : Machine}
    {fault : Fault}
    (other : machine.opcode? ≠ some (.builtin .chooseFile))
    (memory : fault.isMemory = true)
    (stepped : machine.step = (.error fault, after)) :
    Untouched machine after ∧ after.finished = true := by
  rcases running : machine.finished with _ | _
  · rcases current : machine.opcode? with _ | opcode
    · obtain ⟨met, pc, ends⟩ := step_of_no_opcode running current
      rw [ends] at stepped
      cases stepped
      exact ⟨⟨machine.stack, pc, true, rfl⟩, rfl⟩
    · have notChoosing : opcode ≠ .builtin .chooseFile := by
        rintro rfl
        exact other current
      rw [step_of_opcode running current] at stepped
      rcases ends : (machine.skip 1).outcome opcode.action with ⟨met | result, final⟩
      · rw [ends] at stepped
        cases stepped
        have touched := atomic_action notChoosing ends memory
        obtain ⟨stack, pc, finished, rfl⟩ := (untouched_skip machine 1).trans touched
        exact ⟨⟨stack, pc, true, rfl⟩, rfl⟩
      · rw [ends] at stepped
        cases stepped
  · unfold step at stepped
    rw [running, if_pos rfl] at stepped
    cases stepped

/-- Only a new run takes the end of a program back. -/
theorem finished_respond
    {machine : Machine}
    (ended : machine.finished = true)
    {call : HostCall}
    (other : call ≠ .prepare) :
    (machine.respond call).finished = true := by
  cases call with
  | prepare => exact (other rfl).elim
  | load image =>
      change (machine.load image).2.finished = true
      unfold load
      split
      · rfl
      · exact ended
  | step =>
      change machine.step.2.finished = true
      unfold step
      rw [ended, if_pos rfl]
      exact ended
  | cleanUp => exact ended
  | outside device files clock => exact ended

/-- A machine that is finished stays so until it is prepared again. -/
theorem finished_respondAll
    {machine : Machine}
    (ended : machine.finished = true)
    {calls : List HostCall}
    (others : ∀ call ∈ calls, call ≠ .prepare) :
    (calls.foldl respond machine).finished = true := by
  induction calls generalizing machine with
  | nil => exact ended
  | cons call rest inductionHypothesis =>
      apply inductionHypothesis (finished_respond ended (others call List.mem_cons_self))
      exact fun later member => others later (List.mem_cons_of_mem call member)

/--
A memory fault does nothing by halves.

Whatever instruction but the choice of a file meets it, and in whatever machine,
nothing is different afterwards but the stack, the program counter and that the
program is over. Every later step, after any calls of the host that do not
prepare a new run, tells so and changes nothing.
-/
theorem memory_faults_atomic
    (machine after : Machine)
    (fault : Fault)
    (other : machine.opcode? ≠ some (.builtin .chooseFile))
    (memory : fault.isMemory = true)
    (stepped : machine.step = (.error fault, after)) :
    after = { machine with stack := after.stack, pc := after.pc, finished := true } ∧
      ∀ calls : List HostCall,
        (∀ call ∈ calls, call ≠ .prepare) →
        let later := calls.foldl respond after
        later.step = (.ok true, later) := by
  obtain ⟨⟨stack, pc, finished, rfl⟩, ended⟩ := untouched_of_step other memory stepped
  refine ⟨?_, ?_⟩
  · obtain rfl : finished = true := ended
    rfl
  · intro calls others
    have endedLater := finished_respondAll ended others
    dsimp only
    unfold step
    rw [endedLater, if_pos rfl]

/-- A program about to copy two bytes from the last address to the first. -/
def copyingPast : Machine :=
  List.foldl respond
    (fresh {} { store := { host := {}, root := [] } } { seconds := 0 } .keep)
    [.load (Image.header ++ #[0x01, 0, 0x02, 0xff, 0xff, 0x01, 2, 0xad]), .prepare,
      .step, .step, .step]

theorem copyingPast_changes_nothing :
    ∃ after,
      copyingPast.step = (.error (.memoryRange 0xffff 2), after) ∧
        after.device = copyingPast.device ∧
        after.step = (.ok true, after) := by
  have met :
      (match copyingPast.step.1 with
        | .error fault => some fault
        | .ok _ => none) = some (.memoryRange 0xffff 2) := by
    decide +kernel
  rcases stepped : copyingPast.step with ⟨fault | result, after⟩
  · rw [stepped] at met
    obtain rfl := Option.some.inj met
    obtain ⟨same, later⟩ :=
      memory_faults_atomic copyingPast after _ (by decide +kernel) rfl stepped
    have untouched : Untouched copyingPast after := ⟨after.stack, after.pc, true, same⟩
    exact ⟨after, rfl, untouched.device, later [] nofun⟩
  · rw [stepped] at met
    cases met

end Machine

end Handheld
