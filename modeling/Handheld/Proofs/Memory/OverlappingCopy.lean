import Handheld.Memory.Window
import Handheld.Proofs.Machine.Step
import Handheld.Proofs.Memory.Ranges

namespace Handheld

/-!
# Copies that overlap

A copy reads and writes the same memory, one byte at a time. Going up when the
range moves down, and down when it moves up, it writes over a byte only after it
has read it, so all of the range arrives as it was. The same holds of copies
through a window and of the built-in function, which checks its two ranges and
then copies.
-/

/-- What moving a range of memory makes of it. -/
structure Ram.Moved
    (before after : Ram)
    (dest source count : Nat) : Prop where
  arrived :
    ∀ offset < count,
      after.byte (dest + offset) = before.byte (source + offset)
  untouched :
    ∀ address < Ram.capacity,
      address < dest ∨ dest + count ≤ address →
      after.byte address = before.byte address

/-- In either direction, no byte is overwritten before it is read. -/
theorem Ram.moved_copy
    (ram : Ram)
    {dest source count : Nat}
    (destFits : dest + count ≤ Ram.capacity)
    (sourceFits : source + count ≤ Ram.capacity) :
    ram.Moved (ram.copy dest source count) dest source count where
  arrived := by
    intro offset near
    rw [ram.byte_copy destFits sourceFits (by omega), if_pos (by omega), Nat.add_sub_cancel_left]
  untouched := by
    intro address inside outside
    rw [ram.byte_copy destFits sourceFits inside, if_neg (by omega)]

namespace Machine

/-- The arguments of a copy are taken from the stack and pass when both ranges fit. -/
theorem outcome_takeCopy
    {machine : Machine}
    {dest source count : Word}
    {stack : DataStack}
    (taken : machine.stack.take 3 = .ok (#v[dest, source, count], stack))
    (destFits : dest.address + count.address ≤ Ram.capacity)
    (sourceFits : source.address + count.address ≤ Ram.capacity) :
    machine.outcome takeCopy =
      (.ok (dest.address, source.address, count.address), { machine with stack := stack }) := by
  unfold takeCopy
  rw [outcome_bind_of_ok (outcome_takeThree taken)]
  dsimp only
  rw [outcome_bind_of_ok (outcome_checkRange _ destFits),
    outcome_bind_of_ok (outcome_checkRange _ sourceFits)]
  rfl

/-- A built-in function that copies takes its arguments and changes nothing but memory. -/
theorem step_copy
    {machine : Machine}
    {function : Builtin}
    (move : Nat → Nat → Nat → Ram → Ram)
    (copies :
      call function = takeCopy >>= fun range => onRam (move range.1 range.2.1 range.2.2))
    {values : List Word}
    {dest source count : Word}
    (running : machine.finished = false)
    (current : machine.opcode? = some (.builtin function))
    (shown : machine.stack.toList = values ++ [dest, source, count])
    (destFits : dest.address + count.address ≤ Ram.capacity)
    (sourceFits : source.address + count.address ≤ Ram.capacity) :
    ∃ stack,
      stack.toList = values ∧
        machine.step =
          (.ok false, { machine.skip 1 with
            stack := stack
            device := { machine.device with
              ram := move dest.address source.address count.address machine.ram } }) := by
  have arguments :
      machine.stack.toList = values ++ (#v[dest, source, count] : Vector Word 3).toList :=
    shown
  obtain ⟨stack, taken, kept⟩ := DataStack.exists_take arguments
  have range :
      (machine.skip 1).outcome takeCopy =
        (.ok (dest.address, source.address, count.address),
          { machine.skip 1 with stack := stack }) :=
    outcome_takeCopy taken destFits sourceFits
  have action : Opcode.action (.builtin function) = call function := rfl
  refine ⟨stack, kept, ?_⟩
  rw [step_of_opcode running current, action, copies, outcome_bind_of_ok range, outcome_onRam]
  change (Except.ok machine.finished, _) = _
  rw [running]
  rfl

/-- Moving a range copies it in the direction in which nothing is lost. -/
theorem step_memoryMove
    {machine : Machine}
    {values : List Word}
    {dest source count : Word}
    (running : machine.finished = false)
    (current : machine.opcode? = some (.builtin .memoryMove))
    (shown : machine.stack.toList = values ++ [dest, source, count])
    (destFits : dest.address + count.address ≤ Ram.capacity)
    (sourceFits : source.address + count.address ≤ Ram.capacity) :
    ∃ stack,
      stack.toList = values ∧
        machine.step =
          (.ok false, { machine.skip 1 with
            stack := stack
            device := { machine.device with
              ram := machine.ram.copy dest.address source.address count.address } }) :=
  step_copy (fun dest source count ram => ram.copy dest source count) rfl
    running current shown destFits sourceFits

end Machine

/--
A range is copied as it was, however it overlaps its destination.

As long as both ranges lie in the address space, every byte of the destination
becomes what the byte of the source was, and no other byte changes: in memory,
through a window, and by the built-in function that moves memory.
-/
theorem Ram.overlapping_copy_exact
    (ram : Ram)
    (dest source count : Nat)
    (destFits : dest + count ≤ Ram.capacity)
    (sourceFits : source + count ≤ Ram.capacity) :
    ram.Moved (ram.copy dest source count) dest source count ∧
      (∀ (window : Window) (destOffset sourceOffset : Nat),
        window.start + destOffset = dest →
        window.start + sourceOffset = source →
        ram.Moved (window.copy ram destOffset sourceOffset count) dest source count) ∧
      ∀ (machine : Machine) (values : List Word) (destWord sourceWord countWord : Word),
        machine.ram = ram →
        machine.finished = false →
        machine.opcode? = some (.builtin .memoryMove) →
        machine.stack.toList = values ++ [destWord, sourceWord, countWord] →
        destWord.address = dest →
        sourceWord.address = source →
        countWord.address = count →
        ∃ after,
          machine.step = (.ok false, after) ∧
            ram.Moved after.ram dest source count ∧
            after.stack.toList = values ∧
            after = { machine with
              pc := machine.pc + 1
              stack := after.stack
              device := { machine.device with ram := after.ram } } := by
  have moved := ram.moved_copy destFits sourceFits
  refine ⟨moved, ?_, ?_⟩
  · rintro window destOffset sourceOffset rfl rfl
    exact moved
  · rintro machine values destWord sourceWord countWord rfl running current shown rfl rfl rfl
    obtain ⟨stack, kept, stepped⟩ :=
      Machine.step_memoryMove running current shown destFits sourceFits
    exact ⟨_, stepped, moved, kept, rfl⟩

/-- A machine about to move three bytes up by one, to the end of memory. -/
def Machine.movingUp : Machine where
  device := { ram := Ram.blank.write 0xfffc [7, 8, 9] }
  files := { store := { host := {}, root := [] } }
  code := #[0xbd]
  pc := 0
  stack := { slots := #[-3, -4, 3], top := 3, top_le := Nat.le_refl 3 }
  finished := false

theorem Ram.moved_up_by_one :
    ∃ after,
      Machine.movingUp.step = (.ok false, after) ∧
        after.stack.toList = [] ∧
        after.ram.byte 0xfffd = 7 ∧
        after.ram.byte 0xfffe = 8 ∧
        after.ram.byte 0xffff = 9 ∧
        after.ram.byte 0xfffc = 7 := by
  obtain ⟨-, -, moving⟩ :=
    overlapping_copy_exact Machine.movingUp.ram 0xfffd 0xfffc 3 (by decide) (by decide)
  obtain ⟨after, stepped, moved, shown, -⟩ :=
    moving Machine.movingUp [] (-3) (-4) 3 rfl rfl (by decide) (by decide) (by decide) (by decide)
      (by decide)
  have before :
      ∀ place byte,
        [7, 8, 9][place]? = some byte →
        Machine.movingUp.ram.byte (0xfffc + place) = byte := by
    intro place byte here
    have near : place < 3 := (List.getElem?_eq_some_iff.mp here).1
    have distance : Ram.distance 0xfffc (0xfffc + place) = place := by
      unfold Ram.distance
      omega
    change (Ram.blank.write 0xfffc [7, 8, 9]).byte (0xfffc + place) = byte
    rw [Ram.byte_write _ _ _ _ (by decide), distance, here]
    rfl
  refine ⟨after, stepped, shown, ?_, ?_, ?_, ?_⟩
  · exact (moved.arrived 0 (by decide)).trans (before 0 7 rfl)
  · exact (moved.arrived 1 (by decide)).trans (before 1 8 rfl)
  · exact (moved.arrived 2 (by decide)).trans (before 2 9 rfl)
  · exact (moved.untouched 0xfffc (by decide) (.inl (by decide))).trans (before 0 7 rfl)

end Handheld
