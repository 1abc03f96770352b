import Handheld.Proofs.Memory.OverlappingCopy

namespace Handheld

/-!
# Copies that read what they wrote

Copying always upward from the lowest address is the same as moving a range as
long as no byte is written before it is read. A range that is copied up onto
itself is read again where it was just written, so its first bytes come back
over and over: as many of them as the destination lies above the source.
-/

namespace Ram

/--
What is read behind a copy upward to a higher address.

The copy repeats the bytes between source and destination. This covers ranges
that do not overlap too, where it ends before it repeats any of them.
-/
theorem byte_copyForward_up
    (ram : Ram)
    {dest source count read : Nat}
    (up : source < dest)
    (fits : dest + count ≤ capacity)
    (inside : read < capacity) :
    (ram.copyForward dest source count).byte read =
      if dest ≤ read ∧ read < dest + count then
        ram.byte (source + (read - dest) % (dest - source))
      else
        ram.byte read := by
  induction count generalizing ram dest source with
  | zero => rw [copyForward, if_neg (by omega)]
  | succ rest inductionHypothesis =>
      have period : dest + 1 - (source + 1) = dest - source := Nat.add_sub_add_right dest 1 source
      have positive : 0 < dest - source := Nat.sub_pos_of_lt up
      rw [copyForward, inductionHypothesis _ (by omega) (by omega), period]
      by_cases behind : dest + 1 ≤ read ∧ read < dest + 1 + rest
      · obtain ⟨steps, rfl⟩ := Nat.exists_eq_add_of_le behind.1
        have earlier : dest + 1 + steps - (dest + 1) = steps := Nat.add_sub_cancel_left _ _
        have later : dest + 1 + steps - dest = steps + 1 := by omega
        have place := Nat.mod_lt steps positive
        rw [if_pos behind, if_pos (by omega), earlier, later,
          byte_setByte_of_lt ram _ (by omega) (by omega)]
        -- Just below the destination a period ends, and the byte after it is the one just written.
        by_cases last : steps % (dest - source) + 1 = dest - source
        · have again : (steps + 1) % (dest - source) = 0 := by
            rw [Nat.add_mod, ← Nat.add_mod_mod, Nat.mod_mod, Nat.add_mod_mod, last, Nat.mod_self]
          rw [if_pos (by omega), again, Nat.add_zero]
        · have next : (steps + 1) % (dest - source) = steps % (dest - source) + 1 := by
            rw [← Nat.mod_add_mod, Nat.mod_eq_of_lt (by omega)]
          rw [if_neg (by omega), next, Nat.add_right_comm, Nat.add_assoc]
      · rw [if_neg behind, byte_setByte_of_lt ram _ (by omega) inside]
        by_cases here : dest = read
        · rw [if_pos here, if_pos (by omega), here, Nat.sub_self, Nat.zero_mod, Nat.add_zero]
        · rw [if_neg here, if_neg (by omega)]

/-- Where every byte is read before it is written, copying upward is moving. -/
theorem copyForward_eq_copy
    (ram : Ram)
    {dest source count : Nat}
    (destFits : dest + count ≤ capacity)
    (sourceFits : source + count ≤ capacity)
    (unharmed : dest ≤ source ∨ dest + count ≤ source ∨ source + count ≤ dest) :
    ram.copyForward dest source count = ram.copy dest source count := by
  rcases Nat.lt_or_ge source dest with up | down
  · apply ext_byte
    intro address inside
    rw [byte_copyForward_up ram up destFits inside, byte_copy ram destFits sourceFits inside]
    by_cases written : dest ≤ address ∧ address < dest + count
    · have early : address - dest < dest - source := by omega
      rw [if_pos written, if_pos written, Nat.mod_eq_of_lt early]
    · rw [if_neg written, if_neg written]
  · exact (if_pos down).symm

/-- What copying a range upward, byte by byte, makes of memory. -/
structure CopiedForward
    (before after : Ram)
    (dest source count : Nat) : Prop where
  /-- Downward or between ranges that are apart, it moves the range. -/
  moved :
    dest ≤ source ∨ dest + count ≤ source ∨ source + count ≤ dest →
    after = before.copy dest source count
  /-- Up onto itself, it repeats the bytes between source and destination. -/
  repeated :
    source < dest →
    dest < source + count →
    ∀ offset < count,
      after.byte (dest + offset) = before.byte (source + offset % (dest - source))
  untouched :
    ∀ address < capacity,
      address < dest ∨ dest + count ≤ address →
      after.byte address = before.byte address

/-- Copied upwards onto itself, a range repeats its first bytes. -/
theorem copiedForward_copyForward
    (ram : Ram)
    {dest source count : Nat}
    (destFits : dest + count ≤ capacity)
    (sourceFits : source + count ≤ capacity) :
    ram.CopiedForward (ram.copyForward dest source count) dest source count where
  moved := ram.copyForward_eq_copy destFits sourceFits
  repeated := by
    intro up _ offset near
    rw [ram.byte_copyForward_up up destFits (by omega), if_pos (by omega),
      Nat.add_sub_cancel_left]
  untouched := by
    intro address inside outside
    rcases Nat.lt_or_ge source dest with up | down
    · rw [ram.byte_copyForward_up up destFits inside, if_neg (by omega)]
    · rw [ram.byte_copyForward down sourceFits inside, if_neg (by omega)]

end Ram

/-- Copying a range copies it upward, whichever way it goes. -/
theorem Machine.step_memoryCopy
    {machine : Machine}
    {values : List Word}
    {dest source count : Word}
    (running : machine.finished = false)
    (current : machine.opcode? = some (.builtin .memoryCopy))
    (shown : machine.stack.toList = values ++ [dest, source, count])
    (destFits : dest.address + count.address ≤ Ram.capacity)
    (sourceFits : source.address + count.address ≤ Ram.capacity) :
    ∃ stack,
      stack.toList = values ∧
        machine.step =
          (.ok false, { machine.skip 1 with
            stack := stack
            device := { machine.device with
              ram := machine.ram.copyForward dest.address source.address count.address } }) :=
  step_copy (fun dest source count ram => ram.copyForward dest source count) rfl
    running current shown destFits sourceFits

/--
Copying goes upward, and repeats what it copies onto.

As long as both ranges lie in the address space, copying downward or between
ranges that are apart leaves the memory that moving leaves. Copied up onto itself,
a range becomes the bytes between source and destination over and over. No other
byte changes. The built-in function that copies does this and nothing else, and
where the two agree, so does the one that moves.
-/
theorem Ram.forward_copy_exact
    (ram : Ram)
    (dest source count : Nat)
    (destFits : dest + count ≤ Ram.capacity)
    (sourceFits : source + count ≤ Ram.capacity) :
    ram.CopiedForward (ram.copyForward dest source count) dest source count ∧
      ∀ (machine : Machine) (values : List Word) (destWord sourceWord countWord : Word),
        machine.ram = ram →
        machine.finished = false →
        machine.opcode? = some (.builtin .memoryCopy) →
        machine.stack.toList = values ++ [destWord, sourceWord, countWord] →
        destWord.address = dest →
        sourceWord.address = source →
        countWord.address = count →
        ∃ after,
          machine.step = (.ok false, after) ∧
            ram.CopiedForward after.ram dest source count ∧
            after.stack.toList = values ∧
            after = { machine with
              pc := machine.pc + 1
              stack := after.stack
              device := { machine.device with ram := after.ram } } ∧
            ∀ mover : Machine,
              mover.ram = ram →
              mover.finished = false →
              mover.opcode? = some (.builtin .memoryMove) →
              mover.stack.toList = machine.stack.toList →
              dest ≤ source ∨ dest + count ≤ source ∨ source + count ≤ dest →
              mover.step.2.ram = after.ram := by
  have copied := ram.copiedForward_copyForward destFits sourceFits
  refine ⟨copied, ?_⟩
  rintro machine values destWord sourceWord countWord rfl running current shown rfl rfl rfl
  obtain ⟨stack, kept, stepped⟩ :=
    Machine.step_memoryCopy running current shown destFits sourceFits
  refine ⟨_, stepped, copied, kept, rfl, ?_⟩
  intro mover sameRam moverRunning moving sameStack unharmed
  obtain ⟨_, -, moverStepped⟩ :=
    Machine.step_memoryMove moverRunning moving (sameStack.trans shown) destFits sourceFits
  rw [moverStepped, sameRam]
  exact (copied.moved unharmed).symm

/-- A machine about to copy seven bytes up by three, to the end of memory. -/
def Machine.copyingUp : Machine where
  device := { ram := Ram.blank.write 0xfff6 [7, 8, 9] }
  files := { store := { host := {}, root := [] } }
  code := #[0xad]
  pc := 0
  stack := { slots := #[-7, -10, 7], top := 3, top_le := by decide }
  finished := false

theorem Ram.three_bytes_repeated :
    ∃ after,
      Machine.copyingUp.step = (.ok false, after) ∧
        after.stack.toList = [] ∧
        (∀ offset < 7, after.ram.byte (0xfff9 + offset) = UInt8.ofNat (7 + offset % 3)) ∧
        after.ram.byte 0xfff6 = 7 := by
  obtain ⟨-, copying⟩ :=
    forward_copy_exact Machine.copyingUp.ram 0xfff9 0xfff6 7 (by decide) (by decide)
  obtain ⟨after, stepped, copied, shown, -⟩ :=
    copying Machine.copyingUp [] (-7) (-10) 7 rfl rfl (by decide) (by decide) (by decide)
      (by decide) (by decide)
  have before :
      ∀ place < 3, Machine.copyingUp.ram.byte (0xfff6 + place) = UInt8.ofNat (7 + place) := by
    intro place near
    have distance : Ram.distance 0xfff6 (0xfff6 + place) = place := by
      unfold Ram.distance
      omega
    have listed : [7, 8, 9][place]? = some (UInt8.ofNat (7 + place)) := by
      match place, near with
      | 0, _ => rfl
      | 1, _ => rfl
      | 2, _ => rfl
    change (Ram.blank.write 0xfff6 [7, 8, 9]).byte (0xfff6 + place) = _
    rw [Ram.byte_write _ _ _ _ (by decide), distance, listed]
    rfl
  refine ⟨after, stepped, shown, ?_, ?_⟩
  · intro offset near
    exact (copied.repeated (by decide) (by decide) offset near).trans
      (before (offset % 3) (Nat.mod_lt offset (by decide)))
  · exact (copied.untouched 0xfff6 (by decide) (.inl (by decide))).trans (before 0 (by decide))

end Handheld
