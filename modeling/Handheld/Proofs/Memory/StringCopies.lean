import Handheld.Proofs.Machine.Step
import Handheld.Proofs.Memory.Strings

namespace Handheld

/-!
# Copies of strings

A string is copied over another place, or behind another string, which may be the
same one. All of it is read before anything is written, so it arrives as it was,
however source and destination overlap, and a string that is put behind itself is
doubled. Only what is written changes, and where that would go past the end of
the address space nothing is written at all.
-/

namespace Machine

/--
A step that stores a text and its NUL behind the first bytes of a string, in the
place of two values on the stack, or stops because they do not fit.
-/
structure StoresString
    (machine : Machine)
    (values : List Word)
    (dest : Nat)
    (front text : List UInt8) : Prop where
  stored :
    ∀ result after,
      machine.step = (.ok result, after) →
      result = false ∧
        after.ram.string? dest = some (front ++ text) ∧
        Ram.SameOutside (dest + front.length) (text.length + 1) machine.ram after.ram ∧
        after.stack.toList = values ∧
        after = { machine with
          pc := machine.pc + 1
          stack := after.stack
          device := { machine.device with ram := after.ram } }
  refused :
    ∀ fault after,
      machine.step = (.error fault, after) →
      fault = .memoryRange (dest + front.length) (text.length + 1) ∧
        after.device = machine.device
  fails_iff :
    (∃ fault after, machine.step = (.error fault, after)) ↔
      Ram.capacity ≤ dest + front.length + text.length

variable
  {machine : Machine}
  {values : List Word}
  {front text : List UInt8}

/-- A function that, behind its arguments, stores a text behind bytes that hold no NUL. -/
theorem storesString_of_outcome
    {function : Builtin}
    {dest : Nat}
    {stack : DataStack}
    (running : machine.finished = false)
    (current : machine.opcode? = some (.builtin function))
    (kept : stack.toList = values)
    (behind : machine.ram.bytes dest front.length = front)
    (noNul : 0 ∉ front ++ text)
    (acts :
      (machine.skip 1).outcome (call function) =
        { machine.skip 1 with stack := stack }.outcome
          (storeString (dest + front.length) text)) :
    machine.StoresString values dest front text := by
  have stepped : machine.step = conclude ((machine.skip 1).outcome (call function)) :=
    step_of_opcode running current
  rw [acts] at stepped
  rcases Nat.lt_or_ge Ram.capacity (dest + front.length + (text.length + 1)) with tooLong | fits
  · rw [outcome_storeString_of_lt _ tooLong] at stepped
    constructor
    · intro result after succeeded
      rw [stepped] at succeeded
      cases succeeded
    · intro fault after failed
      rw [stepped] at failed
      cases failed
      exact ⟨rfl, rfl⟩
    · exact ⟨fun _ => by omega, fun _ => ⟨_, _, stepped⟩⟩
  · rw [outcome_storeString _ fits] at stepped
    constructor
    · intro result after succeeded
      rw [stepped] at succeeded
      cases succeeded
      refine ⟨running, ?_, ?_, kept, rfl⟩
      · apply Ram.string?_eq_some_iff.mpr
        have whole : dest + (front ++ text).length < Ram.capacity := by
          rw [List.length_append]
          omega
        exact Ram.holdsString_writeString behind whole noNul
      · exact Ram.sameOutside_writeString (by omega)
    · intro fault after failed
      rw [stepped] at failed
      cases failed
    · constructor
      · rintro ⟨fault, after, failed⟩
        rw [stepped] at failed
        cases failed
      · intro past
        omega

section Copies

variable
  {dest source : Word}
  (running : machine.finished = false)
  (shown : machine.stack.toList = values ++ [dest, source])
  (sourceHere : machine.ram.string? source.address = some text)

include running shown sourceHere

/-- Copying a string stores it with nothing in front. -/
theorem storesString_stringCopy
    (current : machine.opcode? = some (.builtin .stringCopy)) :
    machine.StoresString values dest.address [] text := by
  have shownLater : (machine.skip 1).stack.toList = values ++ [dest, source] := shown
  obtain ⟨middle, stack, popped, poppedNext, kept⟩ := DataStack.exists_popTwo shownLater
  have read :
      { machine.skip 1 with stack := stack }.outcome (stringAt source.address) =
        (.ok text, { machine.skip 1 with stack := stack }) :=
    outcome_stringAt sourceHere
  refine storesString_of_outcome running current kept rfl
    (Ram.string?_eq_some_iff.mp sourceHere).noNul ?_
  change (machine.skip 1).outcome (popAddress >>= fun source => popAddress >>= fun dest =>
    stringAt source >>= fun text => storeString dest text) = _
  rw [outcome_popAddresses popped poppedNext, outcome_bind_of_ok read]
  rfl

/-- Appending a string stores it behind the one that is there. -/
theorem storesString_stringAppend
    (current : machine.opcode? = some (.builtin .stringAppend))
    (destHere : machine.ram.string? dest.address = some front) :
    machine.StoresString values dest.address front text := by
  have shownLater : (machine.skip 1).stack.toList = values ++ [dest, source] := shown
  obtain ⟨middle, stack, popped, poppedNext, kept⟩ := DataStack.exists_popTwo shownLater
  have readDest :
      { machine.skip 1 with stack := stack }.outcome (stringAt dest.address) =
        (.ok front, { machine.skip 1 with stack := stack }) :=
    outcome_stringAt destHere
  have readSource :
      { machine.skip 1 with stack := stack }.outcome (stringAt source.address) =
        (.ok text, { machine.skip 1 with stack := stack }) :=
    outcome_stringAt sourceHere
  have holdsDest := Ram.string?_eq_some_iff.mp destHere
  have holdsSource := Ram.string?_eq_some_iff.mp sourceHere
  have noNul : 0 ∉ front ++ text := by
    rw [List.mem_append]
    exact not_or.mpr ⟨holdsDest.noNul, holdsSource.noNul⟩
  refine storesString_of_outcome running current kept holdsDest.bytes noNul ?_
  change (machine.skip 1).outcome (popAddress >>= fun source => popAddress >>= fun dest =>
    stringAt dest >>= fun front => stringAt source >>= fun text =>
      storeString (dest + front.length) text) = _
  rw [outcome_popAddresses popped poppedNext, outcome_bind_of_ok readDest,
    outcome_bind_of_ok readSource]

end Copies

/--
Strings are copied as they were.

Wherever the source and the destination lie, also in each other, copying a string
makes it the string at the destination, and appending it makes the string there
the old one followed by the old source. Nothing else in memory changes. Either
fails just when its last byte would lie past the address space, with the range as
the fault, and then changes no memory.
-/
theorem string_copies_exact
    (machine : Machine)
    (values : List Word)
    (dest source : Word)
    (text : List UInt8)
    (running : machine.finished = false)
    (shown : machine.stack.toList = values ++ [dest, source])
    (sourceHere : machine.ram.string? source.address = some text) :
    (machine.opcode? = some (.builtin .stringCopy) →
      machine.StoresString values dest.address [] text) ∧
    ∀ front,
      machine.opcode? = some (.builtin .stringAppend) →
      machine.ram.string? dest.address = some front →
      machine.StoresString values dest.address front text :=
  ⟨storesString_stringCopy running shown sourceHere,
    fun _ => storesString_stringAppend running shown sourceHere⟩

/-- A machine about to put a string of three bytes behind itself, up to the end of memory. -/
def doubling : Machine where
  device := { ram := Ram.blank.writeString 0xfff9 [7, 8, 9] }
  files := { store := { host := {}, root := [] } }
  code := #[0xa6]
  pc := 0
  stack := { slots := #[-7, -7], top := 2, top_le := by decide }
  finished := false

theorem string_doubled :
    ∃ after,
      doubling.step = (.ok false, after) ∧
        after.stack.toList = [] ∧
        after.ram.string? 0xfff9 = some [7, 8, 9, 7, 8, 9] := by
  have holds : doubling.ram.HoldsString 0xfff9 [7, 8, 9] :=
    Ram.holdsString_written (by decide) (by decide)
  have here : doubling.ram.string? 0xfff9 = some [7, 8, 9] := Ram.string?_eq_some_iff.mpr holds
  have stores :=
    (string_copies_exact doubling [] (-7) (-7) [7, 8, 9] rfl rfl here).2 [7, 8, 9] (by decide) here
  rcases stepped : doubling.step with ⟨fault | result, after⟩
  · have past := stores.fails_iff.mp ⟨fault, after, stepped⟩
    exact absurd past (by decide)
  · obtain ⟨rfl, whole, -, shown, -⟩ := stores.stored result after stepped
    exact ⟨after, rfl, shown, whole⟩

end Machine

end Handheld
