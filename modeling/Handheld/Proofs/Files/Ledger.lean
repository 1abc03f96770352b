import Handheld.Files.HandleTable

namespace Handheld

/-!
# The books of the handle table

What is open is written down twice: the slots hold the files, and the store
remembers their places. Both are changed by every opening and closing, in
different functions, and this module says what keeps them in step. Nothing here
depends on what the host has.
-/

namespace HandleSlots

/-- No slot is taken at first. -/
theorem getElem_empty (slot : Fin 3) : ({} : HandleSlots)[slot] = none :=
  Vector.getElem_replicate slot.isLt

/-- Setting a slot sets that one only. -/
theorem getElem_set
    (slots : HandleSlots)
    (slot other : Fin 3)
    (value : Option OpenFile) :
    (slots.set slot value)[other] = if other = slot then value else slots[other] := by
  refine (Vector.getElem_set slot.isLt other.isLt).trans ?_
  simp only [Fin.ext_iff, eq_comm]
  rfl

/-- Setting a slot to what it holds does nothing. -/
theorem set_getElem_self
    (slots : HandleSlots)
    (slot : Fin 3) :
    slots.set slot slots[slot] = slots :=
  congrArg HandleSlots.mk (Vector.set_getElem_self slot.isLt)

/-- Slots are the same when each one is. -/
theorem ext_getElem
    {slots others : HandleSlots}
    (same : ∀ slot : Fin 3, slots[slot] = others[slot]) :
    slots = others :=
  congrArg HandleSlots.mk (Vector.ext fun index inside => same ⟨index, inside⟩)

end HandleSlots

namespace HandleTable

/-- The store remembers the places of the files in the slots, and each has a place of its own. -/
structure Ledger (table : HandleTable) : Prop where
  tracked :
    ∀ place,
      place ∈ table.store.opened ↔
        ∃ (slot : Fin 3) (file : OpenFile), table.slots[slot] = some file ∧ file.place = place
  apart :
    ∀ (slot other : Fin 3) (file otherFile : OpenFile),
      table.slots[slot] = some file →
      table.slots[other] = some otherFile →
      file.place = otherFile.place →
      slot = other

namespace Ledger

/-- A table without open files. -/
theorem empty
    {table : HandleTable}
    (nothing : table.store.opened = [])
    (free : table.slots = {}) :
    table.Ledger := by
  have vacant : ∀ slot : Fin 3, table.slots[slot] = none := by
    rw [free]
    exact HandleSlots.getElem_empty
  refine ⟨?_, ?_⟩
  · intro place
    rw [nothing]
    refine ⟨nofun, ?_⟩
    rintro ⟨slot, file, here, -⟩
    cases (vacant slot).symm.trans here
  · intro slot other file otherFile here
    cases (vacant slot).symm.trans here

variable
  {table : HandleTable}
  (ledger : table.Ledger)

include ledger

/-- The host and the working directory have no part in it. -/
theorem of_same
    {after : HandleTable}
    (slots : after.slots = table.slots)
    (opened : after.store.opened = table.store.opened) :
    after.Ledger := by
  refine ⟨?_, ?_⟩
  · rw [slots, opened]
    exact ledger.tracked
  · rw [slots]
    exact ledger.apart

/-- The place of an open file is remembered. -/
theorem place_mem
    {slot : Fin 3}
    {file : OpenFile}
    (here : table.slots[slot] = some file) :
    file.place ∈ table.store.opened :=
  (ledger.tracked file.place).mpr ⟨slot, file, here, rfl⟩

/-- A file may change as long as it stays in its place. -/
theorem update
    {slot : Fin 3}
    {file changed : OpenFile}
    (here : table.slots[slot] = some file)
    (samePlace : changed.place = file.place) :
    (table.update slot changed).Ledger := by
  have origin :
      ∀ (other : Fin 3) (found : OpenFile),
        (table.update slot changed).slots[other] = some found →
        ∃ before : OpenFile, table.slots[other] = some before ∧ before.place = found.place := by
    intro other found there
    rw [HandleTable.update, HandleSlots.getElem_set] at there
    split at there
    · rename_i same
      rw [← Option.some.inj there, same]
      exact ⟨file, here, samePlace.symm⟩
    · exact ⟨found, there, rfl⟩
  refine ⟨?_, ?_⟩
  · intro place
    refine (ledger.tracked place).trans ⟨?_, ?_⟩
    · rintro ⟨other, found, there, rfl⟩
      by_cases same : other = slot
      · rw [same, here] at there
        refine ⟨slot, changed, ?_, ?_⟩
        · rw [HandleTable.update, HandleSlots.getElem_set, if_pos rfl]
        · rw [samePlace, Option.some.inj there]
      · refine ⟨other, found, ?_, rfl⟩
        rw [HandleTable.update, HandleSlots.getElem_set, if_neg same, there]
    · rintro ⟨other, found, there, rfl⟩
      obtain ⟨before, before?, same⟩ := origin other found there
      exact ⟨other, before, before?, same⟩
  · intro first second firstFile secondFile firstThere secondThere same
    obtain ⟨firstBefore, first?, firstSame⟩ := origin first firstFile firstThere
    obtain ⟨secondBefore, second?, secondSame⟩ := origin second secondFile secondThere
    exact ledger.apart first second firstBefore secondBefore first? second?
      (firstSame.trans (same.trans secondSame.symm))

/-- A file that is not open may take a free slot, once the store remembers it. -/
theorem occupy
    {slot : Fin 3}
    {file : OpenFile}
    {store : Store}
    (free : table.slots[slot] = none)
    (closed : file.place ∉ table.store.opened)
    (remembered : store.opened = file.place :: table.store.opened) :
    Ledger { table with store := store, slots := table.slots.set slot (some file) } := by
  have split :
      ∀ (other : Fin 3) (found : OpenFile),
        (table.slots.set slot (some file))[other] = some found →
        other = slot ∧ found = file ∨ other ≠ slot ∧ table.slots[other] = some found := by
    intro other found there
    rw [HandleSlots.getElem_set] at there
    by_cases same : other = slot
    · rw [if_pos same] at there
      exact .inl ⟨same, (Option.some.inj there).symm⟩
    · rw [if_neg same] at there
      exact .inr ⟨same, there⟩
  have notThere :
      ∀ (other : Fin 3) (found : OpenFile),
        table.slots[other] = some found → found.place ≠ file.place := by
    intro other found there same
    exact closed (same ▸ ledger.place_mem there)
  refine ⟨?_, ?_⟩
  · intro place
    simp only [remembered, List.mem_cons]
    constructor
    · rintro (rfl | opened)
      · exact ⟨slot, file, by rw [HandleSlots.getElem_set, if_pos rfl], rfl⟩
      · obtain ⟨other, found, there, rfl⟩ := (ledger.tracked place).mp opened
        refine ⟨other, found, ?_, rfl⟩
        have different : other ≠ slot := by
          intro same
          rw [same, free] at there
          cases there
        rw [HandleSlots.getElem_set, if_neg different, there]
    · rintro ⟨other, found, there, rfl⟩
      rcases split other found there with ⟨-, rfl⟩ | ⟨-, before⟩
      · exact .inl rfl
      · exact .inr (ledger.place_mem before)
  · intro first second firstFile secondFile firstThere secondThere same
    rcases split first firstFile firstThere with ⟨rfl, rfl⟩ | ⟨-, firstBefore⟩
    · rcases split second secondFile secondThere with ⟨rfl, -⟩ | ⟨-, secondBefore⟩
      · rfl
      · exact (notThere second secondFile secondBefore same.symm).elim
    · rcases split second secondFile secondThere with ⟨rfl, rfl⟩ | ⟨-, secondBefore⟩
      · exact (notThere first firstFile firstBefore same).elim
      · exact ledger.apart first second firstFile secondFile firstBefore secondBefore same

/-- The other files have other places. -/
theorem place_ne
    {slot other : Fin 3}
    {file found : OpenFile}
    (here : table.slots[slot] = some file)
    (there : table.slots[other] = some found)
    (different : other ≠ slot) :
    found.place ≠ file.place :=
  fun same => different (ledger.apart other slot found file there here same)

/-- A slot is given up once the store has forgotten its file. -/
theorem release
    {slot : Fin 3}
    {file : OpenFile}
    {store : Store}
    (here : table.slots[slot] = some file)
    (forgotten : store.opened = table.store.opened.filter (· ≠ file.place)) :
    Ledger { table with store := store, slots := table.slots.set slot none } := by
  have kept :
      ∀ (other : Fin 3) (found : OpenFile),
        (table.slots.set slot none)[other] = some found →
        other ≠ slot ∧ table.slots[other] = some found := by
    intro other found there
    rw [HandleSlots.getElem_set] at there
    by_cases same : other = slot
    · rw [if_pos same] at there
      cases there
    · rw [if_neg same] at there
      exact ⟨same, there⟩
  refine ⟨?_, ?_⟩
  · intro place
    simp only [forgotten, List.mem_filter, decide_eq_true_eq]
    constructor
    · rintro ⟨opened, different⟩
      obtain ⟨other, found, there, rfl⟩ := (ledger.tracked place).mp opened
      refine ⟨other, found, ?_, rfl⟩
      have otherSlot : other ≠ slot := by
        intro same
        rw [same, here] at there
        exact different (congrArg OpenFile.place (Option.some.inj there)).symm
      rw [HandleSlots.getElem_set, if_neg otherSlot, there]
    · rintro ⟨other, found, there, rfl⟩
      obtain ⟨different, before⟩ := kept other found there
      exact ⟨ledger.place_mem before, ledger.place_ne here before different⟩
  · intro first second firstFile secondFile firstThere secondThere same
    exact ledger.apart first second firstFile secondFile (kept first firstFile firstThere).2
      (kept second secondFile secondThere).2 same

end Ledger

end HandleTable

end Handheld
