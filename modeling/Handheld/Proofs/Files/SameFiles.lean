import Handheld.Proofs.Files.Independence
import Handheld.Proofs.Files.SameTree

namespace Handheld

/-!
# Files on the same tree

Two stores that differ only in the order of their host's entries give the same
answers for ever, and so do two handle tables over such stores. A handle table
also keeps its accounts: whatever its store remembers as open is open under one
of its handles, so nothing is remembered once all handles are closed.
-/

/-- The same answer, with related states behind it. -/
structure SameAnswer
    (related : σ → τ → Prop)
    (first : α × σ)
    (second : α × τ) :
    Prop where
  answer : second.1 = first.1
  state : related first.2 second.2

/-- The two answers are one, and the states stay related. -/
theorem SameAnswer.cases
    {related : σ → τ → Prop}
    {first : α × σ}
    {second : α × τ}
    (same : SameAnswer related first second) :
    ∃ answer state other,
      first = (answer, state) ∧ second = (answer, other) ∧ related state other := by
  obtain ⟨answer, state⟩ := first
  obtain ⟨_, other⟩ := second
  obtain ⟨rfl, related⟩ := same
  exact ⟨_, state, other, rfl, rfl, related⟩

namespace Store

/-- The same store on a host with the same tree. -/
inductive Alike : Store → Store → Prop where
  | intro
      (store : Store)
      {host : Host}
      (same : store.host.SameTree host) :
      Alike store { store with host := host }

namespace Alike

section Operations

variable
  {store other : Store}
  (alike : Alike store other)

include alike

/-- A path has the same place in stores that differ in order only. -/
theorem place (path : String) : other.place path = store.place path := by
  obtain ⟨same⟩ := alike
  unfold Store.place
  simp only [same.canonical]

/-- Making a file ready answers alike. -/
theorem prepare
    (path : String)
    (access : Access) :
    SameAnswer Alike (store.prepare path access) (other.prepare path access) := by
  unfold Store.prepare
  rw [alike.place]
  cases store.place path with
  | error reason => exact ⟨rfl, alike⟩
  | ok place =>
      obtain ⟨same⟩ := alike
      simp only [same.pathExists]
      split
      · obtain ⟨reason, refused, refusedToo⟩ | ⟨written, writtenToo, done, doneToo, sameAfter⟩ :=
          (same.writeFile (.ofPlace place) []).cases
        · rw [refused, refusedToo]
          exact ⟨rfl, .intro store same⟩
        · rw [done, doneToo]
          have made : Alike { store with host := written } { store with host := writtenToo } :=
            .intro _ sameAfter
          exact ⟨made.place path, made⟩
      · exact ⟨rfl, .intro store same⟩

/-- Opening a file answers alike. -/
theorem openFile
    (path : String)
    (access : Access) :
    SameAnswer Alike (store.openFile path access) (other.openFile path access) := by
  unfold Store.openFile
  split
  · exact ⟨rfl, alike⟩
  · obtain ⟨result, ready, readyToo, done, doneToo, readyAlike⟩ :=
      (alike.prepare path access).cases
    rw [done, doneToo]
    cases result with
    | error reason => exact ⟨rfl, readyAlike⟩
    | ok place =>
        obtain ⟨same⟩ := readyAlike
        simp only [same.readFile]
        split
        · exact ⟨rfl, .intro ready same⟩
        · split
          · exact ⟨rfl, .intro ready same⟩
          · exact ⟨rfl, .intro { ready with opened := place :: ready.opened } same⟩

/-- Closing a file answers alike. -/
theorem closeFile (file : OpenFile) :
    SameAnswer Alike (store.closeFile file) (other.closeFile file) := by
  obtain ⟨same⟩ := alike
  unfold Store.closeFile
  simp only
  split
  · obtain ⟨reason, refused, refusedToo⟩ | ⟨written, writtenToo, done, doneToo, sameAfter⟩ :=
      (same.writeFile (.ofPlace file.place) file.content).cases
    · rw [refused, refusedToo]
      exact ⟨rfl, .intro { store with opened := _ } same⟩
    · rw [done, doneToo]
      exact ⟨rfl, .intro { store with host := written, opened := _ } sameAfter⟩
  · exact ⟨rfl, .intro { store with opened := _ } same⟩

/-- The same paths lead to directories. -/
theorem isDirectory (path : String) : other.isDirectory path = store.isDirectory path := by
  unfold Store.isDirectory
  rw [alike.place]
  obtain ⟨same⟩ := alike
  simp only [same.isDirectory]

/-- Making a directory answers alike. -/
theorem makeDirectory (path : String) :
    SameAnswer Alike (store.makeDirectory path) (other.makeDirectory path) := by
  unfold Store.makeDirectory
  rw [alike.place]
  cases store.place path with
  | error reason => exact ⟨rfl, alike⟩
  | ok place =>
      obtain ⟨same⟩ := alike
      obtain ⟨reason, refused, refusedToo⟩ | ⟨made, madeToo, done, doneToo, sameAfter⟩ :=
        (same.makeDirectory (.ofPlace place)).cases
      · simp only [refused, refusedToo]
        exact ⟨rfl, .intro store same⟩
      · simp only [done, doneToo]
        exact ⟨rfl, .intro { store with host := made } sameAfter⟩

/-- Deleting answers alike. -/
theorem delete (path : String) :
    SameAnswer Alike (store.delete path) (other.delete path) := by
  unfold Store.delete
  rw [alike.place]
  cases store.place path with
  | error reason => exact ⟨rfl, alike⟩
  | ok place =>
      obtain ⟨same⟩ := alike
      simp only [same.isDirectory]
      split
      · exact ⟨rfl, .intro store same⟩
      · obtain ⟨reason, refused, refusedToo⟩ | ⟨removed, removedToo, done, doneToo, sameAfter⟩ :=
          (same.remove (.ofPlace place)).cases
        · rw [refused, refusedToo]
          exact ⟨rfl, .intro store same⟩
        · rw [done, doneToo]
          exact ⟨rfl, .intro { store with host := removed } sameAfter⟩

/-- The names in a directory come in whatever order. -/
theorem list (path : String) : Agree List.Perm (other.list path) (store.list path) := by
  unfold Store.list
  rw [alike.place]
  cases store.place path with
  | error reason => exact .error reason
  | ok place =>
      obtain ⟨same⟩ := alike
      simp only [same.isDirectory, same.locate]
      split
      · split
        · exact .ok (same.children _)
        · exact .error _
      · exact .error _

end Operations

end Alike

end Store

namespace Store

/-- Making a file ready opens nothing yet. -/
theorem opened_prepare
    (store : Store)
    (path : String)
    (access : Access) :
    (store.prepare path access).2.opened = store.opened := by
  unfold Store.prepare
  split
  · rfl
  · split
    · split
      · rfl
      · rfl
    · rfl

/-- A file that is opened is remembered. -/
theorem opened_openFile
    {store after : Store}
    {path : String}
    {access : Access}
    {result : Except FileError OpenFile}
    (done : store.openFile path access = (result, after)) :
    after.opened =
      match result with
      | .ok file => file.place :: store.opened
      | .error _ => store.opened := by
  have prepared := store.opened_prepare path access
  unfold Store.openFile at done
  split at done
  · cases done
    rfl
  · rcases ready : store.prepare path access with ⟨_ | place, found⟩
    · rw [ready] at done prepared
      cases done
      exact prepared
    · rw [ready] at done prepared
      dsimp only at done
      split at done
      · cases done
        exact prepared
      · split at done
        · cases done
          exact prepared
        · cases done
          exact congrArg (place :: ·) prepared

/-- Only the place of a closed file is forgotten. -/
theorem opened_closeFile
    (store : Store)
    (file : OpenFile) :
    (store.closeFile file).2.opened = store.opened.filter (· ≠ file.place) := by
  unfold Store.closeFile
  dsimp only
  split
  · split
    · rfl
    · rfl
  · rfl

/-- Making a directory opens nothing. -/
theorem opened_makeDirectory
    (store : Store)
    (path : String) :
    (store.makeDirectory path).2.opened = store.opened := by
  unfold Store.makeDirectory
  split
  · rfl
  · split
    · rfl
    · rfl

/-- Deleting closes nothing. -/
theorem opened_delete
    (store : Store)
    (path : String) :
    (store.delete path).2.opened = store.opened := by
  unfold Store.delete
  split
  · rfl
  · split
    · rfl
    · dsimp only
      split
      · rfl
      · rfl

/-- Closing a file leaves the root where it is. -/
theorem root_closeFile
    (store : Store)
    (file : OpenFile) :
    (store.closeFile file).2.root = store.root := by
  unfold closeFile
  dsimp only
  split
  · split
    · rfl
    · rfl
  · rfl

end Store

namespace HandleTable

/-- What the store remembers as open is open under a handle. -/
def Tracked (table : HandleTable) : Prop :=
  ∀ place ∈ table.store.opened,
    ∃ (slot : Fin 3) (file : OpenFile), table.slots[slot] = some file ∧ file.place = place

namespace Tracked

variable {table : HandleTable}

/-- What is tracked depends on the open places of the store only. -/
theorem withStore
    (tracked : table.Tracked)
    {store : Store}
    (same : store.opened = table.store.opened) :
    Tracked { table with store := store } := by
  intro place member
  rw [same] at member
  exact tracked place member

/-- A slot may be filled, or filled anew with a file of the same place. -/
theorem set
    (tracked : table.Tracked)
    {slot : Fin 3}
    {file : OpenFile}
    (same : ∀ earlier, table.slots[slot] = some earlier → file.place = earlier.place)
    {store : Store}
    (opened : ∀ place ∈ store.opened, place = file.place ∨ place ∈ table.store.opened) :
    Tracked { table with store := store, slots := table.slots.set slot (some file) } := by
  intro place member
  rcases opened place member with rfl | before
  · exact ⟨slot, file, by rw [HandleSlots.getElem_set, if_pos rfl], rfl⟩
  · obtain ⟨other, found, there, rfl⟩ := tracked place before
    by_cases here : other = slot
    · rw [here] at there
      exact ⟨slot, file, by rw [HandleSlots.getElem_set, if_pos rfl], same found there⟩
    · exact ⟨other, found, by rw [HandleSlots.getElem_set, if_neg here, there], rfl⟩

/-- Closing a file forgets its place. -/
theorem release
    (tracked : table.Tracked)
    {slot : Fin 3}
    {file : OpenFile}
    (here : table.slots[slot] = some file) :
    Tracked { table with
      store := (table.store.closeFile file).2
      slots := table.slots.set slot none } := by
  intro place member
  rw [Store.opened_closeFile] at member
  obtain ⟨before, apart⟩ := List.mem_filter.mp member
  obtain ⟨other, found, there, rfl⟩ := tracked place before
  have different : other ≠ slot := by
    rintro rfl
    rw [here] at there
    rw [Option.some.inj there] at apart
    exact of_decide_eq_true apart rfl
  exact ⟨other, found, by rw [HandleSlots.getElem_set, if_neg different, there], rfl⟩

end Tracked

/-- The same table over a store that is alike. -/
inductive Alike : HandleTable → HandleTable → Prop where
  | intro
      (table : HandleTable)
      {store : Store}
      (stores : table.store.Alike store)
      (tracked : table.Tracked) :
      Alike table { table with store := store }

namespace Alike

section Operations

variable
  {table other : HandleTable}
  (alike : Alike table other)

include alike

/-- A handle leads to the same file. -/
theorem find (handle : Word) : other.find handle = table.find handle := by
  cases alike
  rfl

theorem tell (handle : Word) : other.tell handle = table.tell handle := by
  cases alike
  rfl

theorem size (handle : Word) : other.size handle = table.size handle := by
  cases alike
  rfl

theorem atEnd (handle : Word) : other.atEnd handle = table.atEnd handle := by
  cases alike
  rfl

theorem workingDir : other.workingDir = table.workingDir := by
  cases alike
  rfl

/-- The same slot is free. -/
theorem freeSlot? : other.freeSlot? = table.freeSlot? := by
  cases alike
  rfl

theorem absolute (path : String) : other.absolute path = table.absolute path := by
  cases alike
  rfl

/-- A file may be replaced by one of the same place. -/
theorem update
    {handle : Word}
    {slot : Fin 3}
    {file changed : OpenFile}
    (found : table.find handle = .ok (slot, file))
    (samePlace : changed.place = file.place) :
    Alike (table.update slot changed) (other.update slot changed) := by
  obtain ⟨stores, tracked⟩ := alike
  refine .intro (table.update slot changed) stores (tracked.set ?_ fun _ => .inr)
  intro earlier here
  rw [(find_eq_ok_iff.mp found).2] at here
  rw [samePlace, Option.some.inj here]

/-- Moving a cursor answers alike. -/
theorem seek
    (handle : Word)
    (offset : Int) :
    Agree Alike (table.seek handle offset) (other.seek handle offset) := by
  unfold HandleTable.seek
  rw [alike.find]
  refine .bind _ fun (slot, file) found => .bind _ fun moved sought => .ok ?_
  refine alike.update found ?_
  unfold OpenFile.seek at sought
  split at sought
  · rw [← Except.ok.inj sought]
  · cases sought

/-- Reading gives the same bytes. -/
theorem read
    (handle : Word)
    (count : Nat) :
    Agree (SameAnswer Alike) (table.read handle count) (other.read handle count) := by
  unfold HandleTable.read
  rw [alike.find]
  refine .bind _ fun (slot, file) found => ?_
  dsimp only
  split
  · exact .ok ⟨rfl, alike.update found rfl⟩
  · exact .error _

/-- Writing is taken alike. -/
theorem write
    (handle : Word)
    (bytes : List UInt8) :
    Agree Alike (table.write handle bytes) (other.write handle bytes) := by
  unfold HandleTable.write
  rw [alike.find]
  refine .bind _ fun (slot, file) found => ?_
  dsimp only
  split
  · refine .ok (alike.update found ?_)
    unfold OpenFile.write
    split
    · rfl
    · rfl
  · exact .error _

/-- The same slot is taken for a file, or the same error given. -/
theorem openFile (path mode : String) :
    SameAnswer Alike (table.openFile path mode) (other.openFile path mode) := by
  unfold HandleTable.openFile
  rw [alike.freeSlot?, alike.absolute]
  cases free : table.freeSlot? with
  | none => exact ⟨rfl, alike⟩
  | some slot =>
      cases OpenMode.parse mode with
      | error reason => exact ⟨rfl, alike⟩
      | ok mode =>
          obtain ⟨stores, tracked⟩ := alike
          obtain ⟨result, after, afterToo, done, doneToo, afterAlike⟩ :=
            (stores.openFile (table.absolute path) mode.access).cases
          dsimp only
          rw [done, doneToo]
          cases result with
          | error reason =>
              have kept := tracked.withStore (Store.opened_openFile done)
              exact ⟨rfl, .intro { table with store := after } afterAlike kept⟩
          | ok file =>
              refine ⟨rfl, .intro { table with store := after, slots := _ } afterAlike ?_⟩
              refine tracked.set ?_ ?_
              · intro earlier here
                rw [free_of_freeSlot? free] at here
                cases here
              · intro place member
                rw [Store.opened_openFile done] at member
                rw [place_applyMode]
                exact List.mem_cons.mp member

/-- A file is closed alike, whatever the order of its store. -/
theorem closeFile (handle : Word) :
    SameAnswer Alike (table.closeFile handle) (other.closeFile handle) := by
  unfold HandleTable.closeFile
  rw [alike.find]
  cases found : table.find handle with
  | error reason => exact ⟨rfl, alike⟩
  | ok pair =>
      obtain ⟨slot, file⟩ := pair
      obtain ⟨stores, tracked⟩ := alike
      obtain ⟨same, closed⟩ := stores.closeFile file
      exact ⟨same, .intro _ closed (tracked.release (find_eq_ok_iff.mp found).2)⟩

/-- A slot is closed alike. -/
theorem closeSlot (slot : Fin 3) : Alike (table.closeSlot slot) (other.closeSlot slot) := by
  obtain ⟨stores, tracked⟩ := alike
  unfold HandleTable.closeSlot
  cases here : table.slots[slot] with
  | none => exact .intro table stores tracked
  | some file => exact .intro _ (stores.closeFile file).state (tracked.release here)

/-- All slots are closed alike. -/
theorem closeAll : Alike table.closeAll other.closeAll := by
  unfold HandleTable.closeAll
  generalize List.finRange 3 = slots
  induction slots generalizing table other with
  | nil => exact alike
  | cons slot rest inductionHypothesis => exact inductionHypothesis (alike.closeSlot slot)

/-- Tables are reset alike. -/
theorem reset : Alike table.reset other.reset := by
  have closed := alike.closeAll
  unfold HandleTable.reset
  generalize table.closeAll = first at closed ⊢
  generalize other.closeAll = second at closed ⊢
  obtain ⟨stores, tracked⟩ := closed
  exact .intro { first with workingDir := "/" } stores tracked

/-- The open places of alike tables are those of their slots. -/
theorem tracked : table.Tracked := by
  cases alike
  assumption

/-- The directory is changed alike. -/
theorem changeDir (path : String) :
    Agree Alike (table.changeDir path) (other.changeDir path) := by
  unfold HandleTable.changeDir
  rw [alike.absolute]
  obtain ⟨stores, tracked⟩ := alike
  dsimp only
  rw [stores.isDirectory]
  split
  · exact .ok (.intro { table with workingDir := _ } stores tracked)
  · exact .error _

/-- A directory is made alike through a table. -/
theorem makeDirectory (path : String) :
    SameAnswer Alike (table.makeDirectory path) (other.makeDirectory path) := by
  obtain ⟨stores, tracked⟩ := alike
  obtain ⟨same, made⟩ := stores.makeDirectory (table.absolute path)
  have kept := tracked.withStore (table.store.opened_makeDirectory (table.absolute path))
  exact ⟨same, .intro { table with store := _ } made kept⟩

/-- A file is deleted alike through a table. -/
theorem delete (path : String) :
    SameAnswer Alike (table.delete path) (other.delete path) := by
  obtain ⟨stores, tracked⟩ := alike
  obtain ⟨same, deleted⟩ := stores.delete (table.absolute path)
  have kept := tracked.withStore (table.store.opened_delete (table.absolute path))
  exact ⟨same, .intro { table with store := _ } deleted kept⟩

/-- The same names are listed, if not in the same order. -/
theorem list : Agree List.Perm other.list table.list := by
  obtain ⟨stores, tracked⟩ := alike
  exact stores.list table.workingDir

end Operations

end Alike

section Reset

variable {table : HandleTable}

/-- Closing a slot frees that one. -/
theorem slots_closeSlot (slot : Fin 3) :
    (table.closeSlot slot).slots = table.slots.set slot none := by
  unfold closeSlot
  cases here : table.slots[slot] with
  | some file => rfl
  | none =>
      dsimp only
      rw [← here, HandleSlots.set_getElem_self]

/-- Closing a slot does not move the root. -/
theorem root_closeSlot (slot : Fin 3) : (table.closeSlot slot).store.root = table.store.root := by
  unfold closeSlot
  cases table.slots[slot] with
  | none => rfl
  | some file => exact table.store.root_closeFile file

/-- Closing all slots does not move the root. -/
theorem root_closeAll : table.closeAll.store.root = table.store.root := by
  unfold closeAll
  generalize List.finRange 3 = slots
  induction slots generalizing table with
  | nil => rfl
  | cons slot rest inductionHypothesis => exact inductionHypothesis.trans (root_closeSlot slot)

/-- When all slots are closed none is taken. -/
theorem slots_closeAll : table.closeAll.slots = {} := by
  have three : table.closeAll = ((table.closeSlot 0).closeSlot 1).closeSlot 2 := rfl
  rw [three, slots_closeSlot, slots_closeSlot, slots_closeSlot]
  apply HandleSlots.ext_getElem
  intro slot
  simp only [HandleSlots.getElem_set, HandleSlots.getElem_empty]
  match slot with
  | 0 => rfl
  | 1 => rfl
  | 2 => rfl

/-- Once all handles are closed nothing is remembered as open. -/
theorem opened_closeAll (tracked : table.closeAll.Tracked) : table.closeAll.store.opened = [] := by
  apply List.eq_nil_iff_forall_not_mem.mpr
  intro place member
  obtain ⟨slot, file, here, -⟩ := tracked place member
  rw [slots_closeAll, HandleSlots.getElem_empty] at here
  cases here

/-- A table that is reset is a new one over the same root. -/
theorem reset_eq (tracked : table.closeAll.Tracked) :
    table.reset = { store := { host := table.reset.store.host, root := table.store.root } } := by
  have slots : table.reset.slots = {} := slots_closeAll
  have root : table.reset.store.root = table.store.root := root_closeAll
  have opened : table.reset.store.opened = [] := opened_closeAll tracked
  have workingDir : table.reset.workingDir = "/" := rfl
  generalize table.reset = after at slots root opened workingDir ⊢
  obtain ⟨⟨host, _, _⟩, _, _⟩ := after
  subst slots root opened workingDir
  rfl

/-- Nothing but the root and the tree is left of tables that are reset. -/
theorem alike_reset
    {other : HandleTable}
    (closed : table.closeAll.Tracked)
    (closedToo : other.closeAll.Tracked)
    (root : other.store.root = table.store.root)
    (same : table.reset.store.host.SameTree other.reset.store.host) :
    Alike table.reset other.reset := by
  rw [reset_eq closed, reset_eq closedToo, root]
  exact .intro { store := _ } (.intro { host := _, root := _ } same) fun _ => nofun

end Reset

end HandleTable

end Handheld
