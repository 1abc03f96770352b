import Handheld.Proofs.Files.SameFiles

namespace Handheld

/-!
# Runs of the handle table

Whatever is asked of a handle table, and whatever becomes of its host meanwhile,
the store remembers the places of the files in the slots and no others, no place
is taken twice, and no cursor stands past the end of its file. A new file gets
the lowest free slot, also when earlier openings, closings or write-backs failed.
-/

/-- Anything that can be asked of a handle table. -/
inductive TableCall where
  | file (call : FileCall)
  | closeAll
  | list
  | isDirectory (path : String)
  deriving DecidableEq, Repr

/-- A call, or a change of the host that the table has no part in. -/
inductive TableEvent where
  | call (call : TableCall)
  | host (host : Host)
  deriving DecidableEq, Repr

namespace OpenFile

/-- The cursor of a file that was just opened stands inside it, whatever the mode. -/
theorem cursor_applyMode
    {file : OpenFile}
    (cursor : file.offset ≤ file.size)
    (mode : OpenMode) :
    (HandleTable.applyMode mode file).offset ≤ (HandleTable.applyMode mode file).size := by
  obtain ⟨access, truncate, append⟩ := mode
  cases truncate with
  | true => cases append <;> exact Nat.zero_le _
  | false =>
      cases append with
      | true => exact Nat.le_refl _
      | false => exact cursor

/-- A read takes the bytes from the cursor to where it stops, all of them in the file. -/
theorem read_eq_slice
    {file : OpenFile}
    (cursor : file.offset ≤ file.size)
    (count : Nat) :
    let stop := min (file.offset + count) file.size
    file.offset ≤ stop ∧
      stop ≤ file.size ∧
      (file.read count).1 = (file.content.take stop).drop file.offset ∧
      (file.read count).2 = { file with offset := stop } := by
  unfold size at cursor
  have available :
      file.offset + min count (file.content.length - file.offset) =
        min (file.offset + count) file.content.length := by
    omega
  refine ⟨?_, Nat.min_le_right _ _, ?_, ?_⟩
  · unfold size
    omega
  · simp only [read, size, List.drop_take, ← available, Nat.add_sub_cancel_left]
    rw [← List.length_drop]
    exact List.take_eq_take_min
  · simp only [read, List.length_take, List.length_drop, available, size]

/-- A write leaves the bytes before the cursor and those behind what it wrote, and no gap. -/
theorem content_write
    {file : OpenFile}
    (cursor : file.offset ≤ file.size)
    (bytes : List UInt8) :
    (file.write bytes).content =
      file.content.take file.offset ++ bytes ++ file.content.drop (file.offset + bytes.length) := by
  by_cases nothing : bytes = []
  · subst nothing
    simp [write]
  · rw [write_of_cursor_le cursor nothing]

end OpenFile

namespace Store

/-- A file that is opened was not open, and its cursor stands at its start. -/
theorem fresh_of_openFile
    {store after : Store}
    {path : String}
    {access : Access}
    {file : OpenFile}
    (done : store.openFile path access = (.ok file, after)) :
    file.place ∉ store.opened ∧ file.offset = 0 := by
  have prepared := store.opened_prepare path access
  unfold Store.openFile at done
  split at done
  · cases done
  · split at done
    · cases done
    · rename_i ready preparing
      rw [preparing] at prepared
      split at done
      · cases done
      · rename_i closed
        split at done
        · cases done
        · cases done
          rw [prepared] at closed
          exact ⟨closed, rfl⟩

end Store

namespace HandleTable

/-- The table after a call. -/
def act
    (table : HandleTable) :
    TableCall → HandleTable
  | .file call => (table.perform call).2
  | .closeAll => table.closeAll
  | .list => table
  | .isDirectory _ => table

/-- The table after a call or a change of its host. -/
def meet
    (table : HandleTable) :
    TableEvent → HandleTable
  | .call call => table.act call
  | .host host => { table with store := { table.store with host := host } }

/-- The places of the open files, slot by slot. -/
def openPlaces (table : HandleTable) : List Place :=
  table.slots.files.toList.filterMap fun slot => slot.map OpenFile.place

/-- The books agree, and every cursor stands inside its file. -/
structure Balanced (table : HandleTable) : Prop where
  ledger : table.Ledger
  distinct : table.store.opened.Nodup
  cursors :
    ∀ (slot : Fin 3) (file : OpenFile), table.slots[slot] = some file → file.offset ≤ file.size

/-- The open places are those of the files in the slots. -/
theorem mem_openPlaces
    {table : HandleTable}
    {place : Place} :
    place ∈ table.openPlaces ↔
      ∃ (slot : Fin 3) (file : OpenFile), table.slots[slot] = some file ∧ file.place = place := by
  unfold openPlaces
  simp only [List.mem_filterMap, Option.map_eq_some_iff, Vector.mem_toList_iff]
  constructor
  · rintro ⟨_, member, file, rfl, same⟩
    obtain ⟨index, inside, here⟩ := Vector.mem_iff_getElem.mp member
    exact ⟨⟨index, inside⟩, file, here, same⟩
  · rintro ⟨slot, file, here, same⟩
    exact ⟨some file, Vector.mem_iff_getElem.mpr ⟨slot, slot.isLt, here⟩, file, rfl, same⟩

/-- No more places are open than there are slots. -/
theorem length_openPlaces_le (table : HandleTable) : table.openPlaces.length ≤ 3 := by
  have shorter := List.length_filterMap_le
    (fun slot : Option OpenFile => slot.map OpenFile.place) table.slots.files.toList
  rwa [Vector.length_toList] at shorter

/-- No place is open twice where the ledger is kept. -/
theorem Ledger.nodup_openPlaces
    {table : HandleTable}
    (ledger : table.Ledger) :
    table.openPlaces.Nodup := by
  unfold openPlaces List.Nodup
  rw [List.pairwise_filterMap, List.pairwise_iff_getElem]
  intro first second firstInside secondInside before place there otherPlace otherThere same
  obtain ⟨file, here, rfl⟩ := Option.map_eq_some_iff.mp there
  obtain ⟨otherFile, otherHere, rfl⟩ := Option.map_eq_some_iff.mp otherThere
  rw [Vector.length_toList] at firstInside secondInside
  rw [Vector.getElem_toList] at here otherHere
  have sameSlot :=
    ledger.apart ⟨first, firstInside⟩ ⟨second, secondInside⟩ file otherFile here otherHere same
  exact Nat.ne_of_lt before (Fin.mk.inj sameSlot)

namespace Balanced

/-- A new table is balanced. -/
theorem empty
    (host : Host)
    (root : Place) :
    Balanced { store := { host := host, root := root } } := by
  refine ⟨.empty rfl rfl, List.nodup_nil, ?_⟩
  intro slot file here
  cases (HandleSlots.getElem_empty slot).symm.trans here

variable
  {table : HandleTable}
  (balanced : table.Balanced)

include balanced

/-- Only the slots and the list of open places count for the balance. -/
theorem of_same
    {after : HandleTable}
    (slots : after.slots = table.slots)
    (opened : after.store.opened = table.store.opened) :
    after.Balanced := by
  refine ⟨balanced.ledger.of_same slots opened, opened ▸ balanced.distinct, ?_⟩
  rw [slots]
  exact balanced.cursors

/-- A file that is edited in its slot keeps the balance. -/
theorem update
    {slot : Fin 3}
    {file changed : OpenFile}
    (here : table.slots[slot] = some file)
    (edited : file.Edited changed) :
    (table.update slot changed).Balanced := by
  refine ⟨balanced.ledger.update here edited.place, balanced.distinct, ?_⟩
  intro other found there
  rw [HandleTable.update, HandleSlots.getElem_set] at there
  split at there
  · rw [← Option.some.inj there]
    exact edited.cursor
  · exact balanced.cursors other found there

/-- Closing gives up the slot and the place together, whether or not writing back works. -/
theorem release
    {slot : Fin 3}
    {file : OpenFile}
    (here : table.slots[slot] = some file) :
    Balanced { table with
      store := (table.store.closeFile file).2
      slots := table.slots.set slot none } := by
  have forgotten := table.store.opened_closeFile file
  refine ⟨balanced.ledger.release here forgotten, ?_, ?_⟩
  · change (table.store.closeFile file).2.opened.Nodup
    rw [forgotten]
    exact balanced.distinct.filter _
  · intro other found there
    rw [HandleSlots.getElem_set] at there
    split at there
    · cases there
    · exact balanced.cursors other found there

/-- Opening a file keeps the balance, whether or not it succeeds. -/
theorem openFile (path text : String) : (table.openFile path text).2.Balanced := by
  unfold HandleTable.openFile
  split
  · exact balanced
  · rename_i slot free
    split
    · exact balanced
    · rename_i mode parsed
      split
      · rename_i error store refused
        exact balanced.of_same rfl (Store.opened_openFile refused)
      · rename_i file store done
        obtain ⟨closed, start⟩ := Store.fresh_of_openFile done
        have remembered : store.opened = (applyMode mode file).place :: table.store.opened := by
          rw [place_applyMode]
          exact Store.opened_openFile done
        rw [← place_applyMode mode file] at closed
        refine ⟨balanced.ledger.occupy (free_of_freeSlot? free) closed remembered, ?_, ?_⟩
        · rw [remembered]
          exact List.nodup_cons.mpr ⟨closed, balanced.distinct⟩
        · intro other found there
          rw [HandleSlots.getElem_set] at there
          split at there
          · rw [← Option.some.inj there]
            exact OpenFile.cursor_applyMode (start ▸ Nat.zero_le _) mode
          · exact balanced.cursors other found there

/-- Closing a file keeps the balance, also when writing back fails. -/
theorem closeFile (handle : Word) : (table.closeFile handle).2.Balanced := by
  unfold HandleTable.closeFile
  split
  · exact balanced
  · rename_i slot file found
    exact balanced.release (find_eq_ok_iff.mp found).2

/-- Closing whatever is in a slot keeps the balance. -/
theorem closeSlot (slot : Fin 3) : (table.closeSlot slot).Balanced := by
  unfold HandleTable.closeSlot
  split
  · rename_i file here
    exact balanced.release here
  · exact balanced

/-- Closing every slot keeps the balance. -/
theorem closeAll : table.closeAll.Balanced := by
  unfold HandleTable.closeAll
  generalize List.finRange 3 = slots
  induction slots generalizing table with
  | nil => exact balanced
  | cons slot rest inductionHypothesis => exact inductionHypothesis (balanced.closeSlot slot)

/-- Requests keep the balance. -/
theorem serve
    (handle : Word)
    (request : FileRequest) :
    (table.serve handle request).2.Balanced := by
  cases found : table.find handle with
  | error error =>
      rw [serve_of_closed found]
      exact balanced
  | ok named =>
      obtain ⟨slot, file⟩ := named
      have here := (find_eq_ok_iff.mp found).2
      obtain ⟨changed, served, -, edited⟩ :=
        serve_of_find found (balanced.cursors slot file here) request
      rw [served]
      exact balanced.update here edited

/-- The working directory has no part in the balance. -/
theorem changeDir
    {path : String}
    {after : HandleTable}
    (changed : table.changeDir path = .ok after) :
    after.Balanced := by
  unfold HandleTable.changeDir at changed
  dsimp only at changed
  split at changed
  · cases changed
    exact balanced.of_same rfl rfl
  · cases changed

/-- Every call keeps the books, and so does every change of the host. -/
theorem meet (event : TableEvent) : (table.meet event).Balanced := by
  match event with
  | .host host => exact balanced.of_same rfl rfl
  | .call .closeAll => exact balanced.closeAll
  | .call .list => exact balanced
  | .call (.isDirectory path) => exact balanced
  | .call (.file (.openFile path mode)) => exact balanced.openFile path mode
  | .call (.file (.closeFile handle)) => exact balanced.closeFile handle
  | .call (.file (.request handle request)) => exact balanced.serve handle request
  | .call (.file (.makeDirectory path)) =>
      exact balanced.of_same rfl (table.store.opened_makeDirectory _)
  | .call (.file (.delete path)) => exact balanced.of_same rfl (table.store.opened_delete _)
  | .call (.file .reset) => exact balanced.closeAll.of_same rfl rfl
  | .call (.file (.changeDir path)) =>
      change (table.perform (.changeDir path)).2.Balanced
      rw [perform]
      cases changed : table.changeDir path with
      | error error => exact balanced
      | ok after => exact balanced.changeDir changed

/-- Any events in a row keep the balance, changes of the host among them. -/
theorem meetAll (events : List TableEvent) : (events.foldl HandleTable.meet table).Balanced := by
  induction events generalizing table with
  | nil => exact balanced
  | cons event rest inductionHypothesis => exact inductionHypothesis (balanced.meet event)

end Balanced

/-- Handles are numbered from the same base as the slots. -/
theorem bits_handleOf : ∀ slot : Fin 3, (handleOf slot).bits = 0x80 + slot.val
  | 0 => rfl
  | 1 => rfl
  | 2 => rfl

/-- The slot that a new file gets is free, and no lower one is. -/
theorem lowest_of_freeSlot?
    {table : HandleTable}
    {slot : Fin 3}
    (free : table.freeSlot? = some slot) :
    ∀ lower : Fin 3, lower < slot → table.slots[lower] ≠ none := by
  intro lower below vacant
  obtain ⟨-, index, inside, here, taken⟩ := List.find?_eq_some_iff_getElem.mp free
  have sameIndex : index = slot.val := by
    rw [← here]
    simp
  have notFree := taken lower.val (by rw [sameIndex]; exact below)
  simp [vacant] at notFree

/-- A file that is opened takes the lowest free slot and leaves the others alone. -/
theorem openFile_takes_lowest
    {table after : HandleTable}
    {path mode : String}
    {handle : Word}
    (done : table.openFile path mode = (.ok handle, after)) :
    ∃ slot : Fin 3,
      handle.bits = 0x80 + slot.val ∧
        table.slots[slot] = none ∧
        (∀ lower : Fin 3, lower < slot → table.slots[lower] ≠ none) ∧
        ∃ file, after.slots = table.slots.set slot (some file) := by
  unfold openFile at done
  split at done
  · cases done
  · rename_i slot free
    split at done
    · cases done
    · split at done
      · cases done
      · cases done
        exact ⟨slot, bits_handleOf slot, free_of_freeSlot? free, lowest_of_freeSlot? free, _, rfl⟩

/--
The handle table never loses count of its files.

Start with any host and any root, and let any calls and changes of the host
happen. At most three files are open, the store remembers their places and no
others, and these are all different. Every cursor stands inside its file, so a
read takes bytes that are there, and a write puts its bytes right behind what is
kept of the file, so that none of the zeros it filled the file up with is left.
A file that is opened gets the lowest free slot, and its handle is 0x80 more.
-/
theorem books_balanced
    (host : Host)
    (root : Place)
    (events : List TableEvent) :
    let table := events.foldl meet { store := { host := host, root := root } }
    table.openPlaces.length ≤ 3 ∧
    (∀ place, place ∈ table.store.opened ↔ place ∈ table.openPlaces) ∧
    table.store.opened.Nodup ∧
    table.openPlaces.Nodup ∧
    (∀ (slot : Fin 3) (file : OpenFile),
      table.slots[slot] = some file →
      file.offset ≤ file.size ∧
      (∀ count,
        let stop := min (file.offset + count) file.size
        file.offset ≤ stop ∧
        stop ≤ file.size ∧
        (file.read count).1 = (file.content.take stop).drop file.offset ∧
        (file.read count).2 = { file with offset := stop }) ∧
      (∀ bytes,
        let kept := file.content.take file.offset
        kept.length = file.offset ∧
        (file.write bytes).content =
          kept ++ bytes ++ file.content.drop (file.offset + bytes.length))) ∧
    (∀ path mode handle after,
      table.openFile path mode = (.ok handle, after) →
      ∃ slot : Fin 3,
        handle.bits = 0x80 + slot.val ∧
        table.slots[slot] = none ∧
        (∀ lower : Fin 3, lower < slot → table.slots[lower] ≠ none) ∧
        ∃ file, after.slots = table.slots.set slot (some file)) := by
  intro table
  have balanced : table.Balanced := (Balanced.empty host root).meetAll events
  refine ⟨table.length_openPlaces_le, ?_, balanced.distinct, balanced.ledger.nodup_openPlaces,
    ?_, ?_⟩
  · intro place
    exact (balanced.ledger.tracked place).trans mem_openPlaces.symm
  · intro slot file here
    have cursor := balanced.cursors slot file here
    refine ⟨cursor, OpenFile.read_eq_slice cursor, fun bytes => ⟨?_, ?_⟩⟩
    · rw [List.length_take]
      exact Nat.min_eq_left cursor
    · exact OpenFile.content_write cursor bytes
  · intro path mode handle after done
    exact openFile_takes_lowest done

end HandleTable

end Handheld
