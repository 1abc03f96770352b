import Handheld.Proofs.Files.ByteArrays

namespace Handheld

/-!
# Independence of open files

Every call keeps the table sound, so closing never fails. A call that neither
asks something of a file nor closes it leaves it as it is. Together they make a
whole run of calls look, through each handle, like a run of requests to one
array.
-/

namespace HandleTable

variable {table : HandleTable}

/-- A number that names no slot is refused as it is. -/
theorem slotOf_eq_error
    {handle : Word}
    {error : FileError}
    (refused : slotOf handle = .error error) :
    error = .invalidHandle handle := by
  unfold slotOf at refused
  dsimp only at refused
  split at refused
  · split at refused
    · cases refused
    · exact (Except.error.inj refused).symm
  · exact (Except.error.inj refused).symm

/-- A handle is good when its slot holds a file. -/
theorem find_eq_ok_iff
    {handle : Word}
    {slot : Fin 3}
    {file : OpenFile} :
    table.find handle = .ok (slot, file) ↔
      slotOf handle = .ok slot ∧ table.slots[slot] = some file := by
  constructor
  · intro found
    obtain ⟨named, slotted, rest⟩ := bind_eq_ok_iff.mp found
    split at rest
    · rename_i here
      cases rest
      exact ⟨slotted, here⟩
    · cases rest
  · rintro ⟨slotted, here⟩
    refine bind_eq_ok_iff.mpr ⟨slot, slotted, ?_⟩
    rw [here]

/-- A handle without a file is refused as such. -/
theorem find_eq_error
    {handle : Word}
    {error : FileError}
    (refused : table.find handle = .error error) :
    error = .invalidHandle handle := by
  unfold find at refused
  cases slotted : slotOf handle with
  | error other =>
      rw [slotted] at refused
      rw [← Except.error.inj refused]
      exact slotOf_eq_error slotted
  | ok slot =>
      simp only [slotted, bind, Except.bind] at refused
      split at refused
      · cases refused
      · exact (Except.error.inj refused).symm

/-- Putting back the file of a slot changes nothing. -/
theorem update_self
    {slot : Fin 3}
    {file : OpenFile}
    (here : table.slots[slot] = some file) :
    table.update slot file = table := by
  unfold update
  rw [← here, HandleSlots.set_getElem_self]

/-- A request with a handle that names no open file fails and changes nothing. -/
theorem serve_of_closed
    {handle : Word}
    {error : FileError}
    (refused : table.find handle = .error error)
    (request : FileRequest) :
    table.serve handle request = (.failed (.invalidHandle handle), table) := by
  rw [find_eq_error refused] at refused
  cases request with
  | read count => simp only [serve, HandleTable.read, refused, bind, Except.bind, conclude]
  | write bytes => simp only [serve, HandleTable.write, refused, bind, Except.bind, conclude]
  | seek offset => simp only [serve, HandleTable.seek, refused, bind, Except.bind, conclude]
  | tell => simp only [serve, HandleTable.tell, refused, bind, Except.bind, conclude]
  | size => simp only [serve, HandleTable.size, refused, bind, Except.bind, conclude]
  | atEnd => simp only [serve, HandleTable.atEnd, refused, bind, Except.bind, conclude]

/-- A request is answered by the array of its file, whatever the host has. -/
theorem serve_of_find
    {handle : Word}
    {slot : Fin 3}
    {file : OpenFile}
    (found : table.find handle = .ok (slot, file))
    (cursor : file.offset ≤ file.size)
    (request : FileRequest) :
    ∃ changed : OpenFile,
      table.serve handle request = ((file.view.serve handle request).1, table.update slot changed) ∧
        changed.view = (file.view.serve handle request).2 ∧
        file.Edited changed := by
  have unchanged := update_self (find_eq_ok_iff.mp found).2
  cases request with
  | read count =>
      obtain ⟨sameBytes, sameFile⟩ := file.view_read count
      by_cases readable : file.canRead = true
      · have viewed : file.view.readable = true := readable
        refine ⟨(file.read count).2, ?_, ?_, file.edited_read cursor count⟩
        · simp only [serve, HandleTable.read, found, bind, Except.bind, readable, viewed, ite_true,
            ByteFile.serve, sameBytes]
          rfl
        · simp only [ByteFile.serve, viewed, ite_true, sameFile]
      · have viewed : ¬ file.view.readable = true := readable
        refine ⟨file, ?_, ?_, .refl cursor⟩
        · simp only [serve, HandleTable.read, found, bind, Except.bind, ByteFile.serve, unchanged,
            if_neg readable, if_neg viewed]
          rfl
        · simp only [ByteFile.serve, if_neg viewed]
  | write bytes =>
      by_cases writable : file.canWrite = true
      · have viewed : file.view.writable = true := writable
        refine ⟨file.write bytes, ?_, ?_, file.edited_write cursor bytes⟩
        · simp only [serve, HandleTable.write, found, bind, Except.bind, if_pos writable,
            if_pos viewed, ByteFile.serve]
          rfl
        · simp only [ByteFile.serve, if_pos viewed, OpenFile.view_write cursor]
      · have viewed : ¬ file.view.writable = true := writable
        refine ⟨file, ?_, ?_, .refl cursor⟩
        · simp only [serve, HandleTable.write, found, bind, Except.bind, ByteFile.serve, unchanged,
            if_neg writable, if_neg viewed]
          rfl
        · simp only [ByteFile.serve, if_neg viewed]
  | seek offset =>
      by_cases inside : 0 ≤ offset ∧ offset ≤ file.size
      · have viewed : 0 ≤ offset ∧ offset ≤ file.view.bytes.length := inside
        have landed : offset.toNat ≤ file.size := by omega
        refine ⟨{ file with offset := offset.toNat }, ?_, ?_, rfl, landed, fun clean => ⟨clean, rfl⟩⟩
        · simp only [serve, HandleTable.seek, OpenFile.seek, found, bind, Except.bind,
            if_pos inside, if_pos viewed, ByteFile.serve]
          rfl
        · simp only [ByteFile.serve, if_pos viewed]
          rfl
      · have viewed : ¬ (0 ≤ offset ∧ offset ≤ file.view.bytes.length) := inside
        refine ⟨file, ?_, ?_, .refl cursor⟩
        · simp only [serve, HandleTable.seek, OpenFile.seek, found, bind, Except.bind, unchanged,
            if_neg inside, if_neg viewed, ByteFile.serve]
          rfl
        · simp only [ByteFile.serve, if_neg viewed]
  | tell =>
      refine ⟨file, ?_, rfl, .refl cursor⟩
      simp only [serve, HandleTable.tell, found, bind, Except.bind, unchanged]
      rfl
  | size =>
      refine ⟨file, ?_, rfl, .refl cursor⟩
      simp only [serve, HandleTable.size, found, bind, Except.bind, unchanged]
      rfl
  | atEnd =>
      refine ⟨file, ?_, rfl, .refl cursor⟩
      simp only [serve, HandleTable.atEnd, found, bind, Except.bind, unchanged]
      rfl

/-- A file that is asked something stays where it is on the host. -/
theorem serve_of_open
    {handle : Word}
    {slot : Fin 3}
    {file : OpenFile}
    {host : Host}
    (found : table.find handle = .ok (slot, file))
    (held : file.Held host)
    (request : FileRequest) :
    ∃ changed : OpenFile,
      table.serve handle request = ((file.view.serve handle request).1, table.update slot changed) ∧
        changed.view = (file.view.serve handle request).2 ∧
        changed.place = file.place ∧
        changed.Held host := by
  obtain ⟨changed, served, sameView, edited⟩ := serve_of_find found held.cursor request
  exact ⟨changed, served, sameView, edited.place, edited.held held⟩

/-- The handle of a slot names that slot. -/
theorem slotOf_handleOf : ∀ slot : Fin 3, slotOf (handleOf slot) = .ok slot
  | 0 => rfl
  | 1 => rfl
  | 2 => rfl

/-- The slot that is found free is free. -/
theorem free_of_freeSlot?
    {slot : Fin 3}
    (free : table.freeSlot? = some slot) :
    table.slots[slot] = none := by
  have isFree := List.find?_some free
  exact Option.isNone_iff_eq_none.mp isFree

/-- The mode does not move a file. -/
theorem place_applyMode
    (mode : OpenMode)
    (file : OpenFile) :
    (applyMode mode file).place = file.place := by
  obtain ⟨access, truncate, append⟩ := mode
  cases truncate <;> cases append <;> rfl

/-- What is held stays held when a mode is applied. -/
theorem held_applyMode
    {host : Host}
    {file : OpenFile}
    (held : file.Held host)
    (mode : OpenMode) :
    (applyMode mode file).Held host := by
  obtain ⟨content, entry, clean⟩ := held.stored
  obtain ⟨access, truncate, append⟩ := mode
  cases truncate with
  | true =>
      have cut : file.truncate.Held host :=
        ⟨held.accepted, held.leads, ⟨content, entry, nofun⟩, Nat.zero_le _⟩
      cases append with
      | true => exact ⟨cut.accepted, cut.leads, cut.stored, Nat.le_refl _⟩
      | false => exact cut
  | false =>
      cases append with
      | true => exact ⟨held.accepted, held.leads, held.stored, Nat.le_refl _⟩
      | false => exact held

/-- What is known of a file that was just opened. -/
structure Opened
    (table : HandleTable)
    (path mode : String)
    (slot : Fin 3)
    (content : List UInt8)
    (file : OpenFile)
    (after : HandleTable) :
    Prop where
  free : table.slots[slot] = none
  placed : table.store.place (table.absolute path) = .ok file.place
  /-- The host had the file, or had nothing there. -/
  initial :
    table.store.host.entry? file.place = some (.file content) ∨
      table.store.host.entry? file.place = none ∧ content = []
  array : file.view = ByteFile.opened mode content
  slots : after.slots = table.slots.set slot (some file)
  sound : after.Sound

theorem opened_of_readied
    (sound : table.Sound)
    {path text : String}
    {mode : OpenMode}
    {slot : Fin 3}
    {place : Place}
    {content : List UInt8}
    {ready : Store}
    {fresh file : OpenFile}
    (free : table.slots[slot] = none)
    (parsed : OpenMode.parse text = .ok mode)
    (placed : table.store.place (table.absolute path) = .ok place)
    (readied : Store.Readied place table.store ready)
    (closed : place ∉ table.store.opened)
    (read : ready.host.readFile (.ofPlace place) = .ok content)
    (same :
      fresh = {
        place := place
        content := content
        canRead := mode.access.reads
        canWrite := mode.access.writes
      })
    (applied : file = applyMode mode fresh) :
    Opened table path text slot content file {
      table with
      store := { ready with opened := place :: table.store.opened }
      slots := table.slots.set slot (some file)
    } := by
  have proper := Store.proper_of_place sound.linkFree sound.rootProper placed
  have readyFree := readied.linkFree sound.linkFree
  obtain ⟨accepted, leads, entry⟩ := Host.readFile_inv readyFree proper read
  have freshHeld : fresh.Held ready.host := by
    subst same
    exact ⟨accepted, leads, ⟨content, entry, fun _ => rfl⟩, Nat.zero_le _⟩
  have held : file.Held ready.host := by
    rw [applied]
    exact held_applyMode freshHeld mode
  have samePlace : file.place = place := by
    rw [applied, place_applyMode, same]
  have array : file.view = ByteFile.opened text content := by
    rw [applied, same]
    exact OpenFile.view_applyMode parsed place content
  clear applied
  subst samePlace
  refine ⟨free, placed, ?_, array, rfl, ?_⟩
  · rcases readied with rfl | ⟨nothing, rfl⟩
    · exact .inl entry
    · refine .inr ⟨nothing, ?_⟩
      have notTop : file.place ≠ [] := by
        intro top
        rw [top, Host.entry?_top] at nothing
        cases nothing
      rw [Host.entry?_insert _ _ _ notTop, if_pos rfl] at entry
      cases entry
      rfl
  · have sameOpened : ready.opened = table.store.opened := by
      rcases readied with rfl | ⟨-, rfl⟩
      · rfl
      · rfl
    have occupied := (sound.ready readied).occupy free (sameOpened ▸ closed) held
    rw [← sameOpened]
    exact occupied

/-- Opening a file takes a free slot for it, or leaves all slots as they are. -/
theorem openFile_spec
    (sound : table.Sound)
    {path text : String}
    {result : Except FileError Word}
    {after : HandleTable}
    (opening : table.openFile path text = (result, after)) :
    (∃ error, result = .error error ∧ after.slots = table.slots ∧ after.Sound) ∨
      ∃ slot content file,
        result = .ok (handleOf slot) ∧ Opened table path text slot content file after := by
  unfold openFile at opening
  split at opening
  · cases opening
    exact .inl ⟨_, rfl, rfl, sound⟩
  · rename_i slot free
    split at opening
    · cases opening
      exact .inl ⟨_, rfl, rfl, sound⟩
    · rename_i mode parsed
      split at opening
      · rename_i error store stored
        rcases Store.openFile_cases sound.linkFree sound.rootProper stored with
          ⟨_, -, kept⟩ | ⟨_, _, _, -, -, -, -, impossible, -⟩
        · cases opening
          refine .inl ⟨_, rfl, rfl, ?_⟩
          rcases kept with rfl | ⟨place, readied⟩
          · exact sound
          · exact sound.ready readied
        · cases impossible
      · rename_i file store stored
        rcases Store.openFile_cases sound.linkFree sound.rootProper stored with
          ⟨_, impossible, -⟩ | ⟨place, content, ready, placed, readied, closed, read, same, rfl⟩
        · cases impossible
        · obtain ⟨rfl, rfl⟩ := Prod.mk.inj opening
          refine .inr ⟨slot, content, applyMode mode file, rfl, ?_⟩
          exact opened_of_readied sound (free_of_freeSlot? free) parsed placed readied closed read
            (Except.ok.inj same) rfl

/-- What is known after the file in a slot was closed. -/
structure Closed
    (table : HandleTable)
    (slot : Fin 3)
    (file : OpenFile)
    (after : HandleTable) :
    Prop where
  stored : after.store.host.entry? file.place = some (.file file.content)
  elsewhere :
    ∀ other, other ≠ file.place → after.store.host.entry? other = table.store.host.entry? other
  slots : after.slots = table.slots.set slot none
  sound : after.Sound

/-- On a sound table, closing writes back the file of a slot and frees it. -/
theorem closed_of_closeFile
    (sound : table.Sound)
    {slot : Fin 3}
    {file : OpenFile}
    {result : Except FileError Unit}
    {store : Store}
    (here : table.slots[slot] = some file)
    (closing : table.store.closeFile file = (result, store)) :
    result = .ok () ∧
      Closed table slot file { table with store := store, slots := table.slots.set slot none } := by
  obtain ⟨done, sameRoot, forgotten, change, stored⟩ :=
    Store.closeFile_spec (sound.held slot file here) closing
  exact ⟨done, stored, change.elsewhere, rfl, sound.release here sameRoot forgotten change⟩

/-- Closing an open file succeeds. -/
theorem closeFile_of_open
    (sound : table.Sound)
    {handle : Word}
    {slot : Fin 3}
    {file : OpenFile}
    (found : table.find handle = .ok (slot, file)) :
    (table.closeFile handle).1 = .ok () ∧
      Closed table slot file (table.closeFile handle).2 := by
  unfold closeFile
  rw [found]
  exact closed_of_closeFile sound (find_eq_ok_iff.mp found).2 rfl

/-- Closing what is not open is refused and changes nothing. -/
theorem closeFile_of_closed
    {handle : Word}
    {error : FileError}
    (refused : table.find handle = .error error) :
    table.closeFile handle = (.error (.invalidHandle handle), table) := by
  unfold closeFile
  rw [refused, find_eq_error refused]

/-- A slot that holds a file is closed like that file. -/
theorem closeSlot_of_open
    (sound : table.Sound)
    {slot : Fin 3}
    {file : OpenFile}
    (here : table.slots[slot] = some file) :
    Closed table slot file (table.closeSlot slot) := by
  unfold closeSlot
  rw [here]
  exact (closed_of_closeFile sound here rfl).2

/-- Closing a free slot does nothing. -/
theorem closeSlot_of_free
    {slot : Fin 3}
    (free : table.slots[slot] = none) :
    table.closeSlot slot = table := by
  unfold closeSlot
  rw [free]

/-- After closing one slot, the files of the others are there. -/
theorem Closed.kept
    {slot other : Fin 3}
    {file found : OpenFile}
    {after : HandleTable}
    (closed : Closed table slot file after)
    (there : after.slots[other] = some found) :
    other ≠ slot ∧ table.slots[other] = some found := by
  rw [closed.slots, HandleSlots.getElem_set] at there
  by_cases same : other = slot
  · rw [if_pos same] at there
    cases there
  · rw [if_neg same] at there
    exact ⟨same, there⟩

/--
Closing some slots puts the content of every file among them in its place, and
changes nothing anywhere else.
-/
theorem closeSlots_spec
    (sound : table.Sound)
    (slots : List (Fin 3)) :
    (slots.foldl closeSlot table).Sound ∧
      (∀ (slot : Fin 3) (file : OpenFile),
        slot ∈ slots →
        table.slots[slot] = some file →
        (slots.foldl closeSlot table).store.host.entry? file.place = some (.file file.content)) ∧
      (∀ place,
        (∀ (slot : Fin 3) (file : OpenFile),
          slot ∈ slots → table.slots[slot] = some file → file.place ≠ place) →
        (slots.foldl closeSlot table).store.host.entry? place =
          table.store.host.entry? place) := by
  induction slots generalizing table with
  | nil => exact ⟨sound, nofun, fun _ _ => rfl⟩
  | cons first rest inductionHypothesis =>
      rw [List.foldl_cons]
      cases here : table.slots[first] with
      | none =>
          rw [closeSlot_of_free here]
          obtain ⟨soundRest, stored, elsewhere⟩ := inductionHypothesis sound
          refine ⟨soundRest, ?_, ?_⟩
          · intro slot file member there
            rcases List.mem_cons.mp member with rfl | later
            · rw [here] at there
              cases there
            · exact stored slot file later there
          · intro place apart
            exact elsewhere place fun slot file member =>
              apart slot file (List.mem_cons_of_mem first member)
      | some firstFile =>
          have closed := closeSlot_of_open sound here
          obtain ⟨soundRest, stored, elsewhere⟩ := inductionHypothesis closed.sound
          refine ⟨soundRest, ?_, ?_⟩
          · intro slot file member there
            by_cases same : slot = first
            · -- None of the other files has its place here.
              rw [same, here] at there
              rw [← Option.some.inj there, elsewhere, closed.stored]
              intro other found _ otherThere samePlace
              obtain ⟨different, before⟩ := closed.kept otherThere
              exact different (sound.apart other first found firstFile before here samePlace)
            · apply stored slot file ((List.mem_cons.mp member).resolve_left same)
              rw [closed.slots, HandleSlots.getElem_set, if_neg same, there]
          · intro place apart
            rw [elsewhere, closed.elsewhere]
            · exact (apart first firstFile List.mem_cons_self here).symm
            · intro slot file member there
              exact apart slot file (List.mem_cons_of_mem first member) (closed.kept there).2

/-- A new directory never is where a file is open. -/
theorem makeDirectory_spec
    (sound : table.Sound)
    (path : String) :
    (table.makeDirectory path).2.slots = table.slots ∧ (table.makeDirectory path).2.Sound := by
  refine ⟨rfl, ?_⟩
  unfold makeDirectory Store.makeDirectory
  cases placed : table.store.place (table.absolute path) with
  | error error => exact sound
  | ok place =>
      have proper := Store.proper_of_place sound.linkFree sound.rootProper placed
      cases made : table.store.host.makeDirectory (.ofPlace place) with
      | error error => simpa only [made] using sound
      | ok host =>
          obtain ⟨nothing, rfl⟩ := Host.makeDirectory_inv sound.linkFree proper made
          have notDirectory : table.store.host.entry? place ≠ some .directory := by
            rw [nothing]
            exact nofun
          simp only [made]
          refine sound.change (Host.changedAt_insert notDirectory nofun) ?_
          intro opened
          obtain ⟨content, entry⟩ := sound.backed.entry?_of_opened opened
          rw [nothing] at entry
          cases entry

/-- What is open is not deleted, and neither are the directories on the way to it. -/
theorem delete_spec
    (sound : table.Sound)
    (path : String) :
    (table.delete path).2.slots = table.slots ∧ (table.delete path).2.Sound := by
  refine ⟨rfl, ?_⟩
  unfold delete Store.delete
  cases placed : table.store.place (table.absolute path) with
  | error error => exact sound
  | ok place =>
      have proper := Store.proper_of_place sound.linkFree sound.rootProper placed
      by_cases opened : place ∈ table.store.opened
      · simp only [if_pos opened]
        exact sound
      · simp only [if_neg opened]
        split
        · rename_i host removed
          have change : Host.ChangedAt place table.store.host host := by
            split at removed
            · obtain ⟨empty, rfl⟩ := Host.removeDirectory_inv sound.linkFree proper removed
              exact Host.changedAt_erase fun _ => Host.entry?_of_children_eq_nil empty
            · obtain ⟨notDirectory, rfl⟩ := Host.removeFile_inv sound.linkFree proper removed
              exact Host.changedAt_erase fun directory => (notDirectory directory).elim
          exact sound.change change opened
        · exact sound

/-- Changing the directory leaves the slots alone. -/
theorem changeDir_spec
    (sound : table.Sound)
    {path : String}
    {after : HandleTable}
    (changed : table.changeDir path = .ok after) :
    after.slots = table.slots ∧ after.Sound := by
  unfold changeDir at changed
  dsimp only at changed
  split at changed
  · cases changed
    exact ⟨rfl, sound.move _⟩
  · cases changed

/-- Every call keeps the table sound. -/
theorem sound_perform
    (sound : table.Sound)
    (call : FileCall) :
    (table.perform call).2.Sound := by
  cases call with
  | openFile path mode =>
      change (table.openFile path mode).2.Sound
      rcases openFile_spec sound (Prod.eta (table.openFile path mode)).symm with
        ⟨_, -, -, kept⟩ | ⟨_, _, _, -, opened⟩
      · exact kept
      · exact opened.sound
  | closeFile handle =>
      change (table.closeFile handle).2.Sound
      cases found : table.find handle with
      | error error =>
          rw [closeFile_of_closed found]
          exact sound
      | ok named => exact (closeFile_of_open sound found).2.sound
  | request handle request =>
      change (table.serve handle request).2.Sound
      cases found : table.find handle with
      | error error =>
          rw [serve_of_closed found]
          exact sound
      | ok named =>
          obtain ⟨slot, file⟩ := named
          have here := (find_eq_ok_iff.mp found).2
          obtain ⟨changed, served, -, samePlace, held⟩ :=
            serve_of_open found (sound.held slot file here) request
          rw [served]
          exact sound.update here samePlace held
  | makeDirectory path => exact (makeDirectory_spec sound path).2
  | delete path => exact (delete_spec sound path).2
  | changeDir path =>
      rw [perform]
      cases changed : table.changeDir path with
      | error error => exact sound
      | ok after => exact (changeDir_spec sound changed).2
  | reset => exact (closeSlots_spec sound _).1.move _

/-- Any calls of a program keep a table sound. -/
theorem sound_performAll
    (sound : table.Sound)
    (calls : List FileCall) :
    (table.performAll calls).Sound := by
  induction calls generalizing table with
  | nil => exact sound
  | cons call rest inductionHypothesis => exact inductionHypothesis (sound_perform sound call)

/-- A call that asks something of a slot names it by its handle. -/
theorem requestOn?_eq_some
    {slot : Fin 3}
    {call : FileCall}
    {handle : Word}
    {request : FileRequest}
    (asked : call.requestOn? slot = some (handle, request)) :
    call = .request handle request ∧ slotOf handle = .ok slot := by
  unfold FileCall.requestOn? at asked
  split at asked
  · rename_i named _
    split at asked
    · rename_i same
      cases asked
      refine ⟨rfl, ?_⟩
      cases slotted : slotOf handle with
      | error error =>
          rw [slotted] at same
          cases same
      | ok other =>
          rw [slotted] at same
          rw [Option.some.inj same]
    · cases asked
  · cases asked

section Slot

variable
  (sound : table.Sound)
  {slot : Fin 3}
  {file : OpenFile}
  (here : table.slots[slot] = some file)

include sound here

/-- What is asked of a file is answered by its array. -/
theorem perform_of_asked
    {call : FileCall}
    {handle : Word}
    {request : FileRequest}
    (asked : call.requestOn? slot = some (handle, request)) :
    ∃ changed : OpenFile,
      (table.perform call).1 = (file.view.serve handle request).1 ∧
        (table.perform call).2.slots[slot] = some changed ∧
        changed.view = (file.view.serve handle request).2 ∧
        changed.place = file.place := by
  obtain ⟨rfl, slotted⟩ := requestOn?_eq_some asked
  have found := find_eq_ok_iff.mpr ⟨slotted, here⟩
  obtain ⟨changed, served, sameView, samePlace, -⟩ :=
    serve_of_open found (sound.held slot file here) request
  rw [perform, served]
  refine ⟨changed, rfl, ?_, sameView, samePlace⟩
  rw [update, HandleSlots.getElem_set, if_pos rfl]

/-- What is not asked of a file, and does not close it, leaves it as it is. -/
theorem slot_perform
    {call : FileCall}
    (notAsked : call.requestOn? slot = none)
    (kept : call.closes slot = false) :
    (table.perform call).2.slots[slot] = some file := by
  cases call with
  | openFile path mode =>
      change (table.openFile path mode).2.slots[slot] = some file
      rcases openFile_spec sound (Prod.eta (table.openFile path mode)).symm with
        ⟨_, -, same, -⟩ | ⟨taken, _, _, -, opened⟩
      · rw [same, here]
      · have different : slot ≠ taken := by
          intro same
          rw [same, opened.free] at here
          cases here
        rw [opened.slots, HandleSlots.getElem_set, if_neg different, here]
  | closeFile handle =>
      change (table.closeFile handle).2.slots[slot] = some file
      cases found : table.find handle with
      | error error => rw [closeFile_of_closed found, here]
      | ok named =>
          obtain ⟨other, otherFile⟩ := named
          have slotted := (find_eq_ok_iff.mp found).1
          have different : slot ≠ other := by
            rintro rfl
            have named : (slotOf handle).toOption = some slot := congrArg Except.toOption slotted
            exact of_decide_eq_false kept named
          rw [(closeFile_of_open sound found).2.slots, HandleSlots.getElem_set, if_neg different,
            here]
  | request handle request =>
      change (table.serve handle request).2.slots[slot] = some file
      cases found : table.find handle with
      | error error => rw [serve_of_closed found, here]
      | ok named =>
          obtain ⟨other, otherFile⟩ := named
          obtain ⟨slotted, otherHere⟩ := find_eq_ok_iff.mp found
          have different : slot ≠ other := by
            rintro rfl
            have named : (slotOf handle).toOption = some slot := congrArg Except.toOption slotted
            cases (if_pos named).symm.trans notAsked
          obtain ⟨changed, served, -⟩ :=
            serve_of_open found (sound.held other otherFile otherHere) request
          rw [served, update, HandleSlots.getElem_set, if_neg different, here]
  | makeDirectory path => exact here
  | delete path => exact here
  | changeDir path =>
      rw [perform]
      cases changed : table.changeDir path with
      | error error => exact here
      | ok after =>
          change after.slots[slot] = some file
          rw [(changeDir_spec sound changed).1, here]
  | reset => cases kept

/-- Through a whole run, a file that is not closed answers as its array alone would. -/
theorem run_slot
    {calls : List FileCall}
    (kept : ∀ call ∈ calls, call.closes slot = false) :
    ∃ changed : OpenFile,
      (table.performAll calls).slots[slot] = some changed ∧
        changed.place = file.place ∧
        table.answersOn slot calls =
          (file.view.serveAll (calls.filterMap (FileCall.requestOn? slot))).1 ∧
        changed.view = (file.view.serveAll (calls.filterMap (FileCall.requestOn? slot))).2 := by
  induction calls generalizing table file with
  | nil => exact ⟨file, here, rfl, rfl, rfl⟩
  | cons call rest inductionHypothesis =>
      have soundNext := sound_perform sound call
      have keptRest : ∀ later ∈ rest, later.closes slot = false :=
        fun later member => kept later (List.mem_cons_of_mem call member)
      cases asked : call.requestOn? slot with
      | none =>
          have next := slot_perform sound here asked (kept call List.mem_cons_self)
          obtain ⟨changed, last, samePlace, answers, array⟩ :=
            inductionHypothesis soundNext next keptRest
          refine ⟨changed, last, samePlace, ?_, ?_⟩
          · rw [answersOn, asked, List.filterMap_cons_none asked]
            exact answers
          · rw [List.filterMap_cons_none asked]
            exact array
      | some pair =>
          obtain ⟨handle, request⟩ := pair
          obtain ⟨moved, answer, next, view, samePlace⟩ := perform_of_asked sound here asked
          obtain ⟨changed, last, lastPlace, answers, array⟩ :=
            inductionHypothesis soundNext next keptRest
          refine ⟨changed, last, lastPlace.trans samePlace, ?_, ?_⟩
          · rw [answersOn, asked, List.filterMap_cons_some asked, ByteFile.serveAll, ← view]
            exact congr (congrArg List.cons answer) answers
          · rw [List.filterMap_cons_some asked, ByteFile.serveAll, ← view]
            exact array

end Slot

/--
Open files are independent arrays of bytes, and no change of one is lost.

On a host without links, whatever calls were made before: a handle without a file
is refused and nothing happens. A file that was opened starts with what the host
has at the place of its path. Whatever calls follow that do not close it, the
answers to what is asked of it, and the file itself, are those of one array that
is asked the same. When it is then closed, alone or with all others, the host has
that array at its place, and all else is as it was before.
-/
theorem open_files_independent
    (host : Host)
    (route : Route)
    (store : Store)
    (linkFree : host.LinkFree)
    (based : Store.ofDirectory host route = .ok store)
    (history : List FileCall) :
    let table := performAll { store := store } history
    (∀ handle,
      (∀ slot, slotOf handle = .ok slot → table.slots[slot] = none) →
      table.perform (.closeFile handle) = (.failed (.invalidHandle handle), table) ∧
        ∀ request,
          table.perform (.request handle request) = (.failed (.invalidHandle handle), table)) ∧
    (∀ path mode handle opened,
      table.perform (.openFile path mode) = (.handle handle, opened) →
      ∃ (slot : Fin 3) (place : Place) (content : List UInt8),
        slotOf handle = .ok slot ∧
        table.slots[slot] = none ∧
        table.store.place (table.absolute path) = .ok place ∧
        (table.store.host.entry? place = some (.file content) ∨
          table.store.host.entry? place = none ∧ content = []) ∧
        ∀ calls : List FileCall,
          (∀ call ∈ calls, call.closes slot = false) →
          let later := opened.performAll calls
          let array :=
            (ByteFile.opened mode content).serveAll (calls.filterMap (FileCall.requestOn? slot))
          let closed := later.perform (.closeFile handle)
          let reset := later.perform .reset
          opened.answersOn slot calls = array.1 ∧
          later.slots[slot].map OpenFile.view = some array.2 ∧
          closed.1 = .done ∧
          closed.2.store.host.entry? place = some (.file array.2.bytes) ∧
          (∀ other,
            other ≠ place →
            closed.2.store.host.entry? other = later.store.host.entry? other) ∧
          reset.2.store.host.entry? place = some (.file array.2.bytes) ∧
          (∀ other,
            other ∉ later.store.opened →
            reset.2.store.host.entry? other = later.store.host.entry? other)) := by
  intro table
  have sound : table.Sound := sound_performAll (sound_of_ofDirectory linkFree based) history
  refine ⟨?_, ?_⟩
  · intro handle free
    have refused : ∃ error, table.find handle = .error error := by
      cases found : table.find handle with
      | error error => exact ⟨error, rfl⟩
      | ok named =>
          obtain ⟨slotted, here⟩ := find_eq_ok_iff.mp found
          rw [free named.1 slotted] at here
          cases here
    obtain ⟨error, refused⟩ := refused
    refine ⟨?_, fun request => serve_of_closed refused request⟩
    rw [perform, closeFile_of_closed refused]
    rfl
  · intro path mode handle opened opening
    rcases outcome : table.openFile path mode with ⟨result, after⟩
    rw [perform, outcome] at opening
    obtain ⟨answer, rfl⟩ := Prod.mk.inj opening
    rcases openFile_spec sound outcome with
      ⟨error, rfl, -⟩ | ⟨slot, content, file, rfl, entered⟩
    · cases answer
    · cases answer
      have here : after.slots[slot] = some file := by
        rw [entered.slots, HandleSlots.getElem_set, if_pos rfl]
      refine ⟨slot, file.place, content, slotOf_handleOf slot, entered.free, entered.placed,
        entered.initial, ?_⟩
      intro calls kept later array closed reset
      obtain ⟨changed, last, samePlace, answers, view⟩ := run_slot entered.sound here kept
      have soundLater : later.Sound := sound_performAll entered.sound calls
      rw [entered.array] at answers view
      have sameBytes : array.2.bytes = changed.content := by
        rw [← congrArg ByteFile.bytes view]
        rfl
      have found := find_eq_ok_iff.mpr ⟨slotOf_handleOf slot, last⟩
      obtain ⟨done, stored⟩ := closeFile_of_open soundLater found
      obtain ⟨-, storedAll, elsewhere⟩ := closeSlots_spec soundLater (List.finRange 3)
      rw [sameBytes, ← samePlace]
      refine ⟨answers, ?_, ?_, stored.stored, stored.elsewhere, ?_, ?_⟩
      · rw [last, Option.map_some, view]
      · exact congrArg (FileAnswer.ofResult fun _ => .done) done
      · exact storedAll slot changed (List.mem_finRange slot) last
      · intro other notOpen
        apply elsewhere other
        intro otherSlot otherFile _ there same
        exact notOpen ((soundLater.tracked other).mpr ⟨otherSlot, otherFile, there, same⟩)

/-- A host with one file. -/
def loneFile : Host :=
  { entries := [(["a"], .file [1, 2, 3])] }

/-- A table whose store is all of that host. -/
def loneTable : HandleTable :=
  { store := { host := loneFile, root := [] } }

theorem linkFree_loneFile : loneFile.LinkFree := by
  intro place target
  rw [Host.entry?]
  split
  · intro impossible
    cases impossible
  · simp only [loneFile, List.lookup_cons, List.lookup_nil]
    split
    · intro impossible
      cases impossible
    · intro impossible
      cases impossible

theorem place_loneTable : loneTable.store.place "/a" = .ok ["a"] :=
  (Store.place_eq_ok_iff linkFree_loneFile Host.proper_nil).mpr ⟨rfl, ["a"], by decide, rfl⟩

theorem ofDirectory_loneFile :
    Store.ofDirectory loneFile { text := "/", names := [] } = .ok loneTable.store := by
  have accepted : Host.accept { text := "/", names := [] } = .ok () := rfl
  have plain : Route.isPlain { text := "/", names := [] } = true := rfl
  have short : Route.fits (.ofPlace []) = true := rfl
  simp [Store.ofDirectory, Host.isDirectory, Host.locate, Host.follow, Host.canonical, Host.walk,
    Route.steps, accepted, plain, short, bind, Except.bind, loneTable]

/-- The table of the lone file after that file was opened. -/
def busyTable : HandleTable :=
  { loneTable with
    store := { loneTable.store with opened := [["a"]] }
    slots := loneTable.slots.set 0
      (some { place := ["a"], content := [1, 2, 3], canRead := true, canWrite := true }) }

theorem openFile_loneTable : loneTable.openFile "/a" "r+" = (.ok 0x80, busyTable) := by
  have leads : loneFile.Leads [] ["a"] :=
    ⟨by decide, by decide, by decide, fun more => (more rfl).elim, trivial⟩
  have read : loneTable.store.host.readFile (.ofPlace ["a"]) = .ok [1, 2, 3] :=
    bind_eq_ok_iff.mpr ⟨["a"], Host.follow_of_leads linkFree_loneFile rfl leads, rfl⟩
  have prepared : loneTable.store.prepare "/a" .toUpdate = (.ok ["a"], loneTable.store) := by
    rw [Store.prepare, place_loneTable]
    rfl
  have closed : ["a"] ∉ loneTable.store.opened := by decide
  have stored :
      loneTable.store.openFile "/a" .toUpdate =
        (.ok { place := ["a"], content := [1, 2, 3], canRead := true, canWrite := true },
          { loneTable.store with opened := [["a"]] }) := by
    rw [Store.openFile, if_neg (by decide), prepared]
    simp only [if_neg closed, read]
    rfl
  have free : loneTable.freeSlot? = some 0 := by decide
  have mode : OpenMode.parse "r+" = .ok { access := .toUpdate } := rfl
  have absolute : loneTable.absolute "/a" = "/a" := rfl
  simp only [openFile, free, mode, absolute, stored]
  rfl

theorem open_loneTable : (loneTable.perform (.openFile "/a" "r+")).1 = .handle 0x80 := by
  rw [perform, openFile_loneTable]
  rfl

/--
What is written to a file is there after it is closed, whatever is done to another
in between, and deleting it while it is open does nothing.
-/
theorem overwritten_file_stored :
    let opened := (loneTable.perform (.openFile "/a" "r+")).2
    let later :=
      opened.performAll [
        .request 0x80 (.write [9]),
        .openFile "/b" "w",
        .request 0x81 (.write [5]),
        .delete "/a"
      ]
    (later.perform (.closeFile 0x80)).2.store.host.entry? ["a"] = some (.file [9, 2, 3]) := by
  obtain ⟨-, arrays⟩ :=
    open_files_independent loneFile _ _ linkFree_loneFile ofDirectory_loneFile []
  obtain ⟨slot, place, content, named, -, placed, initial, run⟩ :=
    arrays "/a" "r+" 0x80 _ (Prod.ext open_loneTable rfl)
  obtain rfl : 0 = slot := Except.ok.inj named
  obtain rfl : ["a"] = place := Except.ok.inj (place_loneTable.symm.trans placed)
  obtain rfl : [1, 2, 3] = content := by
    rcases initial with there | ⟨nothing, -⟩
    · exact Entry.file.inj (Option.some.inj there)
    · cases nothing
  obtain ⟨-, -, -, stored, -⟩ := run [
      .request 0x80 (.write [9]),
      .openFile "/b" "w",
      .request 0x81 (.write [5]),
      .delete "/a"
    ] (by decide)
  exact stored

end HandleTable

end Handheld
