import Handheld.Proofs.Files.Handles
import Handheld.Proofs.Files.Places

namespace Handheld

/-!
# What happens outside the root

A path that can be spelled out is held to the root. One that cannot is handed to
the host as it is, which follows the links on its way: a file or a directory may
be made outside the root then, or a link removed that leads nowhere. This module
says that nothing else ever happens there. No file or directory outside is read,
changed or deleted, and a call changes something outside exactly when it lands
there on such a path.
-/

namespace Host

/-- Two trees have the same outside a root. -/
def SameOutside
    (root : Place)
    (host after : Host) :
    Prop :=
  ∀ place, ¬ root <+: place → after.entry? place = host.entry? place

theorem SameOutside.refl
    (root : Place)
    (host : Host) :
    SameOutside root host host :=
  fun _ _ => rfl

/-- What stays the same twice stays the same. -/
theorem SameOutside.trans
    {root : Place}
    {host between after : Host}
    (first : SameOutside root host between)
    (second : SameOutside root between after) :
    SameOutside root host after :=
  fun place outside => (second place outside).trans (first place outside)

/-- A change inside the root is none outside. -/
theorem ChangedAt.sameOutside
    {root place : Place}
    {host after : Host}
    (change : ChangedAt place host after)
    (inside : root <+: place) :
    SameOutside root host after := by
  intro other outside
  apply change.elsewhere
  rintro rfl
  exact outside inside

/--
What may become of something outside. A file or a directory stays as it is; where
there was none, an empty one may have been made, and a link may be gone.
-/
def Spared (before after : Option Entry) : Prop :=
  after = before ∨
    (before = none ∨ ∃ target, before = some (.link target)) ∧
      (after = none ∨ after = some (.file []) ∨ after = some .directory)

theorem Spared.refl (entry : Option Entry) : Spared entry entry :=
  .inl rfl

/-- What is spared twice is spared. -/
theorem Spared.trans
    {before between after : Option Entry}
    (first : Spared before between)
    (second : Spared between after) :
    Spared before after := by
  rcases first with rfl | ⟨free, made⟩
  · exact second
  · rcases second with rfl | ⟨-, madeLater⟩
    · exact .inr ⟨free, made⟩
    · exact .inr ⟨free, madeLater⟩

/-- One place changes, at which there was neither a file nor a directory. -/
structure Landed
    (place : Place)
    (host after : Host) :
    Prop where
  change : ChangedAt place host after
  differs : after.entry? place ≠ host.entry? place
  spared : Spared (host.entry? place) (after.entry? place)

/-- Where one place changes so, every place is spared. -/
theorem Landed.spared_elsewhere
    {place : Place}
    {host after : Host}
    (landed : Landed place host after)
    (other : Place) :
    Spared (host.entry? other) (after.entry? other) := by
  by_cases here : other = place
  · rw [here]
    exact landed.spared
  · rw [landed.change.elsewhere other here]
    exact .refl _

/-- Something other than a directory is not at the top. -/
theorem ne_top_of_not_directory
    {host : Host}
    {place : Place}
    (notDirectory : host.entry? place ≠ some .directory) :
    place ≠ [] := by
  rintro rfl
  exact notDirectory host.entry?_top

/-- An empty file or a directory that is made where nothing was lands there. -/
theorem landed_insert
    {host : Host}
    {place : Place}
    {entry : Entry}
    (nothing : host.entry? place = none)
    (made : entry = .file [] ∨ entry = .directory) :
    Landed place host (host.insert place entry) := by
  have notDirectory : host.entry? place ≠ some .directory := by
    rw [nothing]
    exact nofun
  have unlinked : ∀ target, entry ≠ .link target := by
    rintro target rfl
    rcases made with impossible | impossible
    · cases impossible
    · cases impossible
  have here : Host.entry? (host.insert place entry) place = some entry :=
    (entry?_insert host place entry (ne_top_of_not_directory notDirectory)).trans (if_pos rfl)
  refine ⟨changedAt_insert notDirectory unlinked, ?_, .inr ⟨.inl nothing, .inr ?_⟩⟩
  · rw [here, nothing]
    exact nofun
  · rcases made with rfl | rfl
    · exact .inl here
    · exact .inr here

/-- A link that is removed was landed on. -/
theorem landed_erase
    {host : Host}
    {place : Place}
    {target : LinkTarget}
    (linked : host.entry? place = some (.link target)) :
    Landed place host (host.erase place) := by
  have notDirectory : host.entry? place ≠ some .directory := by
    rw [linked]
    exact nofun
  have gone : Host.entry? (host.erase place) place = none :=
    (entry?_erase host place (ne_top_of_not_directory notDirectory)).trans (if_pos rfl)
  refine ⟨changedAt_erase fun directory => (notDirectory directory).elim, ?_, ?_⟩
  · rw [gone, linked]
    exact nofun
  · exact .inr ⟨.inr ⟨target, linked⟩, .inl gone⟩

end Host

namespace Store

/-- Once it is known what a file is opened for, the host is left as it was made ready. -/
theorem openFile_ready
    (path : String)
    (store : Store)
    {access : Access}
    (asks : access.reads = true ∨ access.writes = true) :
    (store.openFile path access).2 =
      { (store.prepare path access).2 with opened := (store.openFile path access).2.opened } := by
  unfold openFile
  rw [if_neg (by rcases asks with reads | writes <;> simp [*])]
  split
  · rename_i ready
    rw [ready]
  · rename_i ready
    rw [ready]
    dsimp only
    split
    · rfl
    · split
      · rfl
      · rfl

/-- Every mode asks for reading or for writing. -/
theorem asks_of_parse
    {text : String}
    {mode : OpenMode}
    (parsed : OpenMode.parse text = .ok mode) :
    mode.access.reads = true ∨ mode.access.writes = true := by
  unfold OpenMode.parse at parsed
  repeat' split at parsed
  all_goals cases parsed
  · exact .inl rfl
  · exact .inl rfl
  · exact .inr rfl
  · exact .inl rfl
  · exact .inr rfl
  · exact .inl rfl

end Store

namespace HandleTable

/-- The place where a call makes or removes something on a path that cannot be spelled out. -/
def Lands
    (table : HandleTable)
    (place : Place) :
    TableCall → Prop
  | .file (.openFile path text) =>
      table.freeSlot? ≠ none ∧
        (∃ mode, OpenMode.parse text = .ok mode ∧ mode.access.creates = true) ∧
        table.store.Reaches (table.absolute path) true place
  | .file (.makeDirectory path) =>
      table.store.Reaches (table.absolute path) false place ∧ table.store.host.entry? place = none
  | .file (.delete path) =>
      table.store.Reaches (table.absolute path) false place ∧
        ∃ target, table.store.host.entry? place = some (.link target)
  | _ => False

/-- What is open lies inside the root, and the host has it. -/
structure Anchored
    (root : Place)
    (table : HandleTable) :
    Prop where
  rooted : table.store.root = root
  backed : table.Backed
  inside : ∀ place ∈ table.store.opened, root <+: place

/-- A call lands somewhere and changes that place alone, or changes nothing outside the root. -/
def Lawful
    (root : Place)
    (table : HandleTable)
    (call : TableCall) :
    Prop :=
  (∃ place,
    table.Lands place call ∧
      (∀ other, table.Lands other call → other = place) ∧
      Host.Landed place table.store.host (table.act call).store.host) ∨
    (∀ place, ¬ table.Lands place call) ∧
      Host.SameOutside root table.store.host (table.act call).store.host

/-- A file is opened on the host that its path was made ready on. -/
theorem host_openFile
    {table : HandleTable}
    {slot : Fin 3}
    {text : String}
    {mode : OpenMode}
    (free : table.freeSlot? = some slot)
    (parsed : OpenMode.parse text = .ok mode)
    (path : String) :
    (table.openFile path text).2.store.host =
      (table.store.prepare (table.absolute path) mode.access).2.host := by
  have readied := Store.openFile_ready (table.absolute path) table.store
    (Store.asks_of_parse parsed)
  have sameHost := congrArg Store.host readied
  rw [openFile, free, parsed]
  dsimp only at sameHost ⊢
  split
  · rename_i failed
    rwa [failed] at sameHost
  · rename_i done
    rwa [done] at sameHost

/-- Opening a file lands where its path leads, if it is to be made there. -/
theorem lawful_openFile
    (root : Place)
    {table : HandleTable}
    (spells : table.store.host.Spells)
    (path text : String) :
    table.Lawful root (.file (.openFile path text)) := by
  change _ ∨ _ ∧ Host.SameOutside root _ (table.openFile path text).2.store.host
  cases free : table.freeSlot? with
  | none =>
      refine .inr ⟨fun place lands => lands.1 free, ?_⟩
      rw [HandleTable.openFile, free]
      exact .refl root _
  | some slot =>
      cases parsed : OpenMode.parse text with
      | error error =>
          refine .inr ⟨?_, ?_⟩
          · rintro place ⟨-, ⟨mode, modeParsed, -⟩, -⟩
            cases parsed.symm.trans modeParsed
          · rw [HandleTable.openFile, free, parsed]
            exact .refl root _
      | ok mode =>
          have sameHost := host_openFile free parsed path
          rcases Store.prepare_host spells (table.absolute path) mode.access with
            ⟨place, creates, reaches, nothing, made⟩ | ⟨unreached, same⟩
          · refine .inl ⟨place, ⟨?_, ⟨mode, parsed, creates⟩, reaches⟩, ?_, ?_⟩
            · rw [free]
              exact Option.some_ne_none slot
            · exact fun other lands => reaches.unique lands.2.2
            · change Host.Landed place _ (table.openFile path text).2.store.host
              rw [sameHost, made]
              exact Host.landed_insert nothing (.inl rfl)
          · refine .inr ⟨?_, ?_⟩
            · rintro place ⟨-, ⟨otherMode, otherParsed, creates⟩, reaches⟩
              cases parsed.symm.trans otherParsed
              exact unreached creates place reaches
            · rw [sameHost, same]
              exact .refl root _

/-- Making a directory lands where its path leads, if nothing is there. -/
theorem lawful_makeDirectory
    (root : Place)
    (table : HandleTable)
    (path : String) :
    table.Lawful root (.file (.makeDirectory path)) := by
  change _ ∨ _ ∧ Host.SameOutside root _ (table.store.makeDirectory (table.absolute path)).2.host
  rcases table.store.makeDirectory_host (table.absolute path) with
    ⟨place, reaches, nothing, made⟩ | ⟨taken, same⟩
  · refine .inl ⟨place, ⟨reaches, nothing⟩, fun other lands => reaches.unique lands.1, ?_⟩
    change Host.Landed place _ (table.store.makeDirectory (table.absolute path)).2.host
    rw [made]
    exact Host.landed_insert nothing (.inr rfl)
  · refine .inr ⟨fun place lands => taken place lands.1 lands.2, ?_⟩
    rw [same]
    exact .refl root _

namespace Anchored

/-- A new table is anchored in its root. -/
theorem empty
    (host : Host)
    (root : Place) :
    Anchored root { store := { host := host, root := root } } := by
  refine ⟨rfl, ⟨.empty rfl rfl, ?_⟩, nofun⟩
  intro slot file here
  cases (HandleSlots.getElem_empty slot).symm.trans here

variable
  {root : Place}
  {table : HandleTable}
  (anchored : table.Anchored root)

include anchored

/-- What is open can be found on the host. -/
theorem locate_of_opened
    {place : Place}
    (opened : place ∈ table.store.opened) :
    ∃ found, table.store.host.locate (.ofPlace place) = .ok found := by
  obtain ⟨slot, file, here, rfl⟩ := (anchored.backed.ledger.tracked place).mp opened
  have held := anchored.backed.held slot file here
  obtain ⟨content, entry, -⟩ := held.stored
  exact ⟨file.place, Store.locate_direct held.accepted held.leads ⟨_, entry, fun _ => nofun⟩⟩

/-- The host may change at a place where nothing is open. -/
theorem change
    {place : Place}
    {changed : Host}
    (change : Host.ChangedAt place table.store.host changed)
    (closed : place ∉ table.store.opened) :
    Anchored root { table with store := { table.store with host := changed } } :=
  ⟨anchored.rooted, anchored.backed.change change closed, anchored.inside⟩

/-- Where there is no file, nothing is open. -/
theorem land
    {place : Place}
    {changed : Host}
    (landed : Host.Landed place table.store.host changed) :
    Anchored root { table with store := { table.store with host := changed } } := by
  apply anchored.change landed.change
  intro opened
  obtain ⟨content, entry⟩ := anchored.backed.entry?_of_opened opened
  rcases landed.spared with same | ⟨nothing | ⟨target, linked⟩, -⟩
  · exact landed.differs same
  · cases entry.symm.trans nothing
  · cases entry.symm.trans linked

/-- Closing a file changes its place alone, which is inside. -/
theorem release
    {slot : Fin 3}
    {file : OpenFile}
    (here : table.slots[slot] = some file) :
    Anchored root {
      table with
      store := (table.store.closeFile file).2
      slots := table.slots.set slot none
    } ∧ Host.SameOutside root table.store.host (table.store.closeFile file).2.host := by
  have held := anchored.backed.held slot file here
  rcases closing : table.store.closeFile file with ⟨result, after⟩
  obtain ⟨-, sameRoot, forgotten, change, -⟩ := Store.closeFile_spec held closing
  have inside := anchored.inside file.place (anchored.backed.ledger.place_mem here)
  refine ⟨⟨sameRoot.trans anchored.rooted, anchored.backed.release here forgotten change, ?_⟩,
    change.sameOutside inside⟩
  intro place opened
  dsimp only at opened
  rw [forgotten] at opened
  exact anchored.inside place (List.mem_filter.mp opened).1

/-- Closing a slot keeps the table anchored and writes inside the root only. -/
theorem closeSlot (slot : Fin 3) :
    (table.closeSlot slot).Anchored root ∧
      Host.SameOutside root table.store.host (table.closeSlot slot).store.host := by
  unfold HandleTable.closeSlot
  split
  · rename_i file here
    exact anchored.release here
  · exact ⟨anchored, .refl root _⟩

/-- Closing all slots keeps the table anchored and writes inside the root only. -/
theorem closeAll :
    table.closeAll.Anchored root ∧
      Host.SameOutside root table.store.host table.closeAll.store.host := by
  unfold HandleTable.closeAll
  generalize List.finRange 3 = slots
  induction slots generalizing table with
  | nil => exact ⟨anchored, .refl root _⟩
  | cons slot rest inductionHypothesis =>
      obtain ⟨closed, same⟩ := anchored.closeSlot slot
      obtain ⟨closedAll, sameRest⟩ := inductionHypothesis closed
      exact ⟨closedAll, same.trans sameRest⟩

/-- Closing by a handle keeps the table anchored and writes inside the root only. -/
theorem closeFile (handle : Word) :
    (table.closeFile handle).2.Anchored root ∧
      Host.SameOutside root table.store.host (table.closeFile handle).2.store.host := by
  unfold HandleTable.closeFile
  split
  · exact ⟨anchored, .refl root _⟩
  · rename_i slot file found
    exact anchored.release (find_eq_ok_iff.mp found).2

/-- A request has no part in the host. -/
theorem serve
    (handle : Word)
    (request : FileRequest) :
    (table.serve handle request).2.Anchored root ∧
      Host.SameOutside root table.store.host (table.serve handle request).2.store.host := by
  cases found : table.find handle with
  | error error =>
      rw [serve_of_closed found]
      exact ⟨anchored, .refl root _⟩
  | ok named =>
      obtain ⟨slot, file⟩ := named
      have here := (find_eq_ok_iff.mp found).2
      have held := anchored.backed.held slot file here
      obtain ⟨changed, served, -, edited⟩ := serve_of_find found held.cursor request
      rw [served]
      exact ⟨⟨anchored.rooted, anchored.backed.update here edited.place (edited.held held),
        anchored.inside⟩, .refl root _⟩

/-- Changing the directory does not touch the host. -/
theorem changeDir (path : String) :
    (table.act (.file (.changeDir path))).Anchored root ∧
      Host.SameOutside root table.store.host
        (table.act (.file (.changeDir path))).store.host := by
  rw [HandleTable.act, perform]
  cases changed : table.changeDir path with
  | error error => exact ⟨anchored, .refl root _⟩
  | ok after =>
      unfold HandleTable.changeDir at changed
      dsimp only at changed
      split at changed
      · cases changed
        exact ⟨⟨anchored.rooted, ⟨anchored.backed.ledger.of_same rfl rfl, anchored.backed.held⟩,
          anchored.inside⟩, .refl root _⟩
      · cases changed

/-- Making a file ready keeps the table anchored, wherever the file lands. -/
theorem prepare
    (spells : table.store.host.Spells)
    (path : String)
    (access : Access) :
    Anchored root { table with store := (table.store.prepare path access).2 } := by
  rcases Store.prepare_host spells path access with ⟨place, -, -, nothing, made⟩ | ⟨-, same⟩
  · rw [made]
    exact anchored.land (Host.landed_insert nothing (.inl rfl))
  · rw [same]
    exact anchored

/-- A file that is opened is inside, and the host has it. -/
theorem openFile
    (spells : table.store.host.Spells)
    (path text : String)
    (spellsLater : (table.openFile path text).2.store.host.Spells) :
    (table.openFile path text).2.Anchored root := by
  unfold HandleTable.openFile at spellsLater ⊢
  split at spellsLater
  · exact anchored
  · rename_i slot free
    split at spellsLater
    · exact anchored
    · rename_i mode parsed
      have ready := anchored.prepare spells (table.absolute path) mode.access
      have readied := Store.openFile_ready (table.absolute path) table.store
        (Store.asks_of_parse parsed)
      have kept := table.store.opened_prepare (table.absolute path) mode.access
      split at spellsLater
      · rename_i error store failed
        have opened := Store.opened_openFile failed
        rw [failed] at readied
        dsimp only at readied opened
        rw [readied, opened, ← kept]
        exact ready
      · rename_i file store done
        have opened := Store.opened_openFile done
        obtain ⟨fresh, -⟩ := Store.fresh_of_openFile done
        obtain ⟨settled, held⟩ := Store.settled_of_openFile done spellsLater
        rw [done] at readied
        dsimp only at readied opened
        have sameRoot : store.root = root := by
          rw [readied]
          exact ready.rooted
        have sameHost :
            store.host = (table.store.prepare (table.absolute path) mode.access).2.host := by
          rw [readied]
        rw [← kept] at fresh opened
        rw [← place_applyMode mode file] at fresh opened
        have occupied := ready.backed.occupy (free_of_freeSlot? free) fresh
          (held_applyMode (sameHost ▸ held) mode)
        refine ⟨sameRoot, ?_, ?_⟩
        · rw [readied, opened]
          exact occupied
        · intro place member
          rw [opened, place_applyMode] at member
          rcases List.mem_cons.mp member with rfl | earlier
          · exact sameRoot ▸ settled.inside
          · exact ready.inside place earlier

/-- Every call keeps the open files inside. -/
theorem act
    (spells : table.store.host.Spells)
    (call : TableCall)
    (spellsLater : (table.act call).store.host.Spells) :
    (table.act call).Anchored root := by
  cases call with
  | closeAll => exact anchored.closeAll.1
  | list => exact anchored
  | isDirectory path => exact anchored
  | file call =>
      cases call with
      | openFile path text => exact anchored.openFile spells path text spellsLater
      | closeFile handle => exact (anchored.closeFile handle).1
      | request handle request => exact (anchored.serve handle request).1
      | changeDir path => exact (anchored.changeDir path).1
      | reset =>
          obtain ⟨closed, -⟩ := anchored.closeAll
          exact ⟨closed.rooted, ⟨closed.backed.ledger.of_same rfl rfl, closed.backed.held⟩,
            closed.inside⟩
      | makeDirectory path =>
          change Anchored root { table with store := (table.store.makeDirectory _).2 }
          rcases table.store.makeDirectory_host (table.absolute path) with
            ⟨place, -, nothing, made⟩ | ⟨-, same⟩
          · rw [made]
            exact anchored.land (Host.landed_insert nothing (.inr rfl))
          · rw [same]
            exact anchored
      | delete path =>
          change Anchored root { table with store := (table.store.delete _).2 }
          rcases Store.delete_host spells (fun _ => anchored.locate_of_opened)
            (table.absolute path) with
            ⟨place, target, -, linked, removed⟩ | ⟨-, same | ⟨place, -, closed, empty, removed⟩⟩
          · rw [removed]
            exact anchored.land (Host.landed_erase linked)
          · rw [same]
            exact anchored
          · rw [removed]
            exact anchored.change (Host.changedAt_erase empty) closed

/-- Deleting lands where its path leads, if a link lies there. -/
theorem lawful_delete
    (spells : table.store.host.Spells)
    (path : String) :
    table.Lawful root (.file (.delete path)) := by
  change _ ∨ _ ∧ Host.SameOutside root _ (table.store.delete (table.absolute path)).2.host
  rcases Store.delete_host spells (fun _ => anchored.locate_of_opened) (table.absolute path) with
    ⟨place, target, reaches, linked, removed⟩ | ⟨unlinked, kept⟩
  · refine .inl ⟨place, ⟨reaches, target, linked⟩, fun other lands => reaches.unique lands.1, ?_⟩
    change Host.Landed place _ (table.store.delete (table.absolute path)).2.host
    rw [removed]
    exact Host.landed_erase linked
  · refine .inr ⟨?_, ?_⟩
    · rintro place ⟨reaches, target, linked⟩
      exact unlinked place target reaches linked
    · rcases kept with same | ⟨place, settled, -, empty, removed⟩
      · rw [same]
        exact .refl root _
      · rw [removed]
        exact (Host.changedAt_erase empty).sameOutside (anchored.rooted ▸ settled.inside)

/-- Whatever is called, something outside changes only where the call lands. -/
theorem lawful
    (spells : table.store.host.Spells)
    (call : TableCall) :
    table.Lawful root call := by
  cases call with
  | closeAll => exact .inr ⟨fun _ => id, anchored.closeAll.2⟩
  | list => exact .inr ⟨fun _ => id, .refl root _⟩
  | isDirectory path => exact .inr ⟨fun _ => id, .refl root _⟩
  | file call =>
      cases call with
      | openFile path text => exact lawful_openFile root spells path text
      | closeFile handle => exact .inr ⟨fun _ => id, (anchored.closeFile handle).2⟩
      | request handle request => exact .inr ⟨fun _ => id, (anchored.serve handle request).2⟩
      | changeDir path => exact .inr ⟨fun _ => id, (anchored.changeDir path).2⟩
      | reset => exact .inr ⟨fun _ => id, anchored.closeAll.2⟩
      | makeDirectory path => exact lawful_makeDirectory root table path
      | delete path => exact anchored.lawful_delete spells path

end Anchored

/-- A call changes something outside exactly when it lands there. -/
theorem Lawful.sameOutside_iff
    {root : Place}
    {table : HandleTable}
    {call : TableCall}
    (lawful : table.Lawful root call) :
    Host.SameOutside root table.store.host (table.act call).store.host ↔
      ∀ place, table.Lands place call → root <+: place := by
  rcases lawful with ⟨place, lands, unique, landed⟩ | ⟨nowhere, same⟩
  · constructor
    · intro same other otherLands
      rw [unique other otherLands]
      exact Decidable.byContradiction fun outside => landed.differs (same place outside)
    · intro inside
      exact landed.change.sameOutside (inside place lands)
  · exact ⟨fun _ place lands => (nowhere place lands).elim, fun _ => same⟩

/-- A lawful call spares everything outside. -/
theorem Lawful.spared
    {root place : Place}
    {table : HandleTable}
    {call : TableCall}
    (lawful : table.Lawful root call)
    (outside : ¬ root <+: place) :
    Host.Spared (table.store.host.entry? place) ((table.act call).store.host.entry? place) := by
  rcases lawful with ⟨landing, -, -, landed⟩ | ⟨-, same⟩
  · exact landed.spared_elsewhere place
  · rw [same place outside]
    exact .refl _

section Runs

variable
  {root : Place}
  {table : HandleTable}
  {calls : List TableCall}
  (anchored : table.Anchored root)
  (spells : ∀ earlier, earlier <+: calls → (earlier.foldl act table).store.host.Spells)

include anchored spells

/-- A table stays anchored through a run of calls. -/
theorem anchored_run : (calls.foldl act table).Anchored root := by
  induction calls generalizing table with
  | nil => exact anchored
  | cons call rest inductionHypothesis =>
      have now := spells [] (List.nil_prefix)
      have later := spells [call] (List.prefix_append [call] rest)
      refine inductionHypothesis (anchored.act now call later) ?_
      intro earlier leading
      exact spells (call :: earlier) (List.cons_prefix_cons.mpr ⟨rfl, leading⟩)

/-- Files and directories outside survive a run. -/
theorem spared_run
    {place : Place}
    (outside : ¬ root <+: place) :
    Host.Spared (table.store.host.entry? place)
      ((calls.foldl act table).store.host.entry? place) := by
  induction calls generalizing table with
  | nil => exact .refl _
  | cons call rest inductionHypothesis =>
      have now := spells [] (List.nil_prefix)
      have later := spells [call] (List.prefix_append [call] rest)
      refine ((anchored.lawful now call).spared outside).trans ?_
      refine inductionHypothesis (anchored.act now call later) ?_
      intro earlier leading
      exact spells (call :: earlier) (List.cons_prefix_cons.mpr ⟨rfl, leading⟩)

/-- As long as no call lands outside, all is the same there. -/
theorem sameOutside_run
    (inside :
      ∀ earlier call place,
        earlier ++ [call] <+: calls →
        (earlier.foldl act table).Lands place call →
        root <+: place) :
    Host.SameOutside root table.store.host (calls.foldl act table).store.host := by
  induction calls generalizing table with
  | nil => exact .refl root _
  | cons call rest inductionHypothesis =>
      have now := spells [] (List.nil_prefix)
      have later := spells [call] (List.prefix_append [call] rest)
      have landsInside : ∀ place, table.Lands place call → root <+: place :=
        fun place => inside [] call place (List.prefix_append [call] rest)
      refine ((anchored.lawful now call).sameOutside_iff.mpr landsInside).trans ?_
      refine inductionHypothesis (anchored.act now call later) ?_ ?_
      · intro earlier leading
        exact spells (call :: earlier) (List.cons_prefix_cons.mpr ⟨rfl, leading⟩)
      · intro earlier next place leading
        exact inside (call :: earlier) next place (List.cons_prefix_cons.mpr ⟨rfl, leading⟩)

end Runs

/--
What a program can do outside the root of its store.

Take any host, with links that lead anywhere, on which all that can be found can
also be spelled out anew, and any calls. Files that are open lie inside the root
and have come from there, and so have the names that are listed and what is taken
for a directory. Outside, a file or a directory is never changed or deleted. A
call leaves everything outside as it is exactly when it does not land there, and
as long as no call does, everything outside stays as it was.
-/
theorem outside_kept_unless_landed
    (host : Host)
    (root : Place)
    (calls : List TableCall)
    (spells :
      ∀ earlier,
        earlier <+: calls →
        (earlier.foldl act { store := { host := host, root := root } }).store.host.Spells) :
    let table := calls.foldl act { store := { host := host, root := root } }
    (∀ (slot : Fin 3) (file : OpenFile),
      table.slots[slot] = some file →
      root <+: file.place ∧
      ∃ content,
        table.store.host.entry? file.place = some (.file content) ∧
        (file.dirty = false → content = file.content)) ∧
    (∀ names,
      table.list = .ok names →
      ∃ place,
        root <+: place ∧
        table.store.Spelled table.workingDir place ∧
        table.store.host.entry? place = some .directory ∧
        names = table.store.host.children place) ∧
    (∀ path,
      table.isDirectory path = true →
      ∃ place,
        root <+: place ∧
        table.store.Spelled (table.absolute path) place ∧
        table.store.host.entry? place = some .directory) ∧
    (∀ place,
      ¬ root <+: place →
      Host.Spared (host.entry? place) (table.store.host.entry? place)) ∧
    (∀ call,
      Host.SameOutside root table.store.host (table.act call).store.host ↔
        ∀ place, table.Lands place call → root <+: place) ∧
    ((∀ earlier call place,
      earlier ++ [call] <+: calls →
      (earlier.foldl act { store := { host := host, root := root } }).Lands place call →
      root <+: place) →
      Host.SameOutside root host table.store.host) := by
  intro table
  have start := Anchored.empty host root
  have anchored : table.Anchored root := anchored_run start spells
  have spellsNow : table.store.host.Spells := spells calls (List.prefix_refl calls)
  refine ⟨?_, ?_, ?_, ?_, ?_, ?_⟩
  · intro slot file here
    exact ⟨anchored.inside file.place (anchored.backed.ledger.place_mem here),
      (anchored.backed.held slot file here).stored⟩
  · intro names listed
    obtain ⟨place, settled, spelled, directory, same⟩ := Store.settled_of_list spellsNow listed
    exact ⟨place, anchored.rooted ▸ settled.inside, spelled, directory, same⟩
  · intro path taken
    obtain ⟨place, settled, spelled, directory⟩ := Store.settled_of_isDirectory spellsNow taken
    exact ⟨place, anchored.rooted ▸ settled.inside, spelled, directory⟩
  · exact fun place outside => spared_run start spells outside
  · exact fun call => (anchored.lawful spellsNow call).sameOutside_iff
  · exact sameOutside_run start spells

/-- A link to a directory beside the one that the link is in. -/
def outward : LinkTarget :=
  { fromTop := false, names := ["..", "outside"] }

/-- A host with such a link in the root. -/
def linkedHost : Host :=
  { entries := [
      (["root"], .directory),
      (["outside"], .directory),
      (["root", "out"], .link outward)] }

/-- A table whose store is the root on that host. -/
def linkedTable : HandleTable :=
  { store := { host := linkedHost, root := ["root"] } }

/-- The host when a directory was made at the other end of the link. -/
def leakedHost : Host :=
  linkedHost.insert ["outside", "new"] .directory

theorem spells_linkedHost : linkedHost.Spells :=
  Host.spells_of_fits (by decide)

theorem spells_leakedHost : leakedHost.Spells :=
  Host.spells_of_fits (by decide)

/-- The host follows the link out of the root, whether or not something is there yet. -/
theorem walk_outward
    {host : Host}
    (root : host.entry? ["root"] = some .directory)
    (out : host.entry? ["root", "out"] = some (.link outward))
    (outside : host.entry? ["outside"] = some .directory)
    (last :
      host.entry? ["outside", "new"] = none ∨ host.entry? ["outside", "new"] = some .directory)
    (followLast : Bool) :
    host.walk followLast Host.linkLimit [] ["root", "out", "new"] = .ok ["outside", "new"] := by
  have leads : host.Leads [] ["outside", "new"] :=
    ⟨by decide, by decide, by decide, fun _ => outside,
      by decide, by decide, by decide, fun more => (more rfl).elim, trivial⟩
  have unlinked : ∀ target, host.entry? ["outside", "new"] ≠ some (.link target) := by
    intro target link
    rcases last with nothing | directory
    · cases nothing.symm.trans link
    · cases directory.symm.trans link
  calc host.walk followLast Host.linkLimit [] ["root", "out", "new"]
    _ = host.walk followLast Host.linkLimit ["root"] ["out", "new"] := by
      rw [Host.walk, if_neg (by decide), if_neg (by decide), if_neg (by decide), List.nil_append,
        root]
    _ = host.walk followLast 39 ["root"] ["..", "outside", "new"] := by
      rw [Host.walk, if_neg (by decide), if_neg (by decide), if_neg (by decide),
        List.singleton_append, out]
      rfl
    _ = host.walk followLast 39 [] ["outside", "new"] := by
      rw [Host.walk, if_neg (by decide), if_pos rfl]
      rfl
    _ = .ok ["outside", "new"] := Host.walk_direct 39 leads fun _ => unlinked

theorem walk_linkedHost (followLast : Bool) :
    linkedHost.walk followLast Host.linkLimit [] ["root", "out", "new"] = .ok ["outside", "new"] :=
  walk_outward (by decide) (by decide) (by decide) (by decide) followLast

/-- The path through the link cannot be spelled out and is taken as it is. -/
theorem place_linkedTable : linkedTable.store.place "/out/new" = .ok ["root", "out", "new"] := by
  apply Store.place_of_unspelled
  refine ⟨rfl, ⟨["out", "new"], by decide, rfl⟩, ?_⟩
  intro found spelled
  unfold Host.canonical at spelled
  obtain ⟨place, walked, checked⟩ := bind_eq_ok_iff.mp spelled
  cases walked.symm.trans (walk_linkedHost true)
  cases checked

/-- The directory is made at the other end of the link. -/
theorem act_linkedTable :
    linkedTable.act (.file (.makeDirectory "/out/new")) =
      { linkedTable with store := { linkedTable.store with host := leakedHost } } := by
  have accepted : Host.accept (.ofPlace ["root", "out", "new"]) = .ok () := rfl
  have made : linkedHost.makeDirectory (.ofPlace ["root", "out", "new"]) = .ok leakedHost :=
    bind_eq_ok_iff.mpr ⟨(), accepted,
      bind_eq_ok_iff.mpr ⟨["outside", "new"], walk_linkedHost false, rfl⟩⟩
  have absolute : linkedTable.absolute "/out/new" = "/out/new" := rfl
  have stored : linkedTable.store.makeDirectory "/out/new" =
      (.ok true, { linkedTable.store with host := leakedHost }) := by
    have host : linkedTable.store.host = linkedHost := rfl
    simp only [Store.makeDirectory, place_linkedTable, host, made]
  simp only [act, perform, makeDirectory, absolute, stored]

/-- Such a link is no obstacle to making a directory outside. -/
theorem directory_made_outside :
    linkedHost.Spells ∧
      linkedHost.entry? ["outside", "new"] = none ∧
      (linkedTable.act (.file (.makeDirectory "/out/new"))).store.host.entry? ["outside", "new"] =
        some .directory := by
  rw [act_linkedTable]
  exact ⟨spells_linkedHost, by decide, by decide⟩

/-- Once it is there, it is out of reach: it cannot be deleted again. -/
theorem directory_outside_stays :
    let made := linkedTable.act (.file (.makeDirectory "/out/new"))
    Host.SameOutside ["root"] made.store.host
      (made.act (.file (.delete "/out/new"))).store.host := by
  have walked :
      leakedHost.walk true Host.linkLimit [] ["root", "out", "new"] = .ok ["outside", "new"] :=
    walk_outward (by decide) (by decide) (by decide) (by decide) true
  have spelled :
      leakedHost.canonical (.ofPlace ["root", "out", "new"]) = .ok ["outside", "new"] :=
    bind_eq_ok_iff.mpr ⟨["outside", "new"], walked, rfl⟩
  have spells :
      ∀ earlier,
        earlier <+: [TableCall.file (.makeDirectory "/out/new")] →
        (earlier.foldl act linkedTable).store.host.Spells := by
    intro earlier leading
    rcases List.prefix_cons_iff.mp leading with rfl | ⟨rest, rfl, empty⟩
    · exact spells_linkedHost
    · obtain rfl := List.prefix_nil.mp empty
      rw [List.foldl_cons, List.foldl_nil, act_linkedTable]
      exact spells_leakedHost
  obtain ⟨-, -, -, -, step, -⟩ := outside_kept_unless_landed linkedHost ["root"] _ spells
  refine (step (.file (.delete "/out/new"))).mpr ?_
  change ∀ place, (linkedTable.act (.file (.makeDirectory "/out/new"))).Lands place _ → _
  rw [act_linkedTable]
  rintro place ⟨⟨native, unspelled, -⟩, -⟩
  obtain ⟨names, descended, rfl⟩ := unspelled.descended
  have names? : Path.descend? "/out/new" = some ["out", "new"] := by decide
  cases descended.symm.trans names?
  exact (unspelled.unspelled ["outside", "new"] spelled).elim

end HandleTable

end Handheld
