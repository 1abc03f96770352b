import Handheld.Proofs.Files.HostTree
import Handheld.Proofs.Files.Ledger

namespace Handheld

/-!
# Open files and the host

Every open file has a place of its own on the host, where a file remains for as
long as it is open: nothing else writes there, it is not deleted, and its
directories stay. So its content can always be written back, and whatever was
not changed is still what the host has.
-/

namespace Path

/-- A step down from the root keeps the names proper. -/
theorem proper_of_descendStep?
    {names next : List String}
    {segment : String}
    (proper : Host.Proper names)
    (step : descendStep? names segment = some next) :
    Host.Proper next := by
  unfold descendStep? at step
  split at step
  · rwa [← Option.some.inj step]
  · rename_i notStill
    split at step
    · cases names with
      | nil => cases step
      | cons last above =>
          rw [← Option.some.inj step]
          exact fun name member => proper name (List.mem_cons_of_mem last member)
    · rename_i notUp
      rw [← Option.some.inj step]
      intro name member
      rcases List.mem_cons.mp member with rfl | earlier
      · exact ⟨fun dot => notStill (.inr dot), notUp⟩
      · exact proper name earlier

/-- Names stay proper through all steps down from the root. -/
theorem proper_of_foldlM
    {segments names result : List String}
    (proper : Host.Proper names)
    (walked : segments.foldlM descendStep? names = some result) :
    Host.Proper result := by
  induction segments generalizing names with
  | nil => rwa [← Option.some.inj walked]
  | cons segment rest inductionHypothesis =>
      obtain ⟨next, step, onward⟩ := Option.bind_eq_some_iff.mp walked
      exact inductionHypothesis (proper_of_descendStep? proper step) onward

/-- The names that a path leads to are walked as they stand. -/
theorem proper_of_descend?
    {path : String}
    {names : List String}
    (descended : descend? path = some names) :
    Host.Proper names := by
  obtain ⟨reversed, walked, rfl⟩ := Option.map_eq_some_iff.mp descended
  intro name member
  exact proper_of_foldlM Host.proper_nil walked name (List.mem_reverse.mp member)

end Path

namespace Store

section Places

variable
  {store : Store}
  (linkFree : store.host.LinkFree)
  (rootProper : Host.Proper store.root)

include rootProper in
/-- Below a proper root, a path that descends has proper names. -/
theorem proper_of_names
    {path : String}
    {names : List String}
    (descended : Path.descend? path = some names) :
    Host.Proper (store.root ++ names) := by
  intro name member
  rcases List.mem_append.mp member with inRoot | inNames
  · exact rootProper name inRoot
  · exact Path.proper_of_descend? descended name inNames

include linkFree rootProper

/-- Without links the place of a path depends on the path and the root alone. -/
theorem place_eq_ok_iff
    {path : String}
    {place : Place} :
    store.place path = .ok place ↔
      Path.isAbsolute path = true ∧
        ∃ names, Path.descend? path = some names ∧ place = store.root ++ names := by
  have spelled :
      ∀ names,
        Path.descend? path = some names →
        Path.isAbsolute path = true →
        store.place path = .ok (store.root ++ names) := by
    intro names descended absolute
    have proper := proper_of_names rootProper descended
    unfold Store.place
    rw [if_pos absolute, descended]
    simp only
    split
    · rename_i found canonical
      rw [Host.canonical_eq linkFree proper canonical, if_pos (by simp)]
    · rfl
  constructor
  · intro placed
    by_cases absolute : Path.isAbsolute path = true
    · cases descended : Path.descend? path with
      | none =>
          unfold Store.place at placed
          rw [if_pos absolute, descended] at placed
          cases placed
      | some names =>
          rw [spelled names descended absolute] at placed
          exact ⟨absolute, names, rfl, (Except.ok.inj placed).symm⟩
    · unfold Store.place at placed
      rw [if_neg absolute] at placed
      cases placed
  · rintro ⟨absolute, names, descended, rfl⟩
    exact spelled names descended absolute

/-- The place of a path has proper names. -/
theorem proper_of_place
    {path : String}
    {place : Place}
    (placed : store.place path = .ok place) :
    Host.Proper place := by
  obtain ⟨-, names, descended, rfl⟩ := (place_eq_ok_iff linkFree rootProper).mp placed
  exact proper_of_names rootProper descended

end Places

/-- Nothing happened to a store, or an empty file was made where nothing was. -/
def Readied
    (place : Place)
    (store ready : Store) :
    Prop :=
  ready = store ∨
    store.host.entry? place = none ∧
      ready = { store with host := store.host.insert place (.file []) }

/-- Making a file where nothing was changes that place alone. -/
theorem changedAt_create
    {host : Host}
    {place : Place}
    (nothing : host.entry? place = none) :
    Host.ChangedAt place host (host.insert place (.file [])) := by
  apply Host.changedAt_insert
  · rw [nothing]
    exact nofun
  · exact nofun

/-- Making a file ready makes no link. -/
theorem Readied.linkFree
    {place : Place}
    {store ready : Store}
    (readied : Readied place store ready)
    (linkFree : store.host.LinkFree) :
    ready.host.LinkFree := by
  rcases readied with rfl | ⟨nothing, rfl⟩
  · exact linkFree
  · exact (changedAt_create nothing).linkFree linkFree

section Opening

variable
  {store : Store}
  (linkFree : store.host.LinkFree)
  (rootProper : Host.Proper store.root)

include linkFree rootProper

/-- A path is made ready where it leads, and nothing happens otherwise. -/
theorem prepare_cases
    {path : String}
    {access : Access}
    {result : Except FileError Place}
    {ready : Store}
    (prepared : store.prepare path access = (result, ready)) :
    (∃ error, result = .error error ∧ ready = store) ∨
      ∃ place, result = .ok place ∧ store.place path = .ok place ∧ Readied place store ready := by
  unfold prepare at prepared
  cases placed : store.place path with
  | error error =>
      rw [placed] at prepared
      cases prepared
      exact .inl ⟨error, rfl, rfl⟩
  | ok place =>
      have proper := proper_of_place linkFree rootProper placed
      rw [placed] at prepared
      simp only at prepared
      split at prepared
      · rename_i missing
        cases written : store.host.writeFile (.ofPlace place) [] with
        | error error =>
            rw [written] at prepared
            cases prepared
            exact .inl ⟨.host error, rfl, rfl⟩
        | ok host =>
            rw [written] at prepared
            cases prepared
            obtain ⟨followed, -, rfl⟩ := Host.writeFile_inv linkFree proper written
            -- The route can be followed, so it is the entry that is missing.
            have nothing : store.host.entry? place = none := by
              cases entry : store.host.entry? place with
              | none => rfl
              | some item =>
                  simp [Host.pathExists, Host.locate, followed, entry, bind, Except.bind,
                    Except.isOk, Except.toBool] at missing
            have madeFree := (changedAt_create nothing).linkFree linkFree
            have samePlace := (place_eq_ok_iff linkFree rootProper).mp placed
            refine .inr ⟨place, ?_, rfl, .inr ⟨nothing, rfl⟩⟩
            exact (@place_eq_ok_iff { store with host := _ } madeFree rootProper path place).mpr
              samePlace
      · cases prepared
        exact .inr ⟨place, rfl, rfl, .inl rfl⟩

/-- Opening readies the place of the path; if that works, the file is there and was not open. -/
theorem openFile_cases
    {path : String}
    {access : Access}
    {result : Except FileError OpenFile}
    {after : Store}
    (opening : store.openFile path access = (result, after)) :
    (∃ error, result = .error error ∧ (after = store ∨ ∃ place, Readied place store after)) ∨
      ∃ place content ready,
        store.place path = .ok place ∧
        Readied place store ready ∧
        place ∉ store.opened ∧
        ready.host.readFile (.ofPlace place) = .ok content ∧
        result = .ok {
          place := place
          content := content
          canRead := access.reads
          canWrite := access.writes
        } ∧
        after = { ready with opened := place :: store.opened } := by
  unfold openFile at opening
  split at opening
  · cases opening
    exact .inl ⟨_, rfl, .inl rfl⟩
  · split at opening
    · rename_i error prepared preparing
      cases opening
      rcases prepare_cases linkFree rootProper preparing with ⟨_, -, rfl⟩ | ⟨place, impossible, -⟩
      · exact .inl ⟨error, rfl, .inl rfl⟩
      · cases impossible
    · rename_i place prepared preparing
      rcases prepare_cases linkFree rootProper preparing with
        ⟨_, impossible, -⟩ | ⟨_, same, placed, readied⟩
      · cases impossible
      · cases same
        have sameOpened : prepared.opened = store.opened := by
          rcases readied with rfl | ⟨-, rfl⟩
          · rfl
          · rfl
        split at opening
        · cases opening
          exact .inl ⟨_, rfl, .inr ⟨place, readied⟩⟩
        · rename_i closed
          split at opening
          · cases opening
            exact .inl ⟨_, rfl, .inr ⟨place, readied⟩⟩
          · rename_i content read
            cases opening
            rw [sameOpened] at closed
            exact .inr ⟨place, content, prepared, placed, readied, closed, read, rfl,
              by rw [sameOpened]⟩

end Opening

end Store

/-- The host still has the file, and can take it back. -/
structure OpenFile.Held
    (host : Host)
    (file : OpenFile) :
    Prop where
  accepted : Host.accept (.ofPlace file.place) = .ok ()
  leads : host.Leads [] file.place
  stored :
    ∃ content,
      host.entry? file.place = some (.file content) ∧
        (file.dirty = false → content = file.content)
  cursor : file.offset ≤ file.size

/-- A change elsewhere leaves hold of a file. -/
theorem OpenFile.Held.of_changedAt
    {place : Place}
    {host changed : Host}
    {file : OpenFile}
    (held : file.Held host)
    (change : Host.ChangedAt place host changed)
    (different : file.place ≠ place) :
    file.Held changed where
  accepted := held.accepted
  leads := by
    obtain ⟨content, entry, -⟩ := held.stored
    exact held.leads.of_changedAt change (by rw [List.nil_append, entry]; exact nofun)
  stored := by
    rw [change.elsewhere _ different]
    exact held.stored
  cursor := held.cursor

/-- What a request leaves of a file: it stays in its place, with the cursor inside. -/
structure OpenFile.Edited (file changed : OpenFile) : Prop where
  place : changed.place = file.place
  cursor : changed.offset ≤ changed.size
  clean : changed.dirty = false → file.dirty = false ∧ changed.content = file.content

namespace OpenFile

/-- A file with its cursor inside is an edit of itself. -/
theorem Edited.refl
    {file : OpenFile}
    (cursor : file.offset ≤ file.size) :
    file.Edited file :=
  ⟨rfl, cursor, fun clean => ⟨clean, rfl⟩⟩

/-- An edited file is held like the one it was made from. -/
theorem Edited.held
    {host : Host}
    {file changed : OpenFile}
    (edited : file.Edited changed)
    (held : file.Held host) :
    changed.Held host := by
  obtain ⟨content, entry, same⟩ := held.stored
  refine ⟨?_, ?_, ⟨content, ?_, ?_⟩, edited.cursor⟩
  · rw [edited.place]
    exact held.accepted
  · rw [edited.place]
    exact held.leads
  · rw [edited.place]
    exact entry
  · intro clean
    obtain ⟨cleanBefore, sameContent⟩ := edited.clean clean
    rw [sameContent]
    exact same cleanBefore

/-- Reading moves the cursor and edits nothing else. -/
theorem edited_read
    (file : OpenFile)
    (cursor : file.offset ≤ file.size)
    (count : Nat) :
    file.Edited (file.read count).2 := by
  refine ⟨rfl, ?_, fun clean => ⟨clean, rfl⟩⟩
  simp only [read, size, List.length_take, List.length_drop] at cursor ⊢
  omega

/-- Writing edits the content and marks it as changed. -/
theorem edited_write
    (file : OpenFile)
    (cursor : file.offset ≤ file.size)
    (bytes : List UInt8) :
    file.Edited (file.write bytes) := by
  by_cases nothing : bytes = []
  · rw [write, if_pos nothing]
    exact .refl cursor
  · rw [write_of_cursor_le cursor nothing]
    refine ⟨rfl, ?_, nofun⟩
    simp only [size, List.length_append, List.length_take, List.length_drop] at cursor ⊢
    omega

end OpenFile

/-- Closing a file that the host has works, and puts its content in its place. -/
theorem Store.closeFile_spec
    {store after : Store}
    {file : OpenFile}
    {result : Except FileError Unit}
    (held : file.Held store.host)
    (closing : store.closeFile file = (result, after)) :
    result = .ok () ∧
      after.root = store.root ∧
      after.opened = store.opened.filter (· ≠ file.place) ∧
      Host.ChangedAt file.place store.host after.host ∧
      after.host.entry? file.place = some (.file file.content) := by
  obtain ⟨content, entry, clean⟩ := held.stored
  have notDirectory : store.host.entry? file.place ≠ some .directory := by
    rw [entry]
    exact nofun
  have unlinked : ∀ target, store.host.entry? file.place ≠ some (.link target) := by
    rw [entry]
    exact nofun
  unfold closeFile at closing
  cases dirty : file.dirty with
  | true =>
      rw [if_pos dirty,
        Host.writeFile_eq file.content held.accepted held.leads entry] at closing
      cases closing
      refine ⟨rfl, rfl, rfl, Host.changedAt_insert notDirectory nofun, ?_⟩
      have proper : file.place ≠ [] := by
        intro top
        rw [top] at notDirectory
        exact notDirectory store.host.entry?_top
      exact (Host.entry?_insert _ _ _ proper).trans (if_pos rfl)
  | false =>
      rw [if_neg (by rw [dirty]; exact nofun)] at closing
      cases closing
      refine ⟨rfl, rfl, rfl, ?_, ?_⟩
      · exact ⟨fun _ _ => rfl, unlinked, fun directory => (notDirectory directory).elim⟩
      · rw [← clean dirty]
        exact entry

namespace HandleTable

/-- The books agree, and the host has all files that are open. -/
structure Backed (table : HandleTable) : Prop where
  ledger : table.Ledger
  held :
    ∀ (slot : Fin 3) (file : OpenFile), table.slots[slot] = some file → file.Held table.store.host

namespace Backed

variable
  {table : HandleTable}
  (backed : table.Backed)

include backed

/-- At the place of an open file there is a file. -/
theorem entry?_of_opened
    {place : Place}
    (opened : place ∈ table.store.opened) :
    ∃ content, table.store.host.entry? place = some (.file content) := by
  obtain ⟨slot, file, here, rfl⟩ := (backed.ledger.tracked place).mp opened
  obtain ⟨content, entry, -⟩ := (backed.held slot file here).stored
  exact ⟨content, entry⟩

/-- The host may change at a place where nothing is open. -/
theorem change
    {place : Place}
    {changed : Host}
    (change : Host.ChangedAt place table.store.host changed)
    (closed : place ∉ table.store.opened) :
    Backed { table with store := { table.store with host := changed } } := by
  refine ⟨backed.ledger.of_same rfl rfl, ?_⟩
  intro slot file here
  apply (backed.held slot file here).of_changedAt change
  intro same
  exact closed (same ▸ backed.ledger.place_mem here)

/-- An open file may change as long as it stays in its place. -/
theorem update
    {slot : Fin 3}
    {file changed : OpenFile}
    (here : table.slots[slot] = some file)
    (samePlace : changed.place = file.place)
    (held : changed.Held table.store.host) :
    (table.update slot changed).Backed := by
  refine ⟨backed.ledger.update here samePlace, ?_⟩
  intro other found there
  rw [HandleTable.update, HandleSlots.getElem_set] at there
  split at there
  · rwa [← Option.some.inj there]
  · exact backed.held other found there

/-- A file that the host has and that is not open may take a free slot. -/
theorem occupy
    {slot : Fin 3}
    {file : OpenFile}
    (free : table.slots[slot] = none)
    (closed : file.place ∉ table.store.opened)
    (held : file.Held table.store.host) :
    Backed {
      table with
      store := { table.store with opened := file.place :: table.store.opened }
      slots := table.slots.set slot (some file)
    } := by
  refine ⟨backed.ledger.occupy free closed rfl, ?_⟩
  intro other found there
  rw [HandleSlots.getElem_set] at there
  split at there
  · rwa [← Option.some.inj there]
  · exact backed.held other found there

/-- A slot is given up once its file is in its place. -/
theorem release
    {slot : Fin 3}
    {file : OpenFile}
    {after : Store}
    (here : table.slots[slot] = some file)
    (forgotten : after.opened = table.store.opened.filter (· ≠ file.place))
    (change : Host.ChangedAt file.place table.store.host after.host) :
    Backed { table with store := after, slots := table.slots.set slot none } := by
  refine ⟨backed.ledger.release here forgotten, ?_⟩
  intro other found there
  rw [HandleSlots.getElem_set] at there
  split at there
  · cases there
  · rename_i different
    exact (backed.held other found there).of_changedAt change
      (backed.ledger.place_ne here there different)

end Backed

/-- Open files have places of their own, which the store knows, and the host has them all. -/
structure Sound (table : HandleTable) : Prop where
  linkFree : table.store.host.LinkFree
  rootProper : Host.Proper table.store.root
  tracked :
    ∀ place,
      place ∈ table.store.opened ↔
        ∃ (slot : Fin 3) (file : OpenFile), table.slots[slot] = some file ∧ file.place = place
  apart :
    ∀ (slot other : Fin 3) (file otherFile : OpenFile),
      table.slots[slot] = some file →
      table.slots[other] = some otherFile →
      file.place = otherFile.place →
      slot = other
  held :
    ∀ (slot : Fin 3) (file : OpenFile), table.slots[slot] = some file → file.Held table.store.host

/-- Without links, a table whose files are backed is sound. -/
theorem Backed.sound
    {table : HandleTable}
    (backed : table.Backed)
    (linkFree : table.store.host.LinkFree)
    (rootProper : Host.Proper table.store.root) :
    table.Sound :=
  ⟨linkFree, rootProper, backed.ledger.tracked, backed.ledger.apart, backed.held⟩

namespace Sound

variable
  {table : HandleTable}
  (sound : table.Sound)

include sound

/-- The files of a sound table are backed by the host. -/
theorem backed : table.Backed :=
  ⟨⟨sound.tracked, sound.apart⟩, sound.held⟩

/-- The host may change at a place where nothing is open. -/
theorem change
    {place : Place}
    {changed : Host}
    (change : Host.ChangedAt place table.store.host changed)
    (closed : place ∉ table.store.opened) :
    Sound { table with store := { table.store with host := changed } } :=
  (sound.backed.change change closed).sound (change.linkFree sound.linkFree) sound.rootProper

/-- A table stays sound when a file is made ready. -/
theorem ready
    {place : Place}
    {ready : Store}
    (readied : Store.Readied place table.store ready) :
    Sound { table with store := ready } := by
  rcases readied with rfl | ⟨nothing, rfl⟩
  · exact sound
  · apply sound.change (Store.changedAt_create nothing)
    intro opened
    obtain ⟨content, entry⟩ := sound.backed.entry?_of_opened opened
    rw [nothing] at entry
    cases entry

/-- The working directory has no part in it. -/
theorem move (workingDir : String) : Sound { table with workingDir := workingDir } :=
  ⟨sound.linkFree, sound.rootProper, sound.tracked, sound.apart, sound.held⟩

/-- An open file may change as long as it stays in its place. -/
theorem update
    {slot : Fin 3}
    {file changed : OpenFile}
    (here : table.slots[slot] = some file)
    (samePlace : changed.place = file.place)
    (held : changed.Held table.store.host) :
    (table.update slot changed).Sound :=
  (sound.backed.update here samePlace held).sound sound.linkFree sound.rootProper

/-- A file that the host has and that is not open may take a free slot. -/
theorem occupy
    {slot : Fin 3}
    {file : OpenFile}
    (free : table.slots[slot] = none)
    (closed : file.place ∉ table.store.opened)
    (held : file.Held table.store.host) :
    Sound {
      table with
      store := { table.store with opened := file.place :: table.store.opened }
      slots := table.slots.set slot (some file)
    } :=
  (sound.backed.occupy free closed held).sound sound.linkFree sound.rootProper

/-- A slot is given up once its file is in its place. -/
theorem release
    {slot : Fin 3}
    {file : OpenFile}
    {after : Store}
    (here : table.slots[slot] = some file)
    (sameRoot : after.root = table.store.root)
    (forgotten : after.opened = table.store.opened.filter (· ≠ file.place))
    (change : Host.ChangedAt file.place table.store.host after.host) :
    Sound { table with store := after, slots := table.slots.set slot none } :=
  (sound.backed.release here forgotten change).sound (change.linkFree sound.linkFree)
    (sameRoot ▸ sound.rootProper)

end Sound

/-- A table on a new store is sound. -/
theorem sound_of_ofDirectory
    {host : Host}
    {route : Route}
    {store : Store}
    (linkFree : host.LinkFree)
    (based : Store.ofDirectory host route = .ok store) :
    Sound { store := store } := by
  unfold Store.ofDirectory at based
  split at based
  · split at based
    · rename_i root spelled
      cases based
      have rootProper : Host.Proper root := by
        unfold Host.canonical at spelled
        split at spelled
        · cases spelled
        · obtain ⟨reached, walked, checked⟩ := bind_eq_ok_iff.mp spelled
          split at checked
          · cases checked
          · split at checked
            · cases checked
            · cases checked
              exact Host.proper_of_walk linkFree Host.proper_nil walked
      refine ⟨linkFree, rootProper, ?_, ?_, ?_⟩
      · intro place
        refine ⟨nofun, ?_⟩
        rintro ⟨slot, file, here, -⟩
        cases (HandleSlots.getElem_empty slot).symm.trans here
      · intro slot other file otherFile here
        cases (HandleSlots.getElem_empty slot).symm.trans here
      · intro slot file here
        cases (HandleSlots.getElem_empty slot).symm.trans here
    · cases based
  · cases based

end HandleTable

end Handheld
