import Handheld.Proofs.Files.Handles

namespace Handheld

/-!
# Failed calls

A call on the files can fail for many reasons, and most of them are found before
anything is done. Opening is the exception: a missing file is made first, and only
then comes the question whether the place is taken and whether the file can be
read. On a host without links neither can still go wrong by then. Where nothing
was, no file is open, and what was just made is read where it was made. So a call
that fails has changed nothing at all.
-/

namespace Host

/-- A way stays good as long as the directories along it stay. -/
theorem Leads.of_directories
    {host changed : Host}
    (kept :
      ∀ place, host.entry? place = some .directory → changed.entry? place = some .directory)
    {start : Place}
    {names : List String}
    (leads : host.Leads start names) :
    changed.Leads start names := by
  induction names generalizing start with
  | nil => trivial
  | cons name rest inductionHypothesis =>
      obtain ⟨notDot, notDots, short, directory, onward⟩ := leads
      exact ⟨notDot, notDots, short, fun more => kept _ (directory more),
        inductionHypothesis onward⟩

/-- A file that was just made is read where it was made. -/
theorem readFile_of_made
    {host : Host}
    {place : Place}
    (nothing : host.entry? place = none)
    (accepted : accept (.ofPlace place) = .ok ())
    (leads : host.Leads [] place) :
    (host.insert place (.file [])).readFile (.ofPlace place) = .ok [] := by
  have change := Store.changedAt_create nothing
  have notTop : place ≠ [] := by
    rintro rfl
    cases nothing
  have here : Host.entry? (host.insert place (.file [])) place = some (.file []) := by
    rw [entry?_insert host place (.file []) notTop, if_pos rfl]
  have kept :
      ∀ other,
        host.entry? other = some .directory →
        Host.entry? (host.insert place (.file [])) other = some .directory := by
    intro other directory
    rw [change.elsewhere other, directory]
    rintro rfl
    rw [nothing] at directory
    cases directory
  refine bind_eq_ok_iff.mpr
    ⟨place, follow_direct accepted (leads.of_directories kept) change.unlinked, ?_⟩
  rw [here]

end Host

namespace Store

/-- A directory that could not be made left nothing behind. -/
theorem eq_of_makeDirectory_error
    {store after : Store}
    {path : String}
    {error : FileError}
    (failed : store.makeDirectory path = (.error error, after)) :
    after = store := by
  unfold makeDirectory at failed
  split at failed
  · cases failed
    rfl
  · split at failed
    · cases failed
    · cases failed

/-- What could not be deleted is all still there. -/
theorem eq_of_delete_error
    {store after : Store}
    {path : String}
    {error : FileError}
    (failed : store.delete path = (.error error, after)) :
    after = store := by
  unfold delete at failed
  split at failed
  · cases failed
    rfl
  · split at failed
    · cases failed
    · dsimp only at failed
      split at failed
      · cases failed
      · cases failed

section Opening

variable
  {store : Store}
  (linkFree : store.host.LinkFree)
  (rootProper : Host.Proper store.root)

include linkFree rootProper

/-- A place is readied as it is, or by a new file that can be read. -/
theorem readFile_of_prepare
    {path : String}
    {access : Access}
    {place : Place}
    {ready : Store}
    (prepared : store.prepare path access = (.ok place, ready)) :
    ready = store ∨
      store.host.entry? place = none ∧ ready.host.readFile (.ofPlace place) = .ok [] := by
  rcases prepare_cases linkFree rootProper prepared with
    ⟨_, impossible, -⟩ | ⟨_, same, placed, readied⟩
  · cases impossible
  · cases same
    have proper := proper_of_place linkFree rootProper placed
    unfold prepare at prepared
    rw [placed] at prepared
    dsimp only at prepared
    split at prepared
    · cases written : store.host.writeFile (.ofPlace place) [] with
      | error error =>
          rw [written] at prepared
          cases prepared
      | ok host =>
          obtain ⟨followed, -, -⟩ := Host.writeFile_inv linkFree proper written
          obtain ⟨-, accepted, leads⟩ := Host.follow_eq linkFree proper followed
          rcases readied with rfl | ⟨nothing, rfl⟩
          · exact .inl rfl
          · exact .inr ⟨nothing, Host.readFile_of_made nothing accepted leads⟩
    · cases prepared
      exact .inl rfl

/-- Where the open files are there, a store that refuses to open one more is unchanged. -/
theorem eq_of_openFile_error
    (present : ∀ place ∈ store.opened, store.host.entry? place ≠ none)
    {path : String}
    {access : Access}
    {error : FileError}
    {after : Store}
    (failed : store.openFile path access = (.error error, after)) :
    after = store := by
  have sameOpened := store.opened_prepare path access
  unfold openFile at failed
  split at failed
  · cases failed
    rfl
  · split at failed
    · rename_i prepared preparing
      cases failed
      rcases prepare_cases linkFree rootProper preparing with ⟨_, -, same⟩ | ⟨_, impossible, -⟩
      · exact same
      · cases impossible
    · rename_i place prepared preparing
      rw [preparing] at sameOpened
      rcases readFile_of_prepare linkFree rootProper preparing with rfl | ⟨nothing, read⟩
      · split at failed
        · cases failed
          rfl
        · split at failed
          · cases failed
            rfl
          · cases failed
      · -- The file was made a moment ago, so it is neither open nor out of reach.
        have closed : place ∉ prepared.opened := by
          rw [sameOpened]
          exact fun opened => present place opened nothing
        rw [if_neg closed, read] at failed
        cases failed

end Opening

end Store

namespace HandleTable

variable {table : HandleTable}

/-- A file that could not be opened was not made either, nor was a slot taken. -/
theorem eq_of_openFile_error
    (sound : table.Sound)
    {path mode : String}
    {error : FileError}
    {after : HandleTable}
    (failed : table.openFile path mode = (.error error, after)) :
    after = table := by
  unfold openFile at failed
  split at failed
  · cases failed
    rfl
  · split at failed
    · cases failed
      rfl
    · split at failed
      · rename_i error store refused
        have present : ∀ place ∈ table.store.opened, table.store.host.entry? place ≠ none := by
          intro place opened
          obtain ⟨content, entry⟩ := sound.backed.entry?_of_opened opened
          rw [entry]
          exact nofun
        have same := Store.eq_of_openFile_error sound.linkFree sound.rootProper present refused
        cases failed
        rw [same]
      · cases failed

/-- A result that is reported as a failure leaves the table as it was. -/
theorem conclude_of_failed
    {answer : α → FileAnswer × HandleTable}
    {result : Except FileError α}
    {error : FileError}
    (answers : ∀ value, (answer value).1 ≠ .failed error)
    (failed : (table.conclude answer result).1 = .failed error) :
    (table.conclude answer result).2 = table := by
  cases result with
  | error => rfl
  | ok value => exact (answers value failed).elim

/-- A request that fails leaves the table as it was. -/
theorem serve_of_failed
    {handle : Word}
    {request : FileRequest}
    {error : FileError}
    (failed : (table.serve handle request).1 = .failed error) :
    (table.serve handle request).2 = table := by
  cases request with
  | read count => exact conclude_of_failed (by rintro _ ⟨⟩) failed
  | write bytes => exact conclude_of_failed (by rintro _ ⟨⟩) failed
  | seek offset => exact conclude_of_failed (by rintro _ ⟨⟩) failed
  | tell => exact conclude_of_failed (by rintro _ ⟨⟩) failed
  | size => exact conclude_of_failed (by rintro _ ⟨⟩) failed
  | atEnd => exact conclude_of_failed (by rintro _ ⟨⟩) failed

/-- A call other than closing a file changes nothing if it fails. -/
theorem perform_of_failed
    (sound : table.Sound)
    {call : FileCall}
    {error : FileError}
    (notClosing : ∀ handle, call ≠ .closeFile handle)
    (failed : (table.perform call).1 = .failed error) :
    (table.perform call).2 = table := by
  cases call with
  | openFile path mode =>
      rcases outcome : table.openFile path mode with ⟨result, after⟩
      rw [perform, outcome] at failed ⊢
      cases result with
      | error refused => exact eq_of_openFile_error sound outcome
      | ok handle => cases failed
  | closeFile handle => exact (notClosing handle rfl).elim
  | request handle request =>
      rw [perform] at failed ⊢
      exact serve_of_failed failed
  | makeDirectory path =>
      rcases outcome : table.store.makeDirectory (table.absolute path) with ⟨result, store⟩
      simp only [perform, makeDirectory, outcome] at failed ⊢
      cases result with
      | error refused => rw [Store.eq_of_makeDirectory_error outcome]
      | ok made => cases failed
  | delete path =>
      rcases outcome : table.store.delete (table.absolute path) with ⟨result, store⟩
      simp only [perform, delete, outcome] at failed ⊢
      cases result with
      | error refused => rw [Store.eq_of_delete_error outcome]
      | ok deleted => cases failed
  | changeDir path =>
      rw [perform] at failed ⊢
      exact conclude_of_failed (by rintro _ ⟨⟩) failed
  | reset => cases failed

/-- Every call keeps the table sound, those on no file among them. -/
theorem sound_act
    (sound : table.Sound)
    (call : TableCall) :
    (table.act call).Sound := by
  cases call with
  | file call => exact sound_perform sound call
  | closeAll => exact (closeSlots_spec sound _).1
  | list => exact sound
  | isDirectory path => exact sound

/-- A table stays sound through any calls. -/
theorem sound_actAll
    (sound : table.Sound)
    (calls : List TableCall) :
    (calls.foldl act table).Sound := by
  induction calls generalizing table with
  | nil => exact sound
  | cons call rest inductionHypothesis => exact inductionHypothesis (sound_act sound call)

/-- Whether a call gives an error. -/
def Refuses
    (table : HandleTable) :
    TableCall → Prop
  | .file call => ∃ error, (table.perform call).1 = .failed error
  | .list => ∃ error, table.list = .error error
  | .closeAll => False
  | .isDirectory _ => False

/--
A call that fails, other than closing a file, has done nothing.

Start on any host without links and make any calls. If the next call, whatever its
arguments, gives an error, then the working directory, the open files with their
content, cursors and marks, the places that the store remembers and the files of
the host are what they were. So no file is made or cut by opening it in vain.
-/
theorem failed_calls_change_nothing
    (host : Host)
    (route : Route)
    (store : Store)
    (linkFree : host.LinkFree)
    (based : Store.ofDirectory host route = .ok store)
    (history : List TableCall) :
    let table := history.foldl act { store := store }
    (∀ call,
      (∀ handle, call ≠ .file (.closeFile handle)) →
      table.Refuses call →
      table.act call = table) ∧
    (∀ path mode error after,
      table.openFile path mode = (.error error, after) →
      ∀ place, after.store.host.entry? place = table.store.host.entry? place) := by
  intro table
  have sound : table.Sound := sound_actAll (sound_of_ofDirectory linkFree based) history
  refine ⟨?_, ?_⟩
  · intro call notClosing refused
    cases call with
    | file call =>
        obtain ⟨error, failed⟩ := refused
        refine perform_of_failed sound ?_ failed
        rintro handle rfl
        exact notClosing handle rfl
    | closeAll => cases refused
    | list => rfl
    | isDirectory path => rfl
  · intro path mode error after failed place
    rw [eq_of_openFile_error sound failed]

theorem refuses_busyTable : busyTable.Refuses (.file (.openFile "/a" "w")) := by
  have placed : busyTable.store.place "/a" = .ok ["a"] :=
    (Store.place_eq_ok_iff linkFree_loneFile Host.proper_nil).mpr ⟨rfl, ["a"], by decide, rfl⟩
  have leads : loneFile.Leads [] ["a"] :=
    ⟨by decide, by decide, by decide, fun more => (more rfl).elim, trivial⟩
  have located : busyTable.store.host.locate (.ofPlace ["a"]) = .ok ["a"] :=
    bind_eq_ok_iff.mpr ⟨["a"], Host.follow_of_leads linkFree_loneFile rfl leads, rfl⟩
  have prepared : busyTable.store.prepare "/a" .toWrite = (.ok ["a"], busyTable.store) := by
    simp only [Store.prepare, placed, Host.pathExists, located]
    rfl
  have taken : ["a"] ∈ busyTable.store.opened := by decide
  have stored :
      busyTable.store.openFile "/a" .toWrite = (.error (.alreadyOpen "/a"), busyTable.store) := by
    rw [Store.openFile, if_neg (by decide), prepared]
    simp only [if_pos taken]
  have free : busyTable.freeSlot? = some 1 := by decide
  have mode : OpenMode.parse "w" = .ok { access := .toWrite, truncate := true } := rfl
  have absolute : busyTable.absolute "/a" = "/a" := rfl
  refine ⟨.alreadyOpen "/a", ?_⟩
  simp only [perform, openFile, free, mode, absolute, stored]
  rfl

/-- A file that is open already is not cut by an attempt to write it anew. -/
theorem open_file_kept_whole :
    let table := loneTable.act (.file (.openFile "/a" "r+"))
    table.Refuses (.file (.openFile "/a" "w")) ∧
      table.act (.file (.openFile "/a" "w")) = table ∧
      table.store.host.entry? ["a"] = some (.file [1, 2, 3]) := by
  intro table
  have busy : table = busyTable := by
    change (loneTable.openFile "/a" "r+").2 = busyTable
    rw [openFile_loneTable]
  have refused : table.Refuses (.file (.openFile "/a" "w")) := by
    rw [busy]
    exact refuses_busyTable
  obtain ⟨unchanged, -⟩ :=
    failed_calls_change_nothing loneFile _ _ linkFree_loneFile ofDirectory_loneFile
      [.file (.openFile "/a" "r+")]
  refine ⟨refused, unchanged _ (fun _ => nofun) refused, ?_⟩
  rw [busy]
  rfl

end HandleTable

end Handheld
