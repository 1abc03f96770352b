import Handheld.Proofs.Files.Handles
import Handheld.Proofs.Files.NormalPaths

namespace Handheld

/-!
# The working directory

A change of the working directory is a path put behind it and collapsed. So the
working directory is always in normal form, and changing it twice is changing it
once, along both paths with a slash between them. Only where there is nothing in
front of that slash does it begin a path at the root instead.
-/

namespace Store

/-- Making a file ready does not move the root. -/
theorem root_prepare
    (store : Store)
    (path : String)
    (access : Access) :
    (store.prepare path access).2.root = store.root := by
  unfold prepare
  split
  · rfl
  · split
    · split
      · rfl
      · rfl
    · rfl

/-- Opening a file does not move the root. -/
theorem root_openFile
    (store : Store)
    (path : String)
    (access : Access) :
    (store.openFile path access).2.root = store.root := by
  have kept := store.root_prepare path access
  unfold openFile
  split
  · rfl
  · split
    · rename_i prepared
      rwa [prepared] at kept
    · rename_i prepared
      rw [prepared] at kept
      split
      · exact kept
      · split
        · exact kept
        · exact kept

/-- Making a directory does not move the root. -/
theorem root_makeDirectory
    (store : Store)
    (path : String) :
    (store.makeDirectory path).2.root = store.root := by
  unfold makeDirectory
  split
  · rfl
  · split
    · rfl
    · rfl

/-- Deleting does not move the root. -/
theorem root_delete
    (store : Store)
    (path : String) :
    (store.delete path).2.root = store.root := by
  unfold delete
  split
  · rfl
  · split
    · rfl
    · dsimp only
      split
      · rfl
      · rfl

end Store

namespace HandleTable

/-- The root of the store and the working directory are as they were. -/
structure Stays (before after : HandleTable) : Prop where
  root : after.store.root = before.store.root
  workingDir : after.workingDir = before.workingDir

/-- Opening a file stays in the working directory. -/
theorem stays_openFile
    (table : HandleTable)
    (path mode : String) :
    table.Stays (table.openFile path mode).2 := by
  unfold openFile
  split
  · exact ⟨rfl, rfl⟩
  · split
    · exact ⟨rfl, rfl⟩
    · rename_i parsed _
      have kept := table.store.root_openFile (table.absolute path) parsed.access
      split
      · rename_i opened
        rw [opened] at kept
        exact ⟨kept, rfl⟩
      · rename_i opened
        rw [opened] at kept
        exact ⟨kept, rfl⟩

/-- Closing a file stays in the working directory. -/
theorem stays_closeFile
    (table : HandleTable)
    (handle : Word) :
    table.Stays (table.closeFile handle).2 := by
  unfold closeFile
  split
  · exact ⟨rfl, rfl⟩
  · exact ⟨table.store.root_closeFile _, rfl⟩

theorem stays_closeSlot
    (table : HandleTable)
    (slot : Fin 3) :
    table.Stays (table.closeSlot slot) := by
  unfold closeSlot
  split
  · exact ⟨table.store.root_closeFile _, rfl⟩
  · exact ⟨rfl, rfl⟩

/-- Closing all files stays in the working directory. -/
theorem stays_closeAll (table : HandleTable) : table.Stays table.closeAll := by
  unfold closeAll
  generalize List.finRange 3 = slots
  induction slots generalizing table with
  | nil => exact ⟨rfl, rfl⟩
  | cons slot rest inductionHypothesis =>
      have first := table.stays_closeSlot slot
      have later := inductionHypothesis (table.closeSlot slot)
      exact ⟨later.root.trans first.root, later.workingDir.trans first.workingDir⟩

/-- Requests stay in the working directory. -/
theorem stays_serve
    {table : HandleTable}
    (balanced : table.Balanced)
    (handle : Word)
    (request : FileRequest) :
    table.Stays (table.serve handle request).2 := by
  cases found : table.find handle with
  | error error =>
      rw [serve_of_closed found]
      exact ⟨rfl, rfl⟩
  | ok named =>
      obtain ⟨slot, file⟩ := named
      have here := (find_eq_ok_iff.mp found).2
      obtain ⟨changed, served, -, -⟩ :=
        serve_of_find found (balanced.cursors slot file here) request
      rw [served]
      exact ⟨rfl, rfl⟩

/-- A directory is changed to exactly when it is one of the store. -/
theorem changeDir_eq_ok_iff
    {table after : HandleTable}
    {path : String} :
    table.changeDir path = .ok after ↔
      table.store.isDirectory (Path.normalize (table.absolute path)) = true ∧
        after = { table with workingDir := Path.normalize (table.absolute path) } := by
  unfold changeDir
  dsimp only
  constructor
  · intro changed
    split at changed
    · rename_i directory
      exact ⟨directory, (Except.ok.inj changed).symm⟩
    · cases changed
  · rintro ⟨directory, rfl⟩
    rw [if_pos directory]

/-- The root is as it was, and the working directory too or else collapsed anew. -/
def Moves (before after : HandleTable) : Prop :=
  after.store.root = before.store.root ∧
    (after.workingDir = before.workingDir ∨
      ∃ path, after.workingDir = Path.normalize path)

/-- Staying in a normal directory is moving to one. -/
theorem Stays.moves
    {before after : HandleTable}
    (stays : before.Stays after) :
    before.Moves after :=
  ⟨stays.root, .inl stays.workingDir⟩

/-- Changing the directory moves to a normal path or stays. -/
theorem moves_changeDir
    (table : HandleTable)
    (path : String) :
    table.Moves (table.perform (.changeDir path)).2 := by
  rw [perform]
  cases changed : table.changeDir path with
  | error error => exact ⟨rfl, .inl rfl⟩
  | ok after =>
      obtain ⟨-, rfl⟩ := changeDir_eq_ok_iff.mp changed
      exact ⟨rfl, .inr ⟨_, rfl⟩⟩

/-- What any call and any change of the host leaves of the root and the working directory. -/
theorem moves_meet
    {table : HandleTable}
    (balanced : table.Balanced)
    (event : TableEvent) :
    table.Moves (table.meet event) := by
  match event with
  | .host host => exact ⟨rfl, .inl rfl⟩
  | .call .closeAll => exact table.stays_closeAll.moves
  | .call .list => exact ⟨rfl, .inl rfl⟩
  | .call (.isDirectory path) => exact ⟨rfl, .inl rfl⟩
  | .call (.file (.openFile path mode)) => exact (table.stays_openFile path mode).moves
  | .call (.file (.closeFile handle)) => exact (table.stays_closeFile handle).moves
  | .call (.file (.request handle request)) => exact (stays_serve balanced handle request).moves
  | .call (.file (.makeDirectory path)) =>
      exact ⟨table.store.root_makeDirectory (table.absolute path), .inl rfl⟩
  | .call (.file (.delete path)) =>
      exact ⟨table.store.root_delete (table.absolute path), .inl rfl⟩
  | .call (.file (.changeDir path)) => exact table.moves_changeDir path
  | .call (.file .reset) =>
      exact ⟨table.stays_closeAll.root, .inr ⟨"/", Path.normalize_root.symm⟩⟩

/-- Whatever happens, the root stays and the working directory is a path in normal form. -/
theorem normal_meetAll
    {table : HandleTable}
    (balanced : table.Balanced)
    (normal : ∃ path, table.workingDir = Path.normalize path)
    (events : List TableEvent) :
    (events.foldl meet table).store.root = table.store.root ∧
      ∃ path, (events.foldl meet table).workingDir = Path.normalize path := by
  induction events generalizing table with
  | nil => exact ⟨rfl, normal⟩
  | cons event rest inductionHypothesis =>
      obtain ⟨sameRoot, moved⟩ := moves_meet balanced event
      have normalLater : ∃ path, (table.meet event).workingDir = Path.normalize path := by
        rcases moved with same | changed
        · rw [same]
          exact normal
        · exact changed
      obtain ⟨root, later⟩ := inductionHypothesis (balanced.meet event) normalLater
      exact ⟨root.trans sameRoot, later⟩

/-- Whatever happens to a new table, its working directory is normal. -/
theorem normal_meetAll_new
    (host : Host)
    (root : Place)
    (events : List TableEvent) :
    let table := events.foldl meet { store := { host := host, root := root } }
    table.store.root = root ∧ ∃ path, table.workingDir = Path.normalize path :=
  normal_meetAll (.empty host root) ⟨"/", Path.normalize_root.symm⟩ events

/-- What is put behind a path and a slash starts where the path does, if there is a path. -/
theorem absolute_slash
    (table : HandleTable)
    {path : String}
    (further : String)
    (nonempty : path ≠ "") :
    table.absolute (path ++ "/" ++ further) = table.absolute path ++ "/" ++ further := by
  have sameStart : Path.isAbsolute (path ++ "/" ++ further) = Path.isAbsolute path := by
    obtain ⟨first, others, characters⟩ :=
      List.exists_cons_of_ne_nil (mt String.toList_eq_nil_iff.mp nonempty)
    simp [Path.isAbsolute, characters]
  unfold absolute
  rw [sameStart]
  split
  · rfl
  · simp only [String.append_assoc]

/-- Changing the directory twice leads where changing it once does, along both paths. -/
theorem changeDir_slash
    {table middle after : HandleTable}
    {path further : String}
    (relative : Path.isAbsolute further = false)
    (started : path ≠ "" ∨ table.workingDir = "/")
    (changed : table.changeDir path = .ok middle)
    (changedAgain : middle.changeDir further = .ok after) :
    table.changeDir (path ++ "/" ++ further) = .ok after := by
  obtain ⟨-, rfl⟩ := changeDir_eq_ok_iff.mp changed
  obtain ⟨directory, rfl⟩ := changeDir_eq_ok_iff.mp changedAgain
  have behind :
      absolute { table with workingDir := Path.normalize (table.absolute path) } further =
        Path.normalize (table.absolute path) ++ further :=
    if_neg (by rw [relative]; exact Bool.false_ne_true)
  have together :
      Path.normalize (table.absolute path ++ "/" ++ further) =
        Path.normalize (table.absolute (path ++ "/" ++ further)) := by
    by_cases empty : path = ""
    · -- At the root, the slash that begins the second path stands for the same place.
      subst empty
      have atRoot : table.workingDir = "/" := started.resolve_left (fun some => some rfl)
      have here : table.absolute "" = "/" := by
        rw [absolute, if_neg (by decide), atRoot, String.append_empty]
      have fromRoot : table.absolute ("" ++ "/" ++ further) = "/" ++ further := by
        rw [String.empty_append, absolute, if_pos (by simp [Path.isAbsolute])]
      rw [here, fromRoot, ← Path.normalize_normalize_append, Path.normalize_root]
    · rw [table.absolute_slash further empty]
  rw [behind, Path.normalize_normalize_append, together] at directory ⊢
  exact changeDir_eq_ok_iff.mpr ⟨directory, rfl⟩

/--
Collapsed paths are in normal form, and collapsing agrees with putting paths together.

A collapsed path starts and ends with a slash, and all its segments between the first
and the last are ordinary names. Collapsing it again changes nothing, and what is put
behind it is collapsed as if it stood behind the path itself and a slash. So whatever
is done, the working directory is in normal form, and changing to a path and then to a
relative one leads where changing to both with a slash between them does; but where the
first path is empty, this holds in the root only.
-/
theorem paths_collapse_in_steps :
    (∀ path,
      Path.isAbsolute (Path.normalize path) = true ∧
        Path.endsInSlash (Path.normalize path) = true ∧
        ∃ names,
          Path.segments (Path.normalize path) = "" :: (names ++ [""]) ∧
            ∀ name ∈ names, Path.Ordinary name) ∧
    (∀ path, Path.normalize (Path.normalize path) = Path.normalize path) ∧
    (∀ path further,
      Path.normalize (Path.normalize path ++ further) =
        Path.normalize (path ++ "/" ++ further)) ∧
    (∀ (host : Host) (root : Place) (events : List TableEvent),
      let table := events.foldl meet { store := { host := host, root := root } }
      ∃ path, table.workingDir = Path.normalize path) ∧
    ∀ (table middle after : HandleTable) (path further : String),
      Path.isAbsolute further = false →
      path ≠ "" ∨ table.workingDir = "/" →
      table.changeDir path = .ok middle →
      middle.changeDir further = .ok after →
      table.changeDir (path ++ "/" ++ further) = .ok after := by
  refine ⟨?_, Path.normalize_normalize, Path.normalize_normalize_append, ?_, ?_⟩
  · intro path
    exact ⟨Path.isAbsolute_normalize path, Path.endsInSlash_normalize path, Path.collapse path,
      Path.segments_normalize path, Path.ordinary_collapse path⟩
  · intro host root events
    exact (normal_meetAll_new host root events).2
  · intro table middle after path further relative started changed changedAgain
    exact changeDir_slash relative started changed changedAgain

/-- A host with a directory inside another, and one of the same name beside that. -/
def gamesHost : Host where
  entries := [(["games"], .directory), (["games", "x"], .directory), (["x"], .directory)]

/-- A table in the root of that host, and in one of its directories. -/
def gamesTable (workingDir : String) : HandleTable where
  store := { host := gamesHost, root := [] }
  workingDir := workingDir

theorem linkFree_gamesHost : gamesHost.LinkFree := by
  intro place target
  rw [Host.entry?]
  split
  · rintro ⟨⟩
  · simp only [gamesHost, List.lookup_cons, List.lookup_nil]
    repeat' split
    all_goals rintro ⟨⟩

/-- Directories of that host can be entered by any path that leads there. -/
theorem changeDir_gamesTable
    {workingDir path : String}
    {names : List String}
    (leads : gamesHost.Leads [] names)
    (accepted : Host.accept (.ofPlace names) = .ok ())
    (directory : gamesHost.entry? names = some .directory)
    (descended :
      Path.descend? (Path.normalize ((gamesTable workingDir).absolute path)) = some names) :
    (gamesTable workingDir).changeDir path =
      .ok (gamesTable (Path.normalize ((gamesTable workingDir).absolute path))) := by
  have placed :
      (gamesTable workingDir).store.place
          (Path.normalize ((gamesTable workingDir).absolute path)) =
        .ok names :=
    (Store.place_eq_ok_iff linkFree_gamesHost Host.proper_nil).mpr
      ⟨Path.isAbsolute_normalize _, names, descended, rfl⟩
  have located : gamesHost.locate (.ofPlace names) = .ok names :=
    bind_eq_ok_iff.mpr
      ⟨names, Host.follow_of_leads linkFree_gamesHost accepted leads, by rw [directory]; rfl⟩
  refine changeDir_eq_ok_iff.mpr ⟨?_, rfl⟩
  unfold Store.isDirectory
  rw [placed]
  change gamesHost.isDirectory (.ofPlace names) = true
  rw [Host.isDirectory, located]
  exact decide_eq_true directory

theorem leads_gamesHost : gamesHost.Leads [] ["games", "x"] :=
  ⟨by decide, by decide, by decide, fun _ => rfl,
    by decide, by decide, by decide, fun more => (more rfl).elim, trivial⟩

theorem enter_games : (gamesTable "/").changeDir "games" = .ok (gamesTable "/games/") := by
  have leads : gamesHost.Leads [] ["games"] :=
    ⟨by decide, by decide, by decide, fun more => (more rfl).elim, trivial⟩
  exact changeDir_gamesTable leads rfl rfl (by decide)

theorem enter_inner : (gamesTable "/games/").changeDir "x" = .ok (gamesTable "/games/x/") :=
  changeDir_gamesTable leads_gamesHost rfl rfl (by decide)

/-- Two changes of the directory are made in one. -/
theorem both_entered_at_once :
    (gamesTable "/").changeDir "games/x" = .ok (gamesTable "/games/x/") := by
  obtain ⟨-, -, -, -, inOne⟩ := paths_collapse_in_steps
  exact inOne (gamesTable "/") (gamesTable "/games/") (gamesTable "/games/x/") "games" "x"
    (by decide) (.inl (by decide)) enter_games enter_inner

/-- Outside the root, nothing, a slash and a path do not lead where nothing and the path do. -/
theorem slash_after_nothing_leads_elsewhere :
    (gamesTable "/").changeDir "games" = .ok (gamesTable "/games/") ∧
      (gamesTable "/games/").changeDir "" = .ok (gamesTable "/games/") ∧
      (gamesTable "/games/").changeDir "x" = .ok (gamesTable "/games/x/") ∧
      Path.isAbsolute "x" = false ∧
      (gamesTable "/games/").changeDir ("" ++ "/" ++ "x") = .ok (gamesTable "/x/") ∧
      (gamesTable "/games/x/").workingDir ≠ (gamesTable "/x/").workingDir := by
  have leads : gamesHost.Leads [] ["games"] :=
    ⟨by decide, by decide, by decide, fun more => (more rfl).elim, trivial⟩
  have leadsBeside : gamesHost.Leads [] ["x"] :=
    ⟨by decide, by decide, by decide, fun more => (more rfl).elim, trivial⟩
  exact ⟨enter_games, changeDir_gamesTable leads rfl rfl (by decide), enter_inner, by decide,
    changeDir_gamesTable leadsBeside rfl rfl (by decide), by decide⟩

end HandleTable

end Handheld
