import Handheld.Proofs.Files.Links
import Handheld.Proofs.Files.OpenFiles

namespace Handheld

/-!
# Where paths of a store lead

The place of a path is spelled out anew where that works, and is then inside the
root, there, and no link. Where it does not work the place is taken from the
names of the path, and links on the way are followed by the host alone. This
module says what every operation on a path does to the host in either case.
-/

namespace Store

/-- A place inside the root that is there, straight ahead, and no link. -/
structure Settled
    (store : Store)
    (place : Place) :
    Prop where
  inside : store.root <+: place
  leads : store.host.Leads [] place
  present : ∃ entry, store.host.entry? place = some entry ∧ ∀ target, entry ≠ .link target

/-- A path whose names lead down from the root to what the host spells out as a place. -/
structure Spelled
    (store : Store)
    (path : String)
    (place : Place) :
    Prop where
  absolute : Path.isAbsolute path = true
  descended :
    ∃ names,
      Path.descend? path = some names ∧
        store.host.canonical (.ofPlace (store.root ++ names)) = .ok place

/-- A path that leads down from the root along names which cannot be spelled out. -/
structure Unspelled
    (store : Store)
    (path : String)
    (native : Place) :
    Prop where
  absolute : Path.isAbsolute path = true
  descended : ∃ names, Path.descend? path = some names ∧ native = store.root ++ names
  unspelled : ∀ found, store.host.canonical (.ofPlace native) ≠ .ok found

/-- The place that the host finds for a path which cannot be spelled out. -/
def Reaches
    (store : Store)
    (path : String)
    (followLast : Bool)
    (place : Place) :
    Prop :=
  ∃ native,
    store.Unspelled path native ∧
      Host.accept (.ofPlace native) = .ok () ∧
      store.host.walk followLast Host.linkLimit [] native = .ok place

variable
  {store : Store}
  {path : String}
  {place native : Place}

/-- At a settled place lies no link. -/
theorem Settled.unlinked
    (settled : store.Settled place)
    (target : LinkTarget) :
    store.host.entry? place ≠ some (.link target) := by
  obtain ⟨entry, here, notLink⟩ := settled.present
  rw [here]
  intro linked
  exact notLink target (Option.some.inj linked)

/-- A settled place is reached straight ahead. -/
theorem Settled.walk
    (settled : store.Settled place)
    (followLast : Bool) :
    store.host.walk followLast Host.linkLimit [] place = .ok place :=
  Host.walk_direct Host.linkLimit settled.leads fun _ => settled.unlinked

/-- A place that is found by its own names. -/
theorem locate_direct
    {host : Host}
    (accepted : Host.accept (.ofPlace place) = .ok ())
    (leads : host.Leads [] place)
    (present : ∃ entry, host.entry? place = some entry ∧ ∀ target, entry ≠ .link target) :
    host.locate (.ofPlace place) = .ok place := by
  obtain ⟨entry, here, notLink⟩ := present
  have unlinked : ∀ target, host.entry? place ≠ some (.link target) := by
    intro target linked
    rw [here] at linked
    exact notLink target (Option.some.inj linked)
  refine bind_eq_ok_iff.mpr ⟨place, Host.follow_direct accepted leads unlinked, ?_⟩
  rw [here]
  rfl

/-- A settled place whose name is accepted is found where it is. -/
theorem Settled.locate
    (settled : store.Settled place)
    (accepted : Host.accept (.ofPlace place) = .ok ()) :
    store.host.locate (.ofPlace place) = .ok place :=
  locate_direct accepted settled.leads settled.present

/-- Where a settled place is found at all, it is found where it is. -/
theorem Settled.eq_of_follow
    {found : Place}
    (settled : store.Settled place)
    (followed : store.host.follow (.ofPlace place) = .ok found) :
    found = place := by
  obtain ⟨_, -, walked⟩ := bind_eq_ok_iff.mp followed
  exact Except.ok.inj (walked.symm.trans (settled.walk true))

/-- A path that cannot be spelled out is taken as it is. -/
theorem place_of_unspelled (unspelled : store.Unspelled path native) :
    store.place path = .ok native := by
  obtain ⟨names, descended, rfl⟩ := unspelled.descended
  unfold Store.place
  rw [if_pos unspelled.absolute, descended]
  dsimp only
  split
  · rename_i found spelled
    exact (unspelled.unspelled found spelled).elim
  · rfl

/-- A path cannot both be spelled out and not. -/
theorem Spelled.not_unspelled
    (spelled : store.Spelled path place)
    (native : Place) :
    ¬ store.Unspelled path native := by
  rintro ⟨-, ⟨names, descended, rfl⟩, unspelled⟩
  obtain ⟨otherNames, otherDescended, canonical⟩ := spelled.descended
  obtain rfl : names = otherNames := Option.some.inj (descended.symm.trans otherDescended)
  exact unspelled place canonical

/-- A path is either spelled out to a settled place or taken as it is. -/
theorem place_cases (placed : store.place path = .ok place) :
    store.Settled place ∧ store.Spelled path place ∨ store.Unspelled path place := by
  unfold Store.place at placed
  split at placed
  · rename_i absolute
    split at placed
    · cases placed
    · rename_i names descended
      split at placed
      · rename_i found spelled
        split at placed
        · rename_i inside
          cases placed
          obtain ⟨leads, present⟩ := Host.leads_of_canonical spelled
          exact .inl ⟨⟨List.isPrefixOf_iff_prefix.mp inside, leads, present⟩,
            absolute, names, descended, spelled⟩
        · cases placed
      · rename_i error refused
        cases placed
        refine .inr ⟨absolute, ⟨names, descended, rfl⟩, ?_⟩
        intro found spelled
        cases refused.symm.trans spelled
  · cases placed

/-- What cannot be spelled out is not there. -/
theorem Unspelled.missing
    (unspelled : store.Unspelled path native)
    (spells : store.host.Spells)
    (found : Place) :
    store.host.locate (.ofPlace native) ≠ .ok found :=
  fun located => unspelled.unspelled found (spells _ found located)

/-- If the host finds its way along such a path, nothing is at the end. -/
theorem Unspelled.entry?_of_follow
    (unspelled : store.Unspelled path native)
    (spells : store.host.Spells)
    (followed : store.host.follow (.ofPlace native) = .ok place) :
    store.host.entry? place = none := by
  cases here : store.host.entry? place with
  | none => rfl
  | some entry =>
      refine (unspelled.missing spells place (bind_eq_ok_iff.mpr ⟨place, followed, ?_⟩)).elim
      rw [here]
      rfl

/-- A path is taken as it is in one way only. -/
theorem Reaches.of_unspelled
    {followLast : Bool}
    (reaches : store.Reaches path followLast place)
    (unspelled : store.Unspelled path native) :
    Host.accept (.ofPlace native) = .ok () ∧
      store.host.walk followLast Host.linkLimit [] native = .ok place := by
  obtain ⟨other, otherUnspelled, accepted, walked⟩ := reaches
  have same := (place_of_unspelled otherUnspelled).symm.trans (place_of_unspelled unspelled)
  cases same
  exact ⟨accepted, walked⟩

/-- There is only one such place for a path. -/
theorem Reaches.unique
    {followLast : Bool}
    {other : Place}
    (reaches : store.Reaches path followLast place)
    (otherReaches : store.Reaches path followLast other) :
    other = place := by
  obtain ⟨native, unspelled, -, walked⟩ := reaches
  exact Except.ok.inj ((otherReaches.of_unspelled unspelled).2.symm.trans walked)

/-- A path that is refused reaches nothing. -/
theorem not_reaches_of_error
    {followLast : Bool}
    {error : FileError}
    (refused : store.place path = .error error) :
    ¬ store.Reaches path followLast place := by
  rintro ⟨native, unspelled, -⟩
  cases refused.symm.trans (place_of_unspelled unspelled)

/-- Nothing is reached by a path that is spelled out: its place is known. -/
theorem Spelled.not_reaches
    {followLast : Bool}
    {found : Place}
    (spelled : store.Spelled path place) :
    ¬ store.Reaches path followLast found := by
  rintro ⟨native, unspelled, -⟩
  exact spelled.not_unspelled native unspelled

/-- What cannot be spelled out does not exist. -/
theorem Unspelled.pathExists_eq_false
    (unspelled : store.Unspelled path native)
    (spells : store.host.Spells) :
    store.host.pathExists (.ofPlace native) = false := by
  unfold Host.pathExists
  cases located : store.host.locate (.ofPlace native) with
  | error error => rfl
  | ok found => exact (unspelled.missing spells found located).elim

/-- What cannot be spelled out is no directory. -/
theorem Unspelled.isDirectory_eq_false
    (unspelled : store.Unspelled path native)
    (spells : store.host.Spells) :
    store.host.isDirectory (.ofPlace native) = false := by
  unfold Host.isDirectory
  cases located : store.host.locate (.ofPlace native) with
  | error error => rfl
  | ok found => exact (unspelled.missing spells found located).elim

/-- At a settled place no file is made. -/
theorem prepare_of_settled
    (placed : store.place path = .ok place)
    (settled : store.Settled place)
    (access : Access) :
    (store.prepare path access).2 = store := by
  unfold prepare
  rw [placed]
  dsimp only
  split
  · rename_i missing
    cases accepted : Host.accept (.ofPlace place) with
    | error error => simp [Host.writeFile, Host.follow, accepted, bind, Except.bind]
    | ok =>
        simp [Host.pathExists, settled.locate accepted, Except.isOk, Except.toBool] at missing
  · rfl

/-- Where a path cannot be spelled out, a file is made if the host finds its way. -/
theorem prepare_of_unspelled
    (spells : store.host.Spells)
    (unspelled : store.Unspelled path native)
    {access : Access}
    (creates : access.creates = true) :
    (∃ place,
      store.Reaches path true place ∧
        store.host.entry? place = none ∧
        (store.prepare path access).2 =
          { store with host := store.host.insert place (.file []) }) ∨
      (∀ place, ¬ store.Reaches path true place) ∧
        (store.prepare path access).2 = store := by
  unfold prepare
  rw [place_of_unspelled unspelled]
  dsimp only
  rw [if_pos (by rw [creates, unspelled.pathExists_eq_false spells]; rfl)]
  cases followed : store.host.follow (.ofPlace native) with
  | error error =>
      refine .inr ⟨?_, ?_⟩
      · intro place reaches
        obtain ⟨accepted, walked⟩ := reaches.of_unspelled unspelled
        cases followed.symm.trans (bind_eq_ok_iff.mpr ⟨(), accepted, walked⟩)
      · simp [Host.writeFile, followed, bind, Except.bind]
  | ok place =>
      have nothing := unspelled.entry?_of_follow spells followed
      obtain ⟨_, accepted, walked⟩ := bind_eq_ok_iff.mp followed
      refine .inl ⟨place, ⟨native, unspelled, accepted, walked⟩, nothing, ?_⟩
      simp [Host.writeFile, followed, nothing, bind, Except.bind]

/-- A file that may not be made is not made. -/
theorem prepare_of_not_creates
    {access : Access}
    (keeps : ¬ access.creates = true)
    (path : String) :
    (store.prepare path access).2 = store := by
  unfold prepare
  split
  · rfl
  · rw [if_neg (by simp [keeps])]

/-- A file is made where a path leads that cannot be spelled out, and nothing is done otherwise. -/
theorem prepare_host
    (spells : store.host.Spells)
    (path : String)
    (access : Access) :
    (∃ place,
      access.creates = true ∧
        store.Reaches path true place ∧
        store.host.entry? place = none ∧
        (store.prepare path access).2 =
          { store with host := store.host.insert place (.file []) }) ∨
      (access.creates = true → ∀ place, ¬ store.Reaches path true place) ∧
        (store.prepare path access).2 = store := by
  by_cases creates : access.creates = true
  · cases placed : store.place path with
    | error error =>
        refine .inr ⟨fun _ _ => not_reaches_of_error placed, ?_⟩
        rw [prepare, placed]
    | ok native =>
        rcases place_cases placed with ⟨settled, spelled⟩ | unspelled
        · exact .inr ⟨fun _ _ => spelled.not_reaches, prepare_of_settled placed settled access⟩
        · rcases prepare_of_unspelled spells unspelled creates with ⟨place, made⟩ | ⟨lost, same⟩
          · exact .inl ⟨place, creates, made⟩
          · exact .inr ⟨fun _ => lost, same⟩
  · exact .inr ⟨fun needed => (creates needed).elim, prepare_of_not_creates creates path⟩

/-- At a settled place no directory is made: something is there. -/
theorem makeDirectory_of_settled
    (placed : store.place path = .ok place)
    (settled : store.Settled place) :
    (store.makeDirectory path).2 = store := by
  obtain ⟨entry, here, -⟩ := settled.present
  have walked :
      store.host.walk false Host.linkLimit [] (Route.ofPlace place).names = .ok place :=
    settled.walk false
  unfold Store.makeDirectory
  rw [placed]
  dsimp only
  cases accepted : Host.accept (.ofPlace place) with
  | error error => simp [Host.makeDirectory, accepted, bind, Except.bind]
  | ok =>
      simp [Host.makeDirectory, Host.makeDirectoryAt, accepted, walked, here, bind, Except.bind]

/-- Where a path cannot be spelled out, a directory is made if the way there ends at nothing. -/
theorem makeDirectory_of_unspelled (unspelled : store.Unspelled path native) :
    (∃ place,
      store.Reaches path false place ∧
        store.host.entry? place = none ∧
        (store.makeDirectory path).2 =
          { store with host := store.host.insert place .directory }) ∨
      (∀ place, store.Reaches path false place → store.host.entry? place ≠ none) ∧
        (store.makeDirectory path).2 = store := by
  have names : (Route.ofPlace native).names = native := rfl
  unfold Store.makeDirectory
  rw [place_of_unspelled unspelled]
  dsimp only
  cases accepted : Host.accept (.ofPlace native) with
  | error error =>
      refine .inr ⟨fun place reaches => ?_, ?_⟩
      · cases accepted.symm.trans (reaches.of_unspelled unspelled).1
      · simp [Host.makeDirectory, accepted, bind, Except.bind]
  | ok =>
      cases walked : store.host.walk false Host.linkLimit [] native with
      | error error =>
          refine .inr ⟨fun place reaches => ?_, ?_⟩
          · cases walked.symm.trans (reaches.of_unspelled unspelled).2
          · simp [Host.makeDirectory, Host.makeDirectoryAt, names, accepted, walked, bind,
              Except.bind]
      | ok place =>
          cases here : store.host.entry? place with
          | none =>
              refine .inl ⟨place, ⟨native, unspelled, accepted, walked⟩, here, ?_⟩
              simp [Host.makeDirectory, Host.makeDirectoryAt, names, accepted, walked, here,
                bind, Except.bind]
          | some entry =>
              refine .inr ⟨fun other reaches => ?_, ?_⟩
              · cases walked.symm.trans (reaches.of_unspelled unspelled).2
                rw [here]
                exact nofun
              · simp [Host.makeDirectory, Host.makeDirectoryAt, names, accepted, walked, here,
                  bind, Except.bind]

/-- A directory is made where a path leads that cannot be spelled out. -/
theorem makeDirectory_host
    (store : Store)
    (path : String) :
    (∃ place,
      store.Reaches path false place ∧
        store.host.entry? place = none ∧
        (store.makeDirectory path).2 =
          { store with host := store.host.insert place .directory }) ∨
      (∀ place, store.Reaches path false place → store.host.entry? place ≠ none) ∧
        (store.makeDirectory path).2 = store := by
  cases placed : store.place path with
  | error error =>
      refine .inr ⟨fun _ reaches => (not_reaches_of_error placed reaches).elim, ?_⟩
      rw [Store.makeDirectory, placed]
  | ok native =>
      rcases place_cases placed with ⟨settled, spelled⟩ | unspelled
      · exact .inr ⟨fun _ reaches => (spelled.not_reaches reaches).elim,
          makeDirectory_of_settled placed settled⟩
      · exact makeDirectory_of_unspelled unspelled

/-- A settled place is removed if it is not open and no directory that holds something. -/
theorem delete_of_settled
    (placed : store.place path = .ok place)
    (settled : store.Settled place) :
    (store.delete path).2 = store ∨
      place ∉ store.opened ∧
        (store.host.entry? place = some .directory →
          ∀ name, store.host.entry? (place ++ [name]) = none) ∧
        (store.delete path).2 = { store with host := store.host.erase place } := by
  have names : (Route.ofPlace place).names = place := rfl
  have steps : (Route.ofPlace place).steps = place := rfl
  have walked := settled.walk false
  unfold Store.delete
  rw [placed]
  dsimp only
  by_cases opened : place ∈ store.opened
  · exact .inl (by rw [if_pos opened])
  · rw [if_neg opened]
    cases accepted : Host.accept (.ofPlace place) with
    | error error =>
        left
        by_cases directory : store.host.isDirectory (.ofPlace place) = true
        · simp [directory, Host.removeDirectory, accepted, bind, Except.bind]
        · simp [directory, Host.removeFile, accepted, bind, Except.bind]
    | ok =>
        obtain ⟨entry, here, notLink⟩ := settled.present
        cases entry with
        | link target => exact (notLink target rfl).elim
        | file content =>
            refine .inr ⟨opened, ?_, ?_⟩
            · rw [here]
              exact nofun
            · simp [Host.isDirectory, settled.locate accepted, here, Host.removeFile, accepted,
                steps, walked, bind, Except.bind]
        | directory =>
            by_cases empty : store.host.children place = []
            · refine .inr ⟨opened, fun _ => Host.entry?_of_children_eq_nil empty, ?_⟩
              simp [Host.isDirectory, settled.locate accepted, here, Host.removeDirectory,
                accepted, names, walked, empty, bind, Except.bind]
            · left
              simp [Host.isDirectory, settled.locate accepted, here, Host.removeDirectory,
                accepted, names, walked, empty, bind, Except.bind]

/-- Where a path cannot be spelled out, all that can be removed is a link that leads nowhere. -/
theorem delete_of_unspelled
    (spells : store.host.Spells)
    (unspelled : store.Unspelled path native)
    (closed : native ∉ store.opened) :
    (∃ place target,
      store.Reaches path false place ∧
        store.host.entry? place = some (.link target) ∧
        (store.delete path).2 = { store with host := store.host.erase place }) ∨
      (∀ place target,
        store.Reaches path false place → store.host.entry? place ≠ some (.link target)) ∧
        (store.delete path).2 = store := by
  have steps : (Route.ofPlace native).steps = native := rfl
  have notDirectory := ne_true_of_eq_false (unspelled.isDirectory_eq_false spells)
  unfold Store.delete
  rw [place_of_unspelled unspelled]
  dsimp only
  rw [if_neg closed, if_neg notDirectory]
  cases accepted : Host.accept (.ofPlace native) with
  | error error =>
      refine .inr ⟨fun place target reaches => ?_, ?_⟩
      · cases accepted.symm.trans (reaches.of_unspelled unspelled).1
      · simp [Host.removeFile, accepted, bind, Except.bind]
  | ok =>
      cases walked : store.host.walk false Host.linkLimit [] native with
      | error error =>
          refine .inr ⟨fun place target reaches => ?_, ?_⟩
          · cases walked.symm.trans (reaches.of_unspelled unspelled).2
          · simp [Host.removeFile, steps, accepted, walked, bind, Except.bind]
      | ok place =>
          by_cases linked : ∃ target, store.host.entry? place = some (.link target)
          · obtain ⟨target, here⟩ := linked
            refine .inl ⟨place, target, ⟨native, unspelled, accepted, walked⟩, here, ?_⟩
            simp [Host.removeFile, steps, accepted, walked, here, bind, Except.bind]
          · -- Were it anything but a link, following it would lead to the same place.
            have followed : store.host.follow (.ofPlace native) = .ok place :=
              bind_eq_ok_iff.mpr ⟨(), accepted,
                Host.walk_follow_of_arrival walked fun target here => linked ⟨target, here⟩⟩
            have nothing := unspelled.entry?_of_follow spells followed
            refine .inr ⟨fun other target reaches => ?_, ?_⟩
            · cases walked.symm.trans (reaches.of_unspelled unspelled).2
              rw [nothing]
              exact nofun
            · simp [Host.removeFile, steps, accepted, walked, nothing, bind, Except.bind]

/--
A link is removed where a path leads that cannot be spelled out. Otherwise it is
a settled place that is not open, and no directory that holds something.
-/
theorem delete_host
    (spells : store.host.Spells)
    (present : ∀ place ∈ store.opened, ∃ found, store.host.locate (.ofPlace place) = .ok found)
    (path : String) :
    (∃ place target,
      store.Reaches path false place ∧
        store.host.entry? place = some (.link target) ∧
        (store.delete path).2 = { store with host := store.host.erase place }) ∨
      (∀ place target,
        store.Reaches path false place → store.host.entry? place ≠ some (.link target)) ∧
        ((store.delete path).2 = store ∨
          ∃ place,
            store.Settled place ∧
              place ∉ store.opened ∧
              (store.host.entry? place = some .directory →
                ∀ name, store.host.entry? (place ++ [name]) = none) ∧
              (store.delete path).2 = { store with host := store.host.erase place }) := by
  cases placed : store.place path with
  | error error =>
      refine .inr ⟨fun _ _ reaches => (not_reaches_of_error placed reaches).elim, .inl ?_⟩
      rw [Store.delete, placed]
  | ok native =>
      rcases place_cases placed with ⟨settled, spelled⟩ | unspelled
      · refine .inr ⟨fun _ _ reaches => (spelled.not_reaches reaches).elim, ?_⟩
        rcases delete_of_settled placed settled with same | removed
        · exact .inl same
        · exact .inr ⟨native, settled, removed⟩
      · have closed : native ∉ store.opened := by
          intro opened
          obtain ⟨found, located⟩ := present native opened
          exact unspelled.missing spells found located
        rcases delete_of_unspelled spells unspelled closed with removed | ⟨unlinked, same⟩
        · exact .inl removed
        · exact .inr ⟨unlinked, .inl same⟩

/-- What is found at the place of a path is found at a settled place. -/
theorem settled_of_locate
    (spells : store.host.Spells)
    (placed : store.place path = .ok native)
    (located : store.host.locate (.ofPlace native) = .ok place) :
    store.Settled native ∧ store.Spelled path native ∧ place = native := by
  rcases place_cases placed with ⟨settled, spelled⟩ | unspelled
  · obtain ⟨found, followed, here⟩ := bind_eq_ok_iff.mp located
    refine ⟨settled, spelled, ?_⟩
    split at here
    · cases here
      exact settled.eq_of_follow followed
    · cases here
  · exact (unspelled.missing spells place located).elim

/-- The path of a directory leads to one inside the root. -/
theorem settled_of_isDirectory
    (spells : store.host.Spells)
    (directory : store.isDirectory path = true) :
    ∃ place,
      store.Settled place ∧
        store.Spelled path place ∧
        store.host.entry? place = some .directory := by
  unfold Store.isDirectory at directory
  split at directory
  · rename_i native placed
    unfold Host.isDirectory at directory
    split at directory
    · rename_i place located
      obtain ⟨settled, spelled, rfl⟩ := settled_of_locate spells placed located
      exact ⟨place, settled, spelled, of_decide_eq_true directory⟩
    · cases directory
  · cases directory

/-- Names are listed that lie in a directory inside the root. -/
theorem settled_of_list
    {names : List String}
    (spells : store.host.Spells)
    (listed : store.list path = .ok names) :
    ∃ place,
      store.Settled place ∧
        store.Spelled path place ∧
        store.host.entry? place = some .directory ∧
        names = store.host.children place := by
  unfold Store.list at listed
  split at listed
  · cases listed
  · rename_i native placed
    split at listed
    · rename_i directory
      split at listed
      · rename_i place located
        cases listed
        obtain ⟨settled, spelled, rfl⟩ := settled_of_locate spells placed located
        rw [Host.isDirectory, located] at directory
        exact ⟨place, settled, spelled, of_decide_eq_true directory, rfl⟩
      · cases listed
    · cases listed

/-- The place that a path was made ready at is its place afterwards. -/
theorem place_of_prepare
    {access : Access}
    {ready : Store}
    (prepared : store.prepare path access = (.ok place, ready)) :
    ready.place path = .ok place := by
  unfold prepare at prepared
  split at prepared
  · cases prepared
  · rename_i native placed
    split at prepared
    · split at prepared
      · cases prepared
      · obtain ⟨again, rfl⟩ := Prod.mk.inj prepared
        exact again
    · cases prepared
      exact placed

/-- A file that is opened is the one at a settled place, with all that the host has of it. -/
theorem settled_of_openFile
    {access : Access}
    {file : OpenFile}
    {after : Store}
    (done : store.openFile path access = (.ok file, after))
    (spells : after.host.Spells) :
    after.Settled file.place ∧ file.Held after.host := by
  unfold Store.openFile at done
  split at done
  · cases done
  · split at done
    · cases done
    · rename_i place ready preparing
      split at done
      · cases done
      · split at done
        · cases done
        · rename_i content read
          cases done
          dsimp only at spells ⊢
          obtain ⟨found, followed, shown⟩ := bind_eq_ok_iff.mp read
          split at shown
          · rename_i here
            cases shown
            have located : ready.host.locate (.ofPlace place) = .ok found :=
              bind_eq_ok_iff.mpr ⟨found, followed, by rw [here]; rfl⟩
            obtain ⟨settled, -, rfl⟩ := settled_of_locate spells (place_of_prepare preparing) located
            obtain ⟨_, accepted, -⟩ := bind_eq_ok_iff.mp followed
            exact ⟨⟨settled.inside, settled.leads, settled.present⟩,
              ⟨accepted, settled.leads, ⟨content, here, fun _ => rfl⟩, Nat.zero_le _⟩⟩
          · cases shown
          · cases shown
          · cases shown

end Store

end Handheld
