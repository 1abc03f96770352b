import Handheld.Proofs.Files.Places
import Handheld.Proofs.Files.WorkingDirectory

namespace Handheld

/-!
# Where paths lead without links

A path is followed in two ways. Descending along it refuses a step up from the root,
and collapsing it stays there. This module says that the two agree on every path that
does not leave the root, and which paths do leave it, so that a working directory,
which was collapsed, can always be descended to.
-/

namespace Path

/-- Whether a segment leads one step down. -/
def isName (segment : String) : Bool :=
  segment ≠ "" ∧ segment ≠ "." ∧ segment ≠ ".."

/-- Whether some of the first segments lead up more often than from a height and down. -/
def Rises
    (height : Nat)
    (segments : List String) :
    Prop :=
  ∃ front, front <+: segments ∧ height + front.countP isName < front.count ".."

/-- Whether some of the first segments of a path lead up more often than down. -/
def Escapes (path : String) : Prop :=
  Rises 0 (segments path)

/-- Standing still rises nowhere. -/
theorem not_rises_nil (height : Nat) : ¬ Rises height [] := by
  rintro ⟨front, first, up⟩
  rw [List.prefix_nil.mp first] at up
  exact Nat.not_lt_zero _ up

/-- Segments rise above the start when some front of them does, and no front is empty. -/
theorem rises_cons
    {height : Nat}
    {segment : String}
    {rest : List String} :
    Rises height (segment :: rest) ↔
      ∃ front,
        front <+: rest ∧
          height + (segment :: front).countP isName < (segment :: front).count ".." := by
  constructor
  · rintro ⟨front, first, up⟩
    rcases List.prefix_cons_iff.mp first with rfl | ⟨later, rfl, behind⟩
    · exact (Nat.not_lt_zero _ up).elim
    · exact ⟨later, behind, up⟩
  · rintro ⟨later, behind, up⟩
    exact ⟨segment :: later, List.prefix_cons_iff.mpr (.inr ⟨later, rfl, behind⟩), up⟩

/-- The kinds of segments, and what each of them does to the height. -/
theorem segment_cases (segment : String) :
    (segment = "" ∨ segment = ".") ∨ segment = ".." ∨ isName segment = true := by
  by_cases still : segment = "" ∨ segment = "."
  · exact .inl still
  · by_cases up : segment = ".."
    · exact .inr (.inl up)
    · exact .inr (.inr (by simp_all [isName]))

/-- Empty segments and single dots are passed over. -/
theorem rises_still
    {height : Nat}
    {segment : String}
    {rest : List String}
    (still : segment = "" ∨ segment = ".") :
    Rises height (segment :: rest) ↔ Rises height rest := by
  rw [rises_cons]
  rcases still with rfl | rfl
  · simp [Rises, isName]
  · simp [Rises, isName]

/-- Going up from the root rises above it. -/
theorem rises_up_from_root (rest : List String) : Rises 0 (".." :: rest) :=
  rises_cons.mpr ⟨[], List.nil_prefix, by decide⟩

/-- Going up from further down only loses height. -/
theorem rises_up
    {height : Nat}
    {rest : List String} :
    Rises (height + 1) (".." :: rest) ↔ Rises height rest := by
  have one (front : List String) :
      height + 1 + (".." :: front).countP isName < (".." :: front).count ".." ↔
        height + front.countP isName < front.count ".." := by
    rw [List.countP_cons_of_neg (by decide), List.count_cons_self]
    omega
  rw [rises_cons]
  simp only [one]
  rfl

/-- A name gains height. -/
theorem rises_name
    {height : Nat}
    {segment : String}
    {rest : List String}
    (named : isName segment = true) :
    Rises height (segment :: rest) ↔ Rises (height + 1) rest := by
  rw [rises_cons]
  have notUp : segment ≠ ".." := by simp_all [isName]
  simp [Rises, named, notUp, Nat.add_assoc, Nat.add_comm 1]

/-- A name always goes one level down. -/
theorem descendStep?_of_name
    {segment : String}
    (named : isName segment = true)
    (above : List String) :
    descendStep? above segment = some (segment :: above) := by
  simp_all [isName, descendStep?]

/-- Descending fails exactly where the segments lead above the start. -/
theorem foldlM_descendStep?_eq_none_iff
    {segments above : List String} :
    segments.foldlM descendStep? above = none ↔ Rises above.length segments := by
  induction segments generalizing above with
  | nil => simp [not_rises_nil]
  | cons segment rest inductionHypothesis =>
      rw [List.foldlM_cons]
      rcases segment_cases segment with still | rfl | named
      · have kept : descendStep? above segment = some above := if_pos still
        rw [kept, rises_still still]
        exact inductionHypothesis
      · cases above with
        | nil => simp [descendStep?, rises_up_from_root]
        | cons last above =>
            have back : descendStep? (last :: above) ".." = some above := by simp [descendStep?]
            rw [back, List.length_cons, rises_up]
            exact inductionHypothesis
      · rw [descendStep?_of_name named, rises_name named]
        exact inductionHypothesis

/-- A step of a descent is a step of collapsing. -/
theorem collapseStep_of_descendStep?
    {above next : List String}
    {segment : String}
    (step : descendStep? above segment = some next) :
    collapseStep above segment = next := by
  unfold descendStep? at step
  unfold collapseStep
  split at step
  · rename_i still
    rw [if_pos still]
    exact Option.some.inj step
  · rename_i notStill
    rw [if_neg notStill]
    split at step
    · rename_i up
      rw [if_pos up]
      cases above with
      | nil => cases step
      | cons last above => exact Option.some.inj step
    · rename_i notUp
      rw [if_neg notUp]
      exact Option.some.inj step

/-- Where the checked walk ends, the lenient one ends, too. -/
theorem foldl_of_foldlM
    {segments above result : List String}
    (descended : segments.foldlM descendStep? above = some result) :
    segments.foldl collapseStep above = result := by
  induction segments generalizing above with
  | nil => exact Option.some.inj descended
  | cons segment rest inductionHypothesis =>
      obtain ⟨next, step, onward⟩ := Option.bind_eq_some_iff.mp descended
      rw [List.foldl_cons, collapseStep_of_descendStep? step]
      exact inductionHypothesis onward

/-- A path is refused exactly when it escapes. -/
theorem descend?_eq_none_iff {path : String} : descend? path = none ↔ Escapes path := by
  rw [descend?, Option.map_eq_none_iff, foldlM_descendStep?_eq_none_iff]
  rfl

/-- A path that can be descended leads where it is collapsed to. -/
theorem descend?_of_not_escapes
    {path : String}
    (stays : ¬ Escapes path) :
    descend? path = some (collapse path) := by
  cases descended : (segments path).foldlM descendStep? [] with
  | none => exact (stays (foldlM_descendStep?_eq_none_iff.mp descended)).elim
  | some result => rw [descend?, descended, Option.map_some, collapse, foldl_of_foldlM descended]

/-- A collapsed path never leads up. -/
theorem not_escapes_normalize (path : String) : ¬ Escapes (normalize path) := by
  have noneUp : (segments (normalize path)).count ".." = 0 := by
    rw [segments_normalize]
    apply List.count_eq_zero.mpr
    intro member
    have named : ".." ∈ collapse path := by simpa using member
    exact (ordinary_collapse path ".." named).notUp rfl
  rintro ⟨front, first, up⟩
  have fewer := first.sublist.count_le ".."
  omega

end Path

namespace Host

/-- Names that lead on are proper. -/
theorem proper_of_leads
    {host : Host}
    {start : Place}
    {names : List String}
    (leads : host.Leads start names) :
    Proper names := by
  induction names generalizing start with
  | nil => exact proper_nil
  | cons name rest inductionHypothesis =>
      obtain ⟨notDot, notUp, -, -, onward⟩ := leads
      exact List.forall_mem_cons.mpr ⟨⟨notDot, notUp⟩, inductionHypothesis onward⟩

end Host

namespace Store

/-- The root of a new store is spelled out in proper names. -/
theorem proper_root_of_ofDirectory
    {host : Host}
    {route : Route}
    {store : Store}
    (based : ofDirectory host route = .ok store) :
    store = { host := host, root := store.root } ∧ Host.Proper store.root := by
  unfold ofDirectory at based
  split at based
  · split at based
    · rename_i root spelled
      cases based
      obtain ⟨leads, -⟩ := Host.leads_of_canonical spelled
      exact ⟨rfl, Host.proper_of_leads leads⟩
    · cases based
  · cases based

section Places

variable
  {store : Store}
  (linkFree : store.host.LinkFree)
  (rootProper : Host.Proper store.root)

/-- A relative path has no place in a store. -/
theorem place_of_relative
    (store : Store)
    {path : String}
    (relative : Path.isAbsolute path = false) :
    store.place path = .error (.relativePath path) := by
  rw [place, if_neg (by rw [relative]; exact Bool.false_ne_true)]

include linkFree rootProper

/-- A path that stays inside has the place that its names spell. -/
theorem place_of_not_escapes
    {path : String}
    (absolute : Path.isAbsolute path = true)
    (stays : ¬ Path.Escapes path) :
    store.place path = .ok (store.root ++ Path.collapse path) :=
  (place_eq_ok_iff linkFree rootProper).mpr
    ⟨absolute, _, Path.descend?_of_not_escapes stays, rfl⟩

/-- An absolute path is said to be outside exactly when it escapes. -/
theorem outsideRoot_iff_escapes
    {path : String}
    (absolute : Path.isAbsolute path = true) :
    (∃ place, store.place path = .error (.outsideRoot place)) ↔ Path.Escapes path := by
  constructor
  · rintro ⟨place, refused⟩
    refine Classical.byContradiction fun stays => ?_
    cases refused.symm.trans (place_of_not_escapes linkFree rootProper absolute stays)
  · intro escapes
    refine ⟨store.root ++ Path.segments path, ?_⟩
    rw [place, if_pos absolute, Path.descend?_eq_none_iff.mpr escapes]

/-- A normal path always has a place. -/
theorem place_normalize (path : String) :
    store.place (Path.normalize path) =
      .ok (store.root ++ Path.names (Path.normalize path)) := by
  rw [place_of_not_escapes linkFree rootProper (Path.isAbsolute_normalize path)
    (Path.not_escapes_normalize path), Path.collapse_normalize, Path.names_normalize]

end Places

end Store

namespace HandleTable

/--
Without links, a path leads to its own names below the root, or is refused.

Take a new store, and let any calls and changes of the host happen that leave it
without links. A path that does not start with a slash is refused as relative. Any
other is refused as outside the root exactly if some of its first segments lead up
more often than down; if not, it leads from the root along the names of the collapsed
path, all of them ordinary. A collapsed path itself is never refused, and so neither
is the working directory.
-/
theorem paths_lead_inside
    (host : Host)
    (route : Route)
    (store : Store)
    (based : Store.ofDirectory host route = .ok store)
    (events : List TableEvent)
    (linkFree : (events.foldl meet { store := store }).store.host.LinkFree) :
    let table := events.foldl meet { store := store }
    (∀ path,
      Path.isAbsolute path = false →
      table.store.place path = .error (.relativePath path)) ∧
    (∀ path,
      Path.isAbsolute path = true →
      ((∃ place, table.store.place path = .error (.outsideRoot place)) ↔ Path.Escapes path) ∧
        (¬ Path.Escapes path →
          table.store.place path = .ok (store.root ++ Path.names (Path.normalize path)) ∧
            ∀ name ∈ Path.names (Path.normalize path), Path.Ordinary name)) ∧
    (∀ path,
      table.store.place (Path.normalize path) =
        .ok (store.root ++ Path.names (Path.normalize path))) ∧
    table.store.place table.workingDir =
      .ok (store.root ++ Path.names table.workingDir) := by
  intro table
  obtain ⟨new, rootProper⟩ := Store.proper_root_of_ofDirectory based
  obtain ⟨sameRoot, path, normal⟩ :
      table.store.root = store.root ∧ ∃ path, table.workingDir = Path.normalize path := by
    have run := normal_meetAll_new host store.root events
    rwa [← new] at run
  rw [← sameRoot] at rootProper ⊢
  refine ⟨?_, ?_, Store.place_normalize linkFree rootProper, ?_⟩
  · intro path relative
    exact table.store.place_of_relative relative
  · intro path absolute
    refine ⟨Store.outsideRoot_iff_escapes linkFree rootProper absolute, fun stays => ?_⟩
    rw [Path.names_normalize]
    exact ⟨Store.place_of_not_escapes linkFree rootProper absolute stays,
      Path.ordinary_collapse path⟩
  · rw [normal]
    exact Store.place_normalize linkFree rootProper path

theorem ofDirectory_gamesHost :
    Store.ofDirectory gamesHost { text := "/", names := [] } = .ok (gamesTable "/").store := by
  have accepted : Host.accept { text := "/", names := [] } = .ok () := rfl
  have plain : Route.isPlain { text := "/", names := [] } = true := rfl
  have short : Route.fits (.ofPlace []) = true := rfl
  simp [Store.ofDirectory, Host.isDirectory, Host.locate, Host.follow, Host.canonical, Host.walk,
    Route.steps, accepted, plain, short, bind, Except.bind, gamesTable]

/-- Paths of a store after its working directory was changed. -/
theorem paths_beside_games :
    let table := [TableEvent.call (.file (.changeDir "games"))].foldl meet (gamesTable "/")
    table.store.place "games" = .error (.relativePath "games") ∧
      (∃ place, table.store.place "/games/../../x" = .error (.outsideRoot place)) ∧
      table.store.place "/games/.././/x/" = .ok ["x"] ∧
      table.store.place table.workingDir = .ok ["games"] := by
  intro table
  have entered : table = gamesTable "/games/" := by
    change ((gamesTable "/").perform (.changeDir "games")).2 = _
    rw [perform, enter_games]
    rfl
  have linkFree : table.store.host.LinkFree := by
    rw [entered]
    exact linkFree_gamesHost
  obtain ⟨relative, absolute, -, inside⟩ :=
    paths_lead_inside gamesHost _ _ ofDirectory_gamesHost
      [.call (.file (.changeDir "games"))] linkFree
  obtain ⟨refused, -⟩ := absolute "/games/../../x" (by decide)
  obtain ⟨-, kept⟩ := absolute "/games/.././/x/" (by decide)
  have escapes : Path.Escapes "/games/../../x" := Path.descend?_eq_none_iff.mp (by decide)
  have stays : ¬ Path.Escapes "/games/.././/x/" := by
    rw [← Path.descend?_eq_none_iff]
    decide
  have workingDir : table.workingDir = "/games/" := by
    rw [entered]
    rfl
  have names : Path.names "/games/" = ["games"] := by decide
  refine ⟨relative "games" (by decide), refused.mpr escapes, (kept stays).1, ?_⟩
  have here : table.store.place table.workingDir = .ok ([] ++ Path.names table.workingDir) := inside
  rw [here, workingDir, names]
  rfl

end HandleTable

end Handheld
