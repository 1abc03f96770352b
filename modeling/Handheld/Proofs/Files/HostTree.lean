import Handheld.Files.Store

namespace Handheld

/-!
# Changes of a tree without links

Where no links are, names lead to the place that they spell, and a route is good
as long as the directories along it stay. Every operation changes one place, and
never a directory that holds something, so a file that is there remains within
reach.
-/

/-- Steps one after the other give a result when each of them does. -/
theorem bind_eq_ok_iff
    {first : Except ε α}
    {next : α → Except ε β}
    {result : β} :
    (first >>= next) = .ok result ↔ ∃ value, first = .ok value ∧ next value = .ok result := by
  constructor
  · intro done
    cases first with
    | error error => cases done
    | ok value => exact ⟨value, rfl, done⟩
  · rintro ⟨value, rfl, done⟩
    exact done

namespace Host

/-- Behind the keys that are kept, all is found as before. -/
theorem lookup_filter_key
    (items : List (Place × Entry))
    (keeps : Place → Bool)
    (place : Place) :
    (items.filter fun item => keeps item.1).lookup place =
      if keeps place then items.lookup place else none := by
  induction items with
  | nil => exact (ite_self _).symm
  | cons item rest inductionHypothesis =>
      obtain ⟨key, entry⟩ := item
      rw [List.filter_cons, List.lookup_cons]
      dsimp only
      cases kept : keeps key with
      | true =>
          rw [if_pos rfl, List.lookup_cons]
          by_cases here : place = key
          · rw [here, beq_self_eq_true, kept, if_pos rfl]
          · rw [beq_eq_false_iff_ne.mpr here]
            exact inductionHypothesis
      | false =>
          rw [if_neg Bool.false_ne_true, inductionHypothesis]
          by_cases here : place = key
          · rw [here, kept, if_neg Bool.false_ne_true, if_neg Bool.false_ne_true]
          · rw [beq_eq_false_iff_ne.mpr here]

/-- Taking out a place takes out that place only. -/
theorem entry?_erase
    (host : Host)
    (place : Place)
    {other : Place}
    (proper : other ≠ []) :
    Host.entry? (host.erase place) other = if other = place then none else host.entry? other := by
  rw [Host.entry?, if_neg proper, Host.entry?, if_neg proper]
  refine (lookup_filter_key host.entries (fun key => decide (key ≠ place)) other).trans ?_
  by_cases here : other = place
  · rw [if_neg (by simpa using here), if_pos here]
  · rw [if_pos (decide_eq_true here), if_neg here]

/-- What is put at a place is found there, and the rest is found as before. -/
theorem entry?_insert
    (host : Host)
    (place : Place)
    (entry : Entry)
    {other : Place}
    (proper : other ≠ []) :
    Host.entry? (host.insert place entry) other =
      if other = place then some entry else host.entry? other := by
  have left := entry?_erase host place proper
  rw [Host.entry?, if_neg proper] at left ⊢
  unfold insert
  rw [List.lookup_cons]
  by_cases here : other = place
  · rw [if_pos here, here, beq_self_eq_true]
  · rw [if_neg here, beq_eq_false_iff_ne.mpr here]
    exact left.trans (if_neg here)

/-- The top is always a directory. -/
@[simp] theorem entry?_top (host : Host) : host.entry? [] = some .directory :=
  if_pos rfl

/--
What is removed from a tree is gone with all that lies below it, and everything
else is where it was.
-/
theorem removeAll_exact
    {host changed : Host}
    {route : Route}
    (removed : host.removeAll route = .ok changed) :
    ∃ place,
      host.walk false linkLimit [] route.names = .ok place ∧
        host.entry? place ≠ none ∧
        changed.below place = [] ∧
        ∀ other ≠ [],
          changed.entry? other = if place <+: other then none else host.entry? other := by
  unfold removeAll at removed
  split at removed
  · cases removed
  · obtain ⟨_, -, reached⟩ := bind_eq_ok_iff.mp removed
    obtain ⟨place, walked, cut⟩ := bind_eq_ok_iff.mp reached
    split at cut
    · cases cut
    · rename_i entry present
      cases cut
      refine ⟨place, walked, by rw [present]; exact nofun, ?_, ?_⟩
      · refine List.filterMap_eq_nil_iff.mpr fun item kept => if_neg fun below => ?_
        have apart := (List.mem_filter.mp kept).2
        rw [below.1] at apart
        cases apart
      · intro other proper
        rw [Host.entry?, if_neg proper, Host.entry?, if_neg proper]
        refine (lookup_filter_key host.entries (fun key => !place.isPrefixOf key) other).trans ?_
        by_cases inside : place <+: other
        · rw [if_pos inside, List.isPrefixOf_iff_prefix.mpr inside]
          rfl
        · rw [if_neg inside, Bool.eq_false_iff.mpr (mt List.isPrefixOf_iff_prefix.mp inside)]
          rfl

/-- No link lies at any place. -/
def LinkFree (host : Host) : Prop :=
  ∀ place target, host.entry? place ≠ some (.link target)

/-- Only one place differs, and it is no directory that holds something. -/
structure ChangedAt
    (place : Place)
    (host changed : Host) :
    Prop where
  elsewhere : ∀ other, other ≠ place → changed.entry? other = host.entry? other
  unlinked : ∀ target, changed.entry? place ≠ some (.link target)
  holdsNothing :
    host.entry? place = some .directory → ∀ name, host.entry? (place ++ [name]) = none

/-- A change that makes no link keeps a tree free of links. -/
theorem ChangedAt.linkFree
    {place : Place}
    {host changed : Host}
    (change : ChangedAt place host changed)
    (linkFree : host.LinkFree) :
    changed.LinkFree := by
  intro other target
  by_cases here : other = place
  · rw [here]
    exact change.unlinked target
  · rw [change.elsewhere other here]
    exact linkFree other target

/-- Putting something at a place other than a directory changes that place alone. -/
theorem changedAt_insert
    {host : Host}
    {place : Place}
    {entry : Entry}
    (notDirectory : host.entry? place ≠ some .directory)
    (unlinked : ∀ target, entry ≠ .link target) :
    ChangedAt place host (host.insert place entry) where
  elsewhere other different := by
    by_cases top : other = []
    · rw [top, entry?_top, entry?_top]
    · rw [entry?_insert host place entry top, if_neg different]
  unlinked target := by
    have proper : place ≠ [] := by
      intro top
      rw [top] at notDirectory
      exact notDirectory host.entry?_top
    rw [entry?_insert host place entry proper, if_pos rfl]
    intro linked
    exact unlinked target (Option.some.inj linked)
  holdsNothing directory := (notDirectory directory).elim

/-- Taking out what holds nothing changes that place alone. -/
theorem changedAt_erase
    {host : Host}
    {place : Place}
    (holdsNothing :
      host.entry? place = some .directory → ∀ name, host.entry? (place ++ [name]) = none) :
    ChangedAt place host (host.erase place) where
  elsewhere other different := by
    by_cases top : other = []
    · rw [top, entry?_top, entry?_top]
    · rw [entry?_erase host place top, if_neg different]
  unlinked target := by
    by_cases top : place = []
    · rw [top, entry?_top]
      simp
    · rw [entry?_erase host place top, if_pos rfl]
      simp
  holdsNothing := holdsNothing

/-- A directory without children holds nothing. -/
theorem entry?_of_children_eq_nil
    {host : Host}
    {place : Place}
    (empty : host.children place = [])
    (name : String) :
    host.entry? (place ++ [name]) = none := by
  rw [Host.entry?, if_neg (by simp), List.lookup_eq_none_iff]
  intro item member
  have absent := List.filterMap_eq_nil_iff.mp empty item member
  rw [bne_iff_ne]
  intro here
  rw [← here] at absent
  simp at absent

/-- Names that a walk takes as they stand. -/
def Proper (names : List String) : Prop :=
  ∀ name ∈ names, name ≠ "." ∧ name ≠ ".."

theorem proper_nil : Proper [] :=
  fun _ member => nomatch member

/-- However it is spelled, a way leads to a place with proper names. -/
theorem proper_of_walk
    {host : Host}
    (linkFree : host.LinkFree)
    {followLast : Bool}
    {links : Nat}
    {start found : Place}
    {names : List String}
    (proper : Proper start)
    (arrived : host.walk followLast links start names = .ok found) :
    Proper found := by
  induction names generalizing start with
  | nil =>
      rw [walk] at arrived
      rwa [← Except.ok.inj arrived]
  | cons name rest inductionHypothesis =>
      rw [walk] at arrived
      split at arrived
      · exact inductionHypothesis proper arrived
      · rename_i notDot
        split at arrived
        · exact inductionHypothesis
            (fun other member => proper other (List.dropLast_subset start member)) arrived
        · rename_i notDots
          have further : Proper (start ++ [name]) := by
            intro other member
            rcases List.mem_append.mp member with inStart | last
            · exact proper other inStart
            · rw [List.mem_singleton.mp last]
              exact ⟨notDot, notDots⟩
          split at arrived
          · cases arrived
          · split at arrived
            · split at arrived
              · rwa [← Except.ok.inj arrived]
              · cases arrived
            · exact inductionHypothesis further arrived
            · split at arrived
              · rwa [← Except.ok.inj arrived]
              · cases arrived
            · rename_i target entry
              exact (linkFree _ target entry).elim

/-- The names lead on from a directory: none is too long, and all but the last are directories. -/
def Leads
    (host : Host)
    (start : Place) :
    List String → Prop
  | [] => True
  | name :: rest =>
      name ≠ "." ∧
        name ≠ ".." ∧
        name.utf8ByteSize ≤ nameLimit ∧
        (rest ≠ [] → host.entry? (start ++ [name]) = some .directory) ∧
        host.Leads (start ++ [name]) rest

/-- A walk along names that lead on ends at the place they spell, unless that is a link to follow. -/
theorem walk_direct
    {host : Host}
    {followLast : Bool}
    (links : Nat)
    {start : Place}
    {names : List String}
    (leads : host.Leads start names)
    (unlinked : followLast = true → ∀ target, host.entry? (start ++ names) ≠ some (.link target)) :
    host.walk followLast links start names = .ok (start ++ names) := by
  induction names generalizing start with
  | nil => rw [walk, List.append_nil]
  | cons name rest inductionHypothesis =>
      obtain ⟨notDot, notDots, short, directory, onward⟩ := leads
      rw [← List.singleton_append, ← List.append_assoc] at unlinked
      have tail := inductionHypothesis onward unlinked
      rw [List.append_assoc, List.singleton_append] at tail
      rw [walk, if_neg notDot, if_neg notDots, if_neg (Nat.not_lt.mpr short)]
      by_cases last : rest = []
      · subst last
        cases found : host.entry? (start ++ [name]) with
        | none => rfl
        | some entry =>
            cases entry with
            | file => rfl
            | directory => exact tail
            | link target =>
                cases followLast with
                | false => simp
                | true =>
                    rw [List.append_nil] at unlinked
                    exact (unlinked rfl target found).elim
      · rw [directory last]
        exact tail

/-- Without links, names that lead on are walked as they stand. -/
theorem walk_of_leads
    {host : Host}
    (linkFree : host.LinkFree)
    (followLast : Bool)
    (links : Nat)
    {start : Place}
    {names : List String}
    (leads : host.Leads start names) :
    host.walk followLast links start names = .ok (start ++ names) :=
  walk_direct links leads fun _ => linkFree _

/-- A walk along proper names that arrives has been led there. -/
theorem leads_of_walk
    {host : Host}
    (linkFree : host.LinkFree)
    {followLast : Bool}
    {links : Nat}
    {start found : Place}
    {names : List String}
    (proper : Proper names)
    (arrived : host.walk followLast links start names = .ok found) :
    host.Leads start names := by
  induction names generalizing start with
  | nil => trivial
  | cons name rest inductionHypothesis =>
      obtain ⟨notDot, notDots⟩ := proper name List.mem_cons_self
      have properRest : Proper rest :=
        fun later member => proper later (List.mem_cons_of_mem name member)
      rw [walk, if_neg notDot, if_neg notDots] at arrived
      split at arrived
      · cases arrived
      · rename_i short
        refine ⟨notDot, notDots, Nat.not_lt.mp short, ?_⟩
        cases entry : host.entry? (start ++ [name]) with
        | none =>
            rw [entry] at arrived
            by_cases last : rest = []
            · subst last
              exact ⟨fun more => (more rfl).elim, trivial⟩
            · simp only [if_neg last] at arrived
              cases arrived
        | some item =>
            rw [entry] at arrived
            cases item with
            | directory => exact ⟨fun _ => rfl, inductionHypothesis properRest arrived⟩
            | file =>
                by_cases last : rest = []
                · subst last
                  exact ⟨fun more => (more rfl).elim, trivial⟩
                · simp only [if_neg last] at arrived
                  cases arrived
            | link target => exact (linkFree _ target entry).elim

/-- Without links, a walk along proper names ends where they say. -/
theorem walk_eq_of_proper
    {host : Host}
    (linkFree : host.LinkFree)
    {followLast : Bool}
    {links : Nat}
    {found : Place}
    {names : List String}
    (proper : Proper names)
    (arrived : host.walk followLast links [] names = .ok found) :
    found = names ∧ host.Leads [] names := by
  have leads := leads_of_walk linkFree proper arrived
  rw [walk_of_leads linkFree followLast links leads] at arrived
  exact ⟨(Except.ok.inj arrived).symm, leads⟩

/-- What lies behind a place that is changed keeps the way to it. -/
theorem Leads.of_changedAt
    {place : Place}
    {host changed : Host}
    (change : ChangedAt place host changed)
    {start : Place}
    {names : List String}
    (leads : host.Leads start names)
    (present : host.entry? (start ++ names) ≠ none) :
    changed.Leads start names := by
  induction names generalizing start with
  | nil => trivial
  | cons name rest inductionHypothesis =>
      obtain ⟨notDot, notDots, short, directory, onward⟩ := leads
      have behind : host.entry? (start ++ [name] ++ rest) ≠ none := by
        rwa [List.append_assoc, List.singleton_append]
      refine ⟨notDot, notDots, short, ?_, inductionHypothesis onward behind⟩
      intro more
      have here := directory more
      -- The next name is there, so this directory is not the place that changes.
      obtain ⟨next, others, rfl⟩ := List.exists_cons_of_ne_nil more
      have next? : host.entry? (start ++ [name] ++ [next]) ≠ none := by
        obtain ⟨-, -, -, further, -⟩ := onward
        by_cases last : others = []
        · subst last
          exact behind
        · rw [further last]
          simp
      have different : start ++ [name] ≠ place := by
        intro same
        rw [same] at here next?
        exact next? (change.holdsNothing here next)
      rw [change.elsewhere _ different, here]

section Operations

variable
  {host changed : Host}
  (linkFree : host.LinkFree)
  {place : Place}
  (proper : Proper place)

/-- A route straight ahead to something that is no link is followed to its end. -/
theorem follow_direct
    (accepted : accept (.ofPlace place) = .ok ())
    (leads : host.Leads [] place)
    (unlinked : ∀ target, host.entry? place ≠ some (.link target)) :
    host.follow (.ofPlace place) = .ok place := by
  unfold follow
  rw [accepted]
  exact walk_direct linkLimit leads fun _ => unlinked

/-- Without links, every route straight ahead is followed to its end. -/
theorem follow_of_leads
    (linkFree : host.LinkFree)
    (accepted : accept (.ofPlace place) = .ok ())
    (leads : host.Leads [] place) :
    host.follow (.ofPlace place) = .ok place :=
  follow_direct accepted leads (linkFree place)

/-- A file that lies straight ahead is written over. -/
theorem writeFile_eq
    (content : List UInt8)
    {before : List UInt8}
    (accepted : accept (.ofPlace place) = .ok ())
    (leads : host.Leads [] place)
    (present : host.entry? place = some (.file before)) :
    host.writeFile (.ofPlace place) content = .ok (host.insert place (.file content)) := by
  have unlinked : ∀ target, host.entry? place ≠ some (.link target) := by
    intro target
    rw [present]
    exact nofun
  apply bind_eq_ok_iff.mpr
  refine ⟨place, follow_direct accepted leads unlinked, ?_⟩
  rw [present]

include linkFree proper

/-- Following a route of proper names can only end at the place itself. -/
theorem follow_eq
    {found : Place}
    (followed : host.follow (.ofPlace place) = .ok found) :
    found = place ∧ accept (.ofPlace place) = .ok () ∧ host.Leads [] place := by
  obtain ⟨_, accepted, walked⟩ := bind_eq_ok_iff.mp followed
  obtain ⟨same, leads⟩ := walk_eq_of_proper linkFree proper walked
  exact ⟨same, accepted, leads⟩

/-- Spelling a place anew gives the same place. -/
theorem canonical_eq
    {found : Place}
    (spelled : host.canonical (.ofPlace place) = .ok found) :
    found = place := by
  unfold canonical at spelled
  split at spelled
  · cases spelled
  · obtain ⟨reached, walked, checked⟩ := bind_eq_ok_iff.mp spelled
    obtain ⟨same, -⟩ := walk_eq_of_proper linkFree proper walked
    split at checked
    · cases checked
    · split at checked
      · cases checked
      · rw [← same]
        exact (Except.ok.inj checked).symm

/-- What was read is the content of a file straight ahead. -/
theorem readFile_inv
    {content : List UInt8}
    (read : host.readFile (.ofPlace place) = .ok content) :
    accept (.ofPlace place) = .ok () ∧
      host.Leads [] place ∧
      host.entry? place = some (.file content) := by
  obtain ⟨found, followed, shown⟩ := bind_eq_ok_iff.mp read
  obtain ⟨rfl, accepted, leads⟩ := follow_eq linkFree proper followed
  refine ⟨accepted, leads, ?_⟩
  split at shown
  · rename_i entry
    rw [entry, Except.ok.inj shown]
  · cases shown
  · cases shown
  · cases shown

/-- What was written is now the content of a file that was not a directory. -/
theorem writeFile_inv
    {content : List UInt8}
    (written : host.writeFile (.ofPlace place) content = .ok changed) :
    host.follow (.ofPlace place) = .ok place ∧
      host.entry? place ≠ some .directory ∧
      changed = host.insert place (.file content) := by
  obtain ⟨found, followed, stored⟩ := bind_eq_ok_iff.mp written
  obtain ⟨rfl, -, -⟩ := follow_eq linkFree proper followed
  refine ⟨followed, ?_⟩
  split at stored
  · cases stored
  · rename_i notDirectory
    exact ⟨notDirectory, (Except.ok.inj stored).symm⟩

/-- A directory that was made is where nothing was. -/
theorem makeDirectory_inv
    (made : host.makeDirectory (.ofPlace place) = .ok changed) :
    host.entry? place = none ∧ changed = host.insert place .directory := by
  obtain ⟨_, -, madeAt⟩ := bind_eq_ok_iff.mp made
  obtain ⟨found, walked, stored⟩ := bind_eq_ok_iff.mp madeAt
  obtain ⟨rfl, -⟩ := walk_eq_of_proper linkFree proper walked
  split at stored
  · cases stored
  · rename_i nothing
    exact ⟨nothing, (Except.ok.inj stored).symm⟩

/-- A file that was removed was no directory, and only it is gone. -/
theorem removeFile_inv
    (removed : host.removeFile (.ofPlace place) = .ok changed) :
    host.entry? place ≠ some .directory ∧ changed = host.erase place := by
  obtain ⟨_, -, removedAt⟩ := bind_eq_ok_iff.mp removed
  obtain ⟨found, walked, erased⟩ := bind_eq_ok_iff.mp removedAt
  obtain ⟨rfl, -⟩ := walk_eq_of_proper linkFree proper walked
  split at erased
  · cases erased
  · cases erased
  · rename_i other notDirectory present
    refine ⟨?_, (Except.ok.inj erased).symm⟩
    intro directory
    rw [directory] at present
    exact notDirectory (Option.some.inj present).symm

/-- A directory that was removed was empty, and only it is gone. -/
theorem removeDirectory_inv
    (removed : host.removeDirectory (.ofPlace place) = .ok changed) :
    host.children place = [] ∧ changed = host.erase place := by
  obtain ⟨_, -, removedAt⟩ := bind_eq_ok_iff.mp removed
  obtain ⟨found, walked, erased⟩ := bind_eq_ok_iff.mp removedAt
  obtain ⟨rfl, -⟩ := walk_eq_of_proper linkFree proper walked
  split at erased
  · split at erased
    · rename_i empty
      exact ⟨empty, (Except.ok.inj erased).symm⟩
    · cases erased
  · cases erased
  · cases erased

end Operations

end Host

end Handheld
