import Handheld.Proofs.Files.HostTree

namespace Handheld

/-!
# Walks through links

Links change the way but not where it can end: whatever a walk arrives at lies
straight ahead, behind directories that are all there, and is no link unless the
last one was not to be followed. So a place that was found once is found again
by its own names, for as long as nothing on the way to it changes.
-/

namespace Host

variable {host : Host}

/-- No names lead to where one is. -/
theorem leads_top (host : Host) : host.Leads [] [] :=
  trivial

/-- Names that lead to a directory lead on from there. -/
theorem Leads.concat
    {start : Place}
    {names : List String}
    {name : String}
    (leads : host.Leads start names)
    (directory : names ≠ [] → host.entry? (start ++ names) = some .directory)
    (proper : name ≠ "." ∧ name ≠ "..")
    (short : name.utf8ByteSize ≤ nameLimit) :
    host.Leads start (names ++ [name]) := by
  induction names generalizing start with
  | nil => exact ⟨proper.1, proper.2, short, fun more => (more rfl).elim, trivial⟩
  | cons first rest inductionHypothesis =>
      obtain ⟨notDot, notDots, firstShort, behind, onward⟩ := leads
      have whole := directory (List.cons_ne_nil first rest)
      rw [← List.singleton_append, ← List.append_assoc] at whole
      refine ⟨notDot, notDots, firstShort, fun _ => ?_, ?_⟩
      · by_cases last : rest = []
        · rw [last, List.append_nil] at whole
          exact whole
        · exact behind last
      · exact inductionHypothesis onward fun _ => whole

/-- What leads to a place leads to the directory it lies in. -/
theorem Leads.dropLast
    {start : Place}
    {names : List String}
    (leads : host.Leads start names) :
    host.Leads start names.dropLast := by
  induction names generalizing start with
  | nil => exact trivial
  | cons first rest inductionHypothesis =>
      obtain ⟨notDot, notDots, short, behind, onward⟩ := leads
      cases rest with
      | nil => exact trivial
      | cons second others =>
          exact ⟨notDot, notDots, short, fun _ => behind (List.cons_ne_nil second others),
            inductionHypothesis onward⟩

/-- One step up from where names lead there is a directory. -/
theorem Leads.directory_dropLast
    {start : Place}
    {names : List String}
    (leads : host.Leads start names)
    (directory : host.entry? start = some .directory) :
    host.entry? (start ++ names.dropLast) = some .directory := by
  induction names generalizing start with
  | nil => rwa [List.dropLast_nil, List.append_nil]
  | cons first rest inductionHypothesis =>
      obtain ⟨-, -, -, behind, onward⟩ := leads
      cases rest with
      | nil => rwa [List.dropLast_singleton, List.append_nil]
      | cons second others =>
          have further := inductionHypothesis onward (behind (List.cons_ne_nil second others))
          rwa [List.append_assoc, List.singleton_append] at further

/-- Wherever a walk arrives lies straight ahead, and no link is left unfollowed. -/
theorem leads_of_arrival
    {followLast : Bool}
    {links : Nat}
    {start found : Place}
    {names : List String}
    (leads : host.Leads [] start)
    (directory : host.entry? start = some .directory)
    (arrived : host.walk followLast links start names = .ok found) :
    host.Leads [] found ∧
      (followLast = true → ∀ target, host.entry? found ≠ some (.link target)) := by
  fun_induction Host.walk host followLast links start names with
  | case1 links start =>
      cases arrived
      refine ⟨leads, fun _ target => ?_⟩
      rw [directory]
      exact nofun
  | case2 links start rest inductionHypothesis =>
      exact inductionHypothesis leads directory arrived
  | case3 links start rest notDot inductionHypothesis =>
      exact inductionHypothesis leads.dropLast (leads.directory_dropLast host.entry?_top) arrived
  | case4 => cases arrived
  | case5 links start name notDot notDots notLong nothing =>
      cases arrived
      refine ⟨leads.concat (fun _ => directory) ⟨notDot, notDots⟩ (Nat.not_lt.mp notLong), ?_⟩
      rw [nothing]
      exact fun _ _ => nofun
  | case6 => cases arrived
  | case7 links start name rest notDot notDots notLong here inductionHypothesis =>
      have further := leads.concat (fun _ => directory) ⟨notDot, notDots⟩ (Nat.not_lt.mp notLong)
      exact inductionHypothesis further here arrived
  | case8 links start name notDot notDots notLong content here =>
      cases arrived
      refine ⟨leads.concat (fun _ => directory) ⟨notDot, notDots⟩ (Nat.not_lt.mp notLong), ?_⟩
      rw [here]
      exact fun _ _ => nofun
  | case9 => cases arrived
  | case10 links start name rest notDot notDots notLong target here unfollowed =>
      cases arrived
      refine ⟨leads.concat (fun _ => directory) ⟨notDot, notDots⟩ (Nat.not_lt.mp notLong), ?_⟩
      intro follows
      rw [follows] at unfollowed
      cases unfollowed.2
  | case11 => cases arrived
  | case12 start name rest notDot notDots notLong target here followed fewer inductionHypothesis =>
      by_cases fromTop : target.fromTop = true
      · simp only [fromTop, dite_true, if_true] at inductionHypothesis arrived
        exact inductionHypothesis host.leads_top host.entry?_top arrived
      · simp only [fromTop] at inductionHypothesis arrived
        exact inductionHypothesis leads directory arrived

/-- Where nothing is left to follow, it makes no difference whether the last name is followed. -/
theorem walk_follow_of_arrival
    {links : Nat}
    {start found : Place}
    {names : List String}
    (arrived : host.walk false links start names = .ok found)
    (unlinked : ∀ target, host.entry? found ≠ some (.link target)) :
    host.walk true links start names = .ok found := by
  fun_induction Host.walk host false links start names with
  | case1 links start =>
      rw [walk]
      exact arrived
  | case2 links start rest inductionHypothesis =>
      rw [walk, if_pos rfl]
      exact inductionHypothesis arrived
  | case3 links start rest notDot inductionHypothesis =>
      rw [walk, if_neg notDot, if_pos rfl]
      exact inductionHypothesis arrived
  | case4 => cases arrived
  | case5 links start name notDot notDots notLong nothing =>
      rw [walk, if_neg notDot, if_neg notDots, if_neg notLong, nothing]
      exact arrived
  | case6 => cases arrived
  | case7 links start name rest notDot notDots notLong here inductionHypothesis =>
      rw [walk, if_neg notDot, if_neg notDots, if_neg notLong, here]
      exact inductionHypothesis arrived
  | case8 links start name notDot notDots notLong content here =>
      rw [walk, if_neg notDot, if_neg notDots, if_neg notLong, here]
      exact arrived
  | case9 => cases arrived
  | case10 links start name rest notDot notDots notLong target here unfollowed =>
      cases arrived
      exact (unlinked target here).elim
  | case11 => cases arrived
  | case12 start name rest notDot notDots notLong target here followed fewer inductionHypothesis =>
      rw [walk, if_neg notDot, if_neg notDots, if_neg notLong, here]
      simp only [Bool.not_true, Bool.false_eq_true, and_false, if_false]
      simp only [dite_eq_ite] at inductionHypothesis
      exact inductionHypothesis arrived

/-- Whatever a route leads to can be spelled out anew. -/
def Spells (host : Host) : Prop :=
  ∀ route place, host.locate route = .ok place → host.canonical route = .ok place

/-- Where every place that holds something has a name that fits, all of them can be spelled out. -/
theorem spells_of_fits
    (fits : ∀ item ∈ host.entries, (Route.ofPlace item.1).fits = true) :
    host.Spells := by
  intro route place located
  obtain ⟨found, followed, present⟩ := bind_eq_ok_iff.mp located
  obtain ⟨_, accepted, walked⟩ := bind_eq_ok_iff.mp followed
  split at present
  · rename_i something
    cases present
    have plain : route.isPlain = true := by
      unfold accept at accepted
      split at accepted
      · cases accepted
      · rename_i isPlain
        simpa using isPlain
    have short : (Route.ofPlace place).fits = true := by
      unfold entry? at something
      split at something
      · rename_i top
        rw [top]
        decide
      · obtain ⟨entry, there⟩ := Option.isSome_iff_exists.mp something
        obtain ⟨before, after, split, -⟩ := List.lookup_eq_some_iff.mp there
        exact fits (place, entry) (by rw [split]; simp)
    have notNone : (host.entry? place).isNone = false := by
      rw [← Option.not_isSome, something]
      rfl
    unfold canonical
    rw [plain]
    exact bind_eq_ok_iff.mpr ⟨place, walked, by simp [notNone, short]⟩
  · cases present

/-- What a route is spelled out to lies straight ahead and is no link. -/
theorem leads_of_canonical
    {route : Route}
    {place : Place}
    (spelled : host.canonical route = .ok place) :
    host.Leads [] place ∧
      ∃ entry, host.entry? place = some entry ∧ ∀ target, entry ≠ .link target := by
  unfold canonical at spelled
  split at spelled
  · cases spelled
  · obtain ⟨found, walked, checked⟩ := bind_eq_ok_iff.mp spelled
    split at checked
    · cases checked
    · rename_i present
      split at checked
      · cases checked
      · cases checked
        obtain ⟨leads, unlinked⟩ := leads_of_arrival host.leads_top host.entry?_top walked
        obtain ⟨entry, here⟩ := Option.ne_none_iff_exists'.mp
          (fun nothing => present (Option.isNone_iff_eq_none.mpr nothing))
        refine ⟨leads, entry, here, ?_⟩
        rintro target rfl
        exact unlinked rfl target here

end Host

end Handheld
