import Handheld.Proofs.Files.HostTree

namespace Handheld

/-!
# The same tree in another order

A tree is what lies at each place; the order in which a host keeps its entries
means nothing. Every operation ends in the same way on two hosts with the same
tree, and leaves the same tree behind.
-/

/-- Two results that fail for the same reason, or have related values. -/
inductive Agree (related : α → β → Prop) : Except ε α → Except ε β → Prop where
  | ok
      {value : α}
      {other : β}
      (values : related value other) :
      Agree related (.ok value) (.ok other)
  | error (reason : ε) : Agree related (.error reason) (.error reason)

/-- Two results that agree are the same error or related values. -/
theorem Agree.cases
    {related : α → β → Prop}
    {first : Except ε α}
    {second : Except ε β}
    (agree : Agree related first second) :
    (∃ reason, first = .error reason ∧ second = .error reason) ∨
      ∃ value other, first = .ok value ∧ second = .ok other ∧ related value other := by
  cases agree with
  | ok values => exact .inr ⟨_, _, rfl, rfl, values⟩
  | error reason => exact .inl ⟨reason, rfl, rfl⟩

/-- What follows one result agrees when it does for every value. -/
theorem Agree.bind
    {related : β → γ → Prop}
    (first : Except ε α)
    {next : α → Except ε β}
    {other : α → Except ε γ}
    (agree : ∀ value, first = .ok value → Agree related (next value) (other value)) :
    Agree related (first >>= next) (first >>= other) := by
  cases first with
  | error reason => exact .error reason
  | ok value => exact agree value rfl

/-- Results that agree still do when related changes are made to their values. -/
theorem Agree.map
    {related : α → β → Prop}
    {first : Except ε α}
    {second : Except ε β}
    (agree : Agree related first second)
    {changed : γ → δ → Prop}
    {change : α → γ}
    {other : β → δ}
    (respects : ∀ {value counterpart}, related value counterpart →
      changed (change value) (other counterpart)) :
    Agree changed (first.map change) (second.map other) := by
  cases agree with
  | error reason => exact .error reason
  | ok values => exact .ok (respects values)

namespace Host

/-- The same entries, and of those for one place the same one counts. -/
structure SameTree (host other : Host) : Prop where
  entries : other.entries.Perm host.entries
  entry : ∀ place, other.entry? place = host.entry? place

namespace SameTree

/-- A tree is the same as itself. -/
theorem refl (host : Host) : SameTree host host :=
  ⟨.refl _, fun _ => rfl⟩

section Operations

variable
  {host other : Host}
  (same : SameTree host other)

include same

/-- The same tree is left when a place is taken out. -/
theorem erase (place : Place) : SameTree (host.erase place) (other.erase place) where
  entries := same.entries.filter _
  entry wanted := by
    by_cases top : wanted = []
    · rw [top, entry?_top, entry?_top]
    · rw [entry?_erase _ _ top, entry?_erase _ _ top, same.entry]

/-- The same tree results when something is put at a place. -/
theorem insert
    (place : Place)
    (entry : Entry) :
    SameTree (host.insert place entry) (other.insert place entry) where
  entries := (same.erase place).entries.cons _
  entry wanted := by
    by_cases top : wanted = []
    · rw [top, entry?_top, entry?_top]
    · rw [entry?_insert _ _ _ top, entry?_insert _ _ _ top, same.entry]

/-- A directory has the same names in both. -/
theorem children (place : Place) : (other.children place).Perm (host.children place) :=
  same.entries.filterMap _

/-- A directory is empty in one order as in the other. -/
theorem children_eq_nil_iff (place : Place) :
    other.children place = [] ↔ host.children place = [] := by
  rw [← List.length_eq_zero_iff, (same.children place).length_eq, List.length_eq_zero_iff]

/-- A walk looks at one place after the other and never at the order of the entries. -/
theorem walk
    (followLast : Bool)
    (links : Nat)
    (start : Place)
    (names : List String) :
    other.walk followLast links start names = host.walk followLast links start names := by
  fun_induction Host.walk host followLast links start names with
  | case1 => rw [Host.walk]
  | case2 links place rest inductionHypothesis =>
      rw [Host.walk, if_pos rfl, inductionHypothesis]
  | case3 links place rest notStill inductionHypothesis =>
      rw [Host.walk, if_neg notStill, if_pos rfl, inductionHypothesis]
  | case4 links place name rest notStill notUp long =>
      rw [Host.walk, if_neg notStill, if_neg notUp, if_pos long]
  | case5 links place name notStill notUp short nothing =>
      rw [Host.walk, if_neg notStill, if_neg notUp, if_neg short, same.entry, nothing]
      exact if_pos rfl
  | case6 links place name rest notStill notUp short nothing more =>
      rw [Host.walk, if_neg notStill, if_neg notUp, if_neg short, same.entry, nothing]
      exact if_neg more
  | case7 links place name rest notStill notUp short directory inductionHypothesis =>
      rw [Host.walk, if_neg notStill, if_neg notUp, if_neg short, same.entry, directory]
      exact inductionHypothesis
  | case8 links place name notStill notUp short content file =>
      rw [Host.walk, if_neg notStill, if_neg notUp, if_neg short, same.entry, file]
      exact if_pos rfl
  | case9 links place name rest notStill notUp short content file more =>
      rw [Host.walk, if_neg notStill, if_neg notUp, if_neg short, same.entry, file]
      exact if_neg more
  | case10 links place name rest notStill notUp short target link last =>
      rw [Host.walk, if_neg notStill, if_neg notUp, if_neg short, same.entry, link]
      exact if_pos last
  | case11 place name rest notStill notUp short target link onward =>
      rw [Host.walk, if_neg notStill, if_neg notUp, if_neg short, same.entry, link]
      exact if_neg onward
  | case12 place name rest notStill notUp short target link onward fewer inductionHypothesis =>
      rw [Host.walk, if_neg notStill, if_neg notUp, if_neg short, same.entry, link]
      simp only
      rw [if_neg onward]
      exact inductionHypothesis

/-- A route leads to the same place. -/
theorem follow (route : Route) : other.follow route = host.follow route := by
  unfold Host.follow
  rw [same.walk]

/-- The same place is found. -/
theorem locate (route : Route) : other.locate route = host.locate route := by
  unfold Host.locate
  simp only [same.follow, same.entry]

/-- The same place is spelled out. -/
theorem canonical (route : Route) : other.canonical route = host.canonical route := by
  unfold Host.canonical
  simp only [same.walk, same.entry]

theorem pathExists (route : Route) : other.pathExists route = host.pathExists route := by
  unfold Host.pathExists
  rw [same.locate]

theorem isDirectory (route : Route) : other.isDirectory route = host.isDirectory route := by
  unfold Host.isDirectory
  simp only [same.locate, same.entry]

theorem readFile (route : Route) : other.readFile route = host.readFile route := by
  unfold Host.readFile
  simp only [same.follow, same.entry]

/-- Writing a file leaves the same tree. -/
theorem writeFile
    (route : Route)
    (content : List UInt8) :
    Agree SameTree (host.writeFile route content) (other.writeFile route content) := by
  unfold Host.writeFile
  rw [same.follow]
  refine .bind _ fun place _ => ?_
  rw [same.entry]
  split
  · exact .error _
  · exact .ok (same.insert place _)

/-- Making a directory leaves the same tree. -/
theorem makeDirectory (route : Route) :
    Agree SameTree (host.makeDirectory route) (other.makeDirectory route) := by
  unfold Host.makeDirectory Host.makeDirectoryAt
  rw [same.walk]
  refine .bind _ fun _ _ => .bind _ fun place _ => ?_
  rw [same.entry]
  split
  · exact .error _
  · exact .ok (same.insert place _)

/-- Removing a file leaves the same tree. -/
theorem removeFile (route : Route) :
    Agree SameTree (host.removeFile route) (other.removeFile route) := by
  unfold Host.removeFile
  rw [same.walk]
  refine .bind _ fun _ _ => .bind _ fun place _ => ?_
  rw [same.entry]
  split
  · exact .error _
  · exact .error _
  · exact .ok (same.erase place)

/-- Removing a directory leaves the same tree. -/
theorem removeDirectory (route : Route) :
    Agree SameTree (host.removeDirectory route) (other.removeDirectory route) := by
  unfold Host.removeDirectory
  rw [same.walk]
  refine .bind _ fun _ _ => .bind _ fun place _ => ?_
  simp only [same.entry, same.children_eq_nil_iff]
  split
  · split
    · exact .ok (same.erase place)
    · exact .error _
  · exact .error _
  · exact .error _

/-- Whatever a route leads to is removed in the same way. -/
theorem remove (route : Route) :
    Agree SameTree
      (if host.isDirectory route then host.removeDirectory route else host.removeFile route)
      (if host.isDirectory route then other.removeDirectory route else other.removeFile route) := by
  split
  · exact same.removeDirectory route
  · exact same.removeFile route

end Operations

end SameTree

end Host

end Handheld
