import Handheld.Files.Path

namespace Handheld

/-!
# Paths in normal form

A path is taken apart at its slashes, its segments are collapsed to names, and the
names are put together again with a slash behind each. This module says that taking
apart undoes putting together, so that collapsing a second time changes nothing, and
what follows a path is collapsed from where the path leads.
-/

namespace Path

/-- A name that stands for itself: it is one segment, and means a step down. -/
structure Ordinary (name : String) : Prop where
  nonempty : name ≠ ""
  notDot : name ≠ "."
  notUp : name ≠ ".."
  noSlash : '/' ∉ name.toList

section Splitting

/-- Even an empty text has one part. -/
theorem split_ne_nil (characters : List Char) : characters.foldr prepend [[]] ≠ [] := by
  cases characters with
  | nil => exact List.cons_ne_nil _ _
  | cons character rest =>
      rw [List.foldr_cons]
      unfold prepend
      split
      · exact List.cons_ne_nil _ _
      · split
        · exact List.cons_ne_nil _ _
        · exact List.cons_ne_nil _ _

/-- What stands in front of a slash is split without regard to what stands behind it. -/
theorem split_slash
    (front : List Char)
    (later : List (List Char)) :
    front.foldr prepend ([] :: later) = front.foldr prepend [[]] ++ later := by
  induction front with
  | nil => rfl
  | cons character rest inductionHypothesis =>
      obtain ⟨first, others, split⟩ := List.exists_cons_of_ne_nil (split_ne_nil rest)
      rw [List.foldr_cons, List.foldr_cons, inductionHypothesis, split]
      unfold prepend
      split
      · rfl
      · rfl

/-- A text without slashes is its only part. -/
theorem split_of_noSlash
    {characters : List Char}
    (noSlash : '/' ∉ characters) :
    characters.foldr prepend [[]] = [characters] := by
  induction characters with
  | nil => rfl
  | cons character rest inductionHypothesis =>
      have different : character ≠ '/' := Ne.symm (List.ne_of_not_mem_cons noSlash)
      rw [List.foldr_cons, inductionHypothesis (List.not_mem_of_not_mem_cons noSlash), prepend,
        if_neg different]

/-- No part of a text has slashes. -/
theorem noSlash_of_mem_split
    {characters segment : List Char}
    (member : segment ∈ characters.foldr prepend [[]]) :
    '/' ∉ segment := by
  induction characters generalizing segment with
  | nil =>
      rw [List.mem_singleton.mp member]
      exact List.not_mem_nil
  | cons character rest inductionHypothesis =>
      obtain ⟨first, others, split⟩ := List.exists_cons_of_ne_nil (split_ne_nil rest)
      rw [split] at inductionHypothesis
      rw [List.foldr_cons, split] at member
      unfold prepend at member
      split at member
      · rcases List.mem_cons.mp member with rfl | later
        · exact List.not_mem_nil
        · exact inductionHypothesis later
      · rename_i different
        rcases List.mem_cons.mp member with rfl | later
        · exact List.not_mem_cons_of_ne_of_not_mem (Ne.symm different)
            (inductionHypothesis List.mem_cons_self)
        · exact inductionHypothesis (List.mem_cons_of_mem first later)

end Splitting

/-- A path is split at each of its slashes on its own. -/
theorem segments_slash (front back : String) :
    segments (front ++ "/" ++ back) = segments front ++ segments back := by
  have characters : (front ++ "/" ++ back).toList = front.toList ++ '/' :: back.toList := by
    rw [String.toList_append, String.toList_append, List.append_assoc]
    rfl
  have slash :
      prepend '/' (back.toList.foldr prepend [[]]) = [] :: back.toList.foldr prepend [[]] :=
    if_pos rfl
  unfold segments
  rw [characters, List.foldr_append, List.foldr_cons, slash, split_slash, List.map_append]

/-- A name without slashes is its only segment. -/
theorem segments_of_noSlash
    {name : String}
    (noSlash : '/' ∉ name.toList) :
    segments name = [name] := by
  rw [segments, split_of_noSlash noSlash, List.map_singleton, String.ofList_toList]

/-- No segment of a path has slashes. -/
theorem noSlash_of_mem_segments
    {path segment : String}
    (member : segment ∈ segments path) :
    '/' ∉ segment.toList := by
  obtain ⟨characters, split, rfl⟩ := List.mem_map.mp member
  rw [String.toList_ofList]
  exact noSlash_of_mem_split split

/-- Taking apart undoes putting together, also in front of more text. -/
theorem segments_ofNames_append
    {names : List String}
    (noSlash : ∀ name ∈ names, '/' ∉ name.toList)
    (rest : String) :
    segments (ofNames names ++ rest) = "" :: (names ++ segments rest) := by
  have behind :
      segments (String.join (names.map (· ++ "/")) ++ rest) = names ++ segments rest := by
    induction names with
    | nil =>
        rw [List.map_nil, String.join_nil, String.empty_append, List.nil_append]
    | cons name others inductionHypothesis =>
        obtain ⟨here, later⟩ := List.forall_mem_cons.mp noSlash
        rw [List.map_cons, String.join_cons, String.append_assoc, segments_slash,
          segments_of_noSlash here, inductionHypothesis later, List.singleton_append,
          List.cons_append]
  have slash :
      ofNames names ++ rest = "" ++ "/" ++ (String.join (names.map (· ++ "/")) ++ rest) := by
    rw [ofNames, String.append_assoc, String.empty_append]
  rw [slash, segments_slash, behind]
  rfl

/-- The segments of a path made of names are those names, between two empty ones. -/
theorem segments_ofNames
    {names : List String}
    (noSlash : ∀ name ∈ names, '/' ∉ name.toList) :
    segments (ofNames names) = "" :: (names ++ [""]) := by
  have closed := segments_ofNames_append noSlash ""
  rwa [String.append_empty] at closed

section Collapsing

/-- An ordinary name goes one level down. -/
theorem collapseStep_of_ordinary
    {name : String}
    (ordinary : Ordinary name)
    (above : List String) :
    collapseStep above name = name :: above := by
  have notStill : ¬ (name = "" ∨ name = ".") :=
    not_or.mpr ⟨ordinary.nonempty, ordinary.notDot⟩
  rw [collapseStep, if_neg notStill, if_neg ordinary.notUp]

/-- Ordinary names go down one after the other. -/
theorem foldl_collapseStep_of_ordinary
    {names : List String}
    (ordinary : ∀ name ∈ names, Ordinary name)
    (above : List String) :
    names.foldl collapseStep above = names.reverse ++ above := by
  induction names generalizing above with
  | nil => rfl
  | cons name rest inductionHypothesis =>
      obtain ⟨here, later⟩ := List.forall_mem_cons.mp ordinary
      rw [List.foldl_cons, collapseStep_of_ordinary here, inductionHypothesis later,
        List.reverse_cons, List.append_assoc, List.singleton_append]

/-- What is not ordinary in a segment is not kept. -/
theorem ordinary_collapseStep
    {above : List String}
    {segment : String}
    (ordinary : ∀ name ∈ above, Ordinary name)
    (noSlash : '/' ∉ segment.toList) :
    ∀ name ∈ collapseStep above segment, Ordinary name := by
  intro name member
  unfold collapseStep at member
  split at member
  · exact ordinary name member
  · rename_i notStill
    obtain ⟨nonempty, notDot⟩ := not_or.mp notStill
    split at member
    · exact ordinary name (List.mem_of_mem_tail member)
    · rename_i notUp
      rcases List.mem_cons.mp member with rfl | earlier
      · exact ⟨nonempty, notDot, notUp, noSlash⟩
      · exact ordinary name earlier

/-- What is collapsed consists of ordinary names. -/
theorem ordinary_foldl_collapseStep
    {segments above : List String}
    (ordinary : ∀ name ∈ above, Ordinary name)
    (noSlash : ∀ segment ∈ segments, '/' ∉ segment.toList) :
    ∀ name ∈ segments.foldl collapseStep above, Ordinary name := by
  induction segments generalizing above with
  | nil => exact ordinary
  | cons segment rest inductionHypothesis =>
      obtain ⟨here, later⟩ := List.forall_mem_cons.mp noSlash
      exact inductionHypothesis (ordinary_collapseStep ordinary here) later

/-- Only ordinary names are left of a path. -/
theorem ordinary_collapse (path : String) : ∀ name ∈ collapse path, Ordinary name := by
  intro name member
  have nothing : ∀ name ∈ ([] : List String), Ordinary name :=
    fun _ impossible => (List.not_mem_nil impossible).elim
  exact ordinary_foldl_collapseStep nothing (fun _ => noSlash_of_mem_segments) name
    (List.mem_reverse.mp member)

/-- Collapsed names have no slashes. -/
theorem noSlash_collapse (path : String) : ∀ name ∈ collapse path, '/' ∉ name.toList :=
  fun name member => (ordinary_collapse path name member).noSlash

/-- What follows a path in normal form is collapsed from the names of that path on. -/
theorem collapse_ofNames_append
    {names : List String}
    (ordinary : ∀ name ∈ names, Ordinary name)
    (rest : String) :
    collapse (ofNames names ++ rest) =
      ((segments rest).foldl collapseStep names.reverse).reverse := by
  have still : collapseStep [] "" = [] := if_pos (.inl rfl)
  rw [collapse, segments_ofNames_append fun name member => (ordinary name member).noSlash,
    List.foldl_cons, still, List.foldl_append, foldl_collapseStep_of_ordinary ordinary,
    List.append_nil]

/-- A path may be normalized before something is appended to it. -/
theorem collapse_normalize_append (path rest : String) :
    collapse (normalize path ++ rest) = collapse (path ++ "/" ++ rest) := by
  rw [normalize, collapse_ofNames_append (ordinary_collapse path), collapse, collapse,
    List.reverse_reverse, segments_slash, List.foldl_append]

/-- Normalizing does not change where a path leads. -/
theorem collapse_normalize (path : String) : collapse (normalize path) = collapse path := by
  have still : ∀ above, collapseStep above "" = above := fun above => if_pos (.inl rfl)
  have ended := collapse_normalize_append path ""
  rw [String.append_empty] at ended
  rw [ended, collapse, segments_slash, List.foldl_append]
  exact congrArg List.reverse (still _)

end Collapsing

/-- Collapsing a second time changes nothing. -/
theorem normalize_normalize (path : String) : normalize (normalize path) = normalize path :=
  congrArg ofNames (collapse_normalize path)

/-- Whether a path is collapsed before or after more is added to it makes no difference. -/
theorem normalize_normalize_append (path rest : String) :
    normalize (normalize path ++ rest) = normalize (path ++ "/" ++ rest) :=
  congrArg ofNames (collapse_normalize_append path rest)

/-- The root is normal. -/
theorem normalize_root : normalize "/" = "/" := by
  decide

/-- Normal paths are absolute. -/
theorem isAbsolute_normalize (path : String) : isAbsolute (normalize path) = true := by
  simp [isAbsolute, normalize, ofNames]

/-- Behind a slash, names end in a slash again. -/
theorem exists_slash_join
    (names : List String)
    (head : String) :
    ∃ front, head ++ "/" ++ String.join (names.map (· ++ "/")) = front ++ "/" := by
  induction names generalizing head with
  | nil =>
      refine ⟨head, ?_⟩
      rw [List.map_nil, String.join_nil, String.append_empty]
  | cons name rest inductionHypothesis =>
      obtain ⟨front, ended⟩ := inductionHypothesis (head ++ "/" ++ name)
      refine ⟨front, ?_⟩
      rw [List.map_cons, String.join_cons, ← ended]
      simp only [String.append_assoc]

/-- Normal paths end in a slash. -/
theorem endsInSlash_normalize (path : String) : endsInSlash (normalize path) = true := by
  obtain ⟨front, ended⟩ := exists_slash_join (collapse path) ""
  rw [String.empty_append] at ended
  rw [normalize, ofNames, ended]
  simp [endsInSlash]

/-- The segments of a normal path are its names, between two empty ones. -/
theorem segments_normalize (path : String) :
    segments (normalize path) = "" :: (collapse path ++ [""]) :=
  segments_ofNames (noSlash_collapse path)

/-- The names of a path in normal form are those that the path leads to. -/
theorem names_normalize (path : String) : names (normalize path) = collapse path := by
  have kept : (collapse path).filter (· ≠ "") = collapse path :=
    List.filter_eq_self.mpr fun name member =>
      decide_eq_true (ordinary_collapse path name member).nonempty
  rw [names, segments_normalize, List.filter_cons_of_neg (by simp), List.filter_append, kept]
  simp

end Path

end Handheld
