import Mathlib.Data.List.Induction
import Handheld.Proofs.Image.Layout
import Handheld.Proofs.Machine.Outcome
import Handheld.Proofs.Memory.LittleEndian

namespace Handheld

/-!
# Labels

A jump or call to a label leaves three bytes open, and when the program is
complete they are filled in with the place of the label. Filling in reads and
writes the same code over and over, so this module shows that the open bytes of
two instructions never meet: each is filled in once, with the last place of its
label, and all other bytes stay as they were emitted. Where a label is missing,
the first instruction that names it is reported.
-/

/-- The label that a directive jumps to or calls. -/
def Directive.usedLabel? : Directive → Option String
  | .toLabel _ name => some name
  | _ => none

namespace Builder

/-- The builder that has carried out a program. -/
def written (program : List Directive) : Builder :=
  program.foldl add {}

/-- A program is written one directive after the other. -/
theorem written_append_singleton
    (program : List Directive)
    (directive : Directive) :
    written (program ++ [directive]) = (written program).add directive := by
  unfold written
  rw [List.foldl_append]
  rfl

/-- A directive moves the position over its bytes. -/
theorem position_add
    (builder : Builder)
    (directive : Directive) :
    (builder.add directive).position =
      builder.position + (encode builder.factor directive).length := by
  unfold position
  rw [← Array.length_toList, code_add, List.length_append, Array.length_toList]

section Places

/-- Only a label of that name changes what the name stands for. -/
theorem labels_add_of_ne
    {builder : Builder}
    {directive : Directive}
    {name : String}
    (other : directive ≠ .label name) :
    (builder.add directive).labels.lookup name = builder.labels.lookup name := by
  cases directive with
  | label found =>
      have different : (name == found) = false := by
        apply beq_false_of_ne
        rintro rfl
        exact other rfl
      change List.lookup name ((found, builder.position) :: builder.labels) = _
      rw [List.lookup_cons, different]
  | _ => rfl

/-- A label stands for the place at which it was written. -/
theorem labels_add_label
    (builder : Builder)
    (name : String) :
    (builder.add (.label name)).labels.lookup name = some builder.position :=
  List.lookup_cons_self

/-- A label is known exactly when it has been placed. -/
theorem lookup_written_eq_none_iff
    {program : List Directive}
    {name : String} :
    (written program).labels.lookup name = none ↔ .label name ∉ program := by
  induction program using List.reverseRecOn with
  | nil => simp [written]
  | append_singleton earlier directive inductionHypothesis =>
      rw [written_append_singleton]
      by_cases here : directive = .label name
      · subst here
        simp [labels_add_label]
      · rw [labels_add_of_ne here, inductionHypothesis]
        simp [Ne.symm here]

/-- The last place of a label counts. -/
theorem lookup_written
    {earlier later : List Directive}
    {name : String}
    (last : .label name ∉ later) :
    (written (earlier ++ .label name :: later)).labels.lookup name =
      some (written earlier).position := by
  induction later using List.reverseRecOn with
  | nil => rw [written_append_singleton, labels_add_label]
  | append_singleton between directive inductionHypothesis =>
      rw [List.mem_append, List.mem_singleton, not_or] at last
      rw [← List.cons_append, ← List.append_assoc, written_append_singleton,
        labels_add_of_ne (Ne.symm last.2), inductionHypothesis last.1]

end Places

section Open

/-- An operand that names a label is noted to be filled in. -/
theorem pending_add_toLabel
    (builder : Builder)
    (kind : LabelUse)
    (name : String) :
    (builder.add (.toLabel kind name)).pending = (builder.position + 1, name) :: builder.pending :=
  rfl

/-- The labels of the open addresses are those that the program names, in its order. -/
theorem map_pending_written (program : List Directive) :
    (written program).pending.reverse.map Prod.snd = program.filterMap Directive.usedLabel? := by
  induction program using List.reverseRecOn with
  | nil => rfl
  | append_singleton earlier directive inductionHypothesis =>
      rw [written_append_singleton, List.filterMap_append, ← inductionHypothesis]
      cases directive with
      | toLabel kind name =>
          rw [pending_add_toLabel, List.reverse_cons, List.map_append]
          rfl
      | _ => exact (List.append_nil _).symm

/-- An instruction that names a label leaves the bytes behind its opcode open. -/
theorem mem_pending_written
    {before after : List Directive}
    {kind : LabelUse}
    {name : String} :
    ((written before).position + 1, name) ∈
      (written (before ++ .toLabel kind name :: after)).pending := by
  induction after using List.reverseRecOn with
  | nil =>
      rw [written_append_singleton, pending_add_toLabel]
      exact List.mem_cons_self
  | append_singleton between directive inductionHypothesis =>
      rw [← List.cons_append, ← List.append_assoc, written_append_singleton]
      cases directive with
      | toLabel => exact List.mem_cons_of_mem _ inductionHypothesis
      | _ => exact inductionHypothesis

/-- Every open address belongs to an instruction of the program. -/
theorem exists_of_mem_pending
    {program : List Directive}
    {operand : Nat × String}
    (member : operand ∈ (written program).pending) :
    ∃ before kind name after,
      program = before ++ .toLabel kind name :: after ∧
        operand = ((written before).position + 1, name) := by
  induction program using List.reverseRecOn with
  | nil => cases member
  | append_singleton earlier directive inductionHypothesis =>
      have extended :
          operand ∈ (written earlier).pending →
          ∃ before kind name after,
            earlier ++ [directive] = before ++ .toLabel kind name :: after ∧
              operand = ((written before).position + 1, name) := by
        intro older
        obtain ⟨before, kind, name, after, rfl, same⟩ := inductionHypothesis older
        exact ⟨before, kind, name, after ++ [directive], by simp, same⟩
      rw [written_append_singleton] at member
      cases directive with
      | toLabel kind name =>
          rcases List.mem_cons.mp member with newest | older
          · exact ⟨earlier, kind, name, [], rfl, newest⟩
          · exact extended older
      | _ => exact extended member

/-- The open bytes lie in the code, and those of two instructions do not meet. -/
structure Spaced (builder : Builder) : Prop where
  inside : ∀ operand ∈ builder.pending, operand.1 + 3 ≤ builder.position
  apart : builder.pending.Pairwise fun later earlier => earlier.1 + 3 ≤ later.1

/-- The noted operands stay apart from each other and inside the code. -/
theorem Spaced.add
    {builder : Builder}
    (spaced : builder.Spaced)
    (directive : Directive) :
    (builder.add directive).Spaced := by
  have grown : builder.position ≤ (builder.add directive).position := by
    rw [position_add]
    exact Nat.le_add_right _ _
  have older : ∀ operand ∈ builder.pending, operand.1 + 3 ≤ (builder.add directive).position :=
    fun operand member => Nat.le_trans (spaced.inside operand member) grown
  cases directive with
  | toLabel kind name =>
      have length : (encode builder.factor (.toLabel kind name)).length = 4 := rfl
      refine ⟨?_, ?_⟩
      · intro operand member
        rcases List.mem_cons.mp member with rfl | member
        · exact Nat.le_of_eq (by rw [position_add, length])
        · exact older operand member
      · rw [pending_add_toLabel, List.pairwise_cons]
        refine ⟨?_, spaced.apart⟩
        intro operand member
        exact Nat.le_succ_of_le (spaced.inside operand member)
  | _ => exact ⟨older, spaced.apart⟩

/-- In every program the noted operands are apart. -/
theorem spaced_written (program : List Directive) : (written program).Spaced := by
  induction program using List.reverseRecOn with
  | nil => exact ⟨nofun, List.Pairwise.nil⟩
  | append_singleton earlier directive inductionHypothesis =>
      rw [written_append_singleton]
      exact inductionHypothesis.add directive

end Open

section Filling

variable
  {labels : List (String × Nat)}
  {code : Array UInt8}
  {offset target : Nat}

/-- Filling in an operand does not change the size of the code. -/
@[simp] theorem size_patch : (patch code offset target).size = code.size := by
  simp [patch]

/-- Filling in an address leaves all other bytes. -/
theorem getElem?_patch_of_outside
    {index : Nat}
    (outside : index < offset ∨ offset + 3 ≤ index) :
    (patch code offset target)[index]? = code[index]? := by
  unfold patch
  rw [Array.getElem?_setIfInBounds_ne (by omega), Array.getElem?_setIfInBounds_ne (by omega),
    Array.getElem?_setIfInBounds_ne (by omega)]

/-- A number in the code depends on its own bytes only. -/
theorem codeNumber_congr
    {other : Array UInt8}
    {count index : Nat}
    (agree : ∀ place < count, code[index + place]? = other[index + place]?) :
    Machine.codeNumber code count index = Machine.codeNumber other count index := by
  induction count generalizing index with
  | zero => rfl
  | succ rest inductionHypothesis =>
      have here : code[index]? = other[index]? := agree 0 (Nat.zero_lt_succ rest)
      have later :
          Machine.codeNumber code rest (index + 1) = Machine.codeNumber other rest (index + 1) := by
        apply inductionHypothesis
        intro place near
        rw [Nat.add_assoc, Nat.add_comm 1]
        exact agree (place + 1) (Nat.succ_lt_succ near)
      rw [Machine.codeNumber, Machine.codeNumber, later, Array.getD_eq_getD_getElem?,
        Array.getD_eq_getD_getElem?, here]

/-- The address that was filled in is read back. -/
theorem codeNumber_patch (inside : offset + 3 ≤ code.size) :
    Machine.codeNumber (patch code offset target) 3 offset = target % 0x1000000 := by
  have bounds : offset < code.size ∧ offset + 1 < code.size ∧ offset + 2 < code.size := by omega
  have low : (patch code offset target)[offset]? = some (UInt8.ofNat target) := by
    simp [patch, bounds]
  have middle : (patch code offset target)[offset + 1]? = some (UInt8.ofNat (target / 0x100)) := by
    simp [patch, bounds]
  have high : (patch code offset target)[offset + 2]? = some (UInt8.ofNat (target / 0x10000)) := by
    simp [patch, bounds]
  simp only [Machine.codeNumber, Array.getD_eq_getD_getElem?, low, middle, high, Option.getD_some,
    UInt8.toNat_ofNat']
  omega

/-- What filling in a list of open addresses makes of the code. -/
structure Filled
    (labels : List (String × Nat))
    (pending : List (Nat × String))
    (code image : Array UInt8) : Prop where
  size : image.size = code.size
  kept :
    ∀ index,
      (∀ operand ∈ pending, index < operand.1 ∨ operand.1 + 3 ≤ index) →
      image[index]? = code[index]?
  filled :
    ∀ operand ∈ pending,
      ∀ target,
        labels.lookup operand.2 = some target →
        Machine.codeNumber image 3 operand.1 = target % 0x1000000

/-- Addresses whose bytes do not meet are all filled in when their labels are known. -/
theorem exists_filled
    {pending : List (Nat × String)}
    (known : ∀ operand ∈ pending, labels.lookup operand.2 ≠ none)
    (inside : ∀ operand ∈ pending, operand.1 + 3 ≤ code.size)
    (apart : pending.Pairwise fun earlier later => earlier.1 + 3 ≤ later.1) :
    ∃ image, resolve labels code pending = .ok image ∧ Filled labels pending code image := by
  induction pending generalizing code with
  | nil => exact ⟨code, rfl, ⟨rfl, fun _ _ => rfl, nofun⟩⟩
  | cons first rest inductionHypothesis =>
      obtain ⟨offset, name⟩ := first
      obtain ⟨target, place⟩ := Option.ne_none_iff_exists'.mp (known _ List.mem_cons_self)
      obtain ⟨firstApart, restApart⟩ := List.pairwise_cons.mp apart
      have restInside :
          ∀ operand ∈ rest, operand.1 + 3 ≤ (patch code offset target).size := by
        intro operand member
        rw [size_patch]
        exact inside operand (List.mem_cons_of_mem _ member)
      obtain ⟨image, resolved, filled⟩ :=
        inductionHypothesis (fun operand member => known operand (List.mem_cons_of_mem _ member))
          restInside restApart
      refine ⟨image, ?_, filled.size.trans size_patch, ?_, ?_⟩
      · rw [resolve, place]
        exact resolved
      · intro index outside
        obtain ⟨firstOutside, restOutside⟩ := List.forall_mem_cons.mp outside
        rw [filled.kept index restOutside, getElem?_patch_of_outside firstOutside]
      · intro operand member found foundPlace
        rcases List.mem_cons.mp member with rfl | later
        · -- The addresses still to come lie behind this one, so it stays as it was filled in.
          have stays :
              Machine.codeNumber image 3 offset =
                Machine.codeNumber (patch code offset target) 3 offset := by
            apply codeNumber_congr
            intro near inOperand
            apply filled.kept
            intro operand later
            have behind := firstApart operand later
            omega
          have same : some target = some found := place.symm.trans foundPlace
          cases same
          rw [stays, codeNumber_patch (inside _ List.mem_cons_self)]
        · exact filled.filled operand later found foundPlace

/-- Filling in stops at the first label that is not known. -/
theorem resolve_eq_error_iff
    {pending : List (Nat × String)}
    {refusal : ImageRefusal} :
    resolve labels code pending = .error refusal ↔
      ∃ name,
        (pending.map Prod.snd).find? (fun name => (labels.lookup name).isNone) = some name ∧
          refusal = .undefinedLabel name := by
  induction pending generalizing code with
  | nil => simp [resolve]
  | cons first rest inductionHypothesis =>
      obtain ⟨offset, name⟩ := first
      rcases place : labels.lookup name with _ | target
      · simp [resolve, place, eq_comm]
      · simp [resolve, place, inductionHypothesis]

end Filling

/-- The first directive that names a missing label comes behind others whose labels are there. -/
theorem find?_usedLabel_eq_some_iff
    {program : List Directive}
    {missing : String → Bool}
    {name : String} :
    (program.filterMap Directive.usedLabel?).find? missing = some name ↔
      ∃ before kind after,
        program = before ++ .toLabel kind name :: after ∧
          missing name = true ∧
          ∀ otherKind otherName,
            .toLabel otherKind otherName ∈ before → missing otherName = false := by
  rw [List.find?_filterMap, Option.bind_eq_some_iff]
  constructor
  · rintro ⟨directive, found, used⟩
    obtain ⟨misses, before, after, rfl, earlier⟩ := List.find?_eq_some_iff_append.mp found
    cases directive with
    | toLabel kind usedName =>
        cases used
        refine ⟨before, kind, after, rfl, misses, ?_⟩
        intro other otherName member
        simpa [Directive.usedLabel?] using earlier _ member
    | _ => cases used
  · rintro ⟨before, kind, after, rfl, misses, earlier⟩
    refine ⟨.toLabel kind name, ?_, rfl⟩
    refine List.find?_eq_some_iff_append.mpr ⟨misses, before, after, rfl, ?_⟩
    intro directive member
    cases directive with
    | toLabel other otherName => simp [Directive.usedLabel?, earlier other otherName member]
    | _ => rfl

/-- A program is refused exactly for the first label that it names and never places. -/
theorem assemble_eq_error_iff
    {program : List Directive}
    {name : String} :
    assemble program = .error (.undefinedLabel name) ↔
      ∃ before kind after,
        program = before ++ .toLabel kind name :: after ∧
          .label name ∉ program ∧
          ∀ otherKind otherName,
            .toLabel otherKind otherName ∈ before → .label otherName ∈ program := by
  have unknown :
      ∀ used : String,
        ((written program).labels.lookup used).isNone = true ↔ .label used ∉ program := by
    intro used
    rw [Option.isNone_iff_eq_none, lookup_written_eq_none_iff]
  have known :
      ∀ used : String,
        ((written program).labels.lookup used).isNone = false ↔ .label used ∈ program := by
    intro used
    rw [← Bool.not_eq_true, unknown, Classical.not_not]
  change resolve (written program).labels (written program).code
    (written program).pending.reverse = _ ↔ _
  rw [resolve_eq_error_iff, map_pending_written]
  simp only [ImageRefusal.undefinedLabel.injEq, exists_eq_right', find?_usedLabel_eq_some_iff,
    unknown, known]

/-- Labels that are all placed are filled in. -/
theorem exists_assemble
    {program : List Directive}
    (placed : ∀ kind name, .toLabel kind name ∈ program → .label name ∈ program) :
    ∃ image,
      assemble program = .ok image ∧
        Filled (written program).labels (written program).pending.reverse
          (written program).code image := by
  have spaced := spaced_written program
  apply exists_filled
  · intro operand member unknown
    obtain ⟨before, kind, name, after, shape, rfl⟩ :=
      exists_of_mem_pending (List.mem_reverse.mp member)
    apply lookup_written_eq_none_iff.mp unknown
    apply placed kind
    rw [shape]
    exact List.mem_append_right before List.mem_cons_self
  · intro operand member
    exact spaced.inside operand (List.mem_reverse.mp member)
  · exact List.pairwise_reverse.mpr spaced.apart

/-- The position before a part of a program is no further than that of the whole. -/
theorem position_written_le
    (earlier later : List Directive) :
    (written earlier).position ≤ (written (earlier ++ later)).position := by
  induction later using List.reverseRecOn with
  | nil => exact Nat.le_of_eq (by rw [List.append_nil])
  | append_singleton between directive inductionHypothesis =>
      rw [← List.append_assoc, written_append_singleton, position_add]
      exact Nat.le_add_right_of_le inductionHypothesis

/--
Labels are resolved exactly.

A program of less than 2 ^ 24 bytes is refused exactly when it names a label that
it never places, and the first such label is told. Any other program becomes its
emitted bytes, where only the three bytes behind the opcode of each instruction
that names a label are different: fetching an address there gives the last place
of the label, wherever it stands and however many instructions name it.
-/
theorem labels_resolved
    (program : List Directive)
    (short : (written program).position < 0x1000000) :
    (∀ name,
      assemble program = .error (.undefinedLabel name) ↔
        ∃ before kind after,
          program = before ++ .toLabel kind name :: after ∧
            .label name ∉ program ∧
            ∀ otherKind otherName,
              .toLabel otherKind otherName ∈ before → .label otherName ∈ program) ∧
      ((∀ kind name, .toLabel kind name ∈ program → .label name ∈ program) →
        ∃ image,
          assemble program = .ok image ∧
            image.size = (written program).code.size ∧
            (∀ index,
              (∀ before kind name after,
                program = before ++ .toLabel kind name :: after →
                index < (written before).position + 1 ∨ (written before).position + 4 ≤ index) →
              image[index]? = (written program).code[index]?) ∧
            ∀ before kind name after earlier later,
              program = before ++ .toLabel kind name :: after →
              program = earlier ++ .label name :: later →
              .label name ∉ later →
              ∀ machine : Machine,
                machine.code = image →
                machine.pc = (written before).position + 1 →
                machine.outcome (Machine.fetch 3) =
                  (.ok (written earlier).position, machine.skip 3)) := by
  refine ⟨fun name => assemble_eq_error_iff, ?_⟩
  intro placed
  obtain ⟨image, assembled, filled⟩ := exists_assemble placed
  refine ⟨image, assembled, filled.size, ?_, ?_⟩
  · intro index outside
    apply filled.kept
    intro operand member
    obtain ⟨before, kind, name, after, shape, rfl⟩ :=
      exists_of_mem_pending (List.mem_reverse.mp member)
    exact outside before kind name after shape
  · intro before kind name after earlier later use place last machine sameCode here
    have member : ((written before).position + 1, name) ∈ (written program).pending.reverse := by
      rw [List.mem_reverse, use]
      exact mem_pending_written
    have target :
        (written program).labels.lookup name = some (written earlier).position := by
      rw [place]
      exact lookup_written last
    have bound : (written earlier).position < 0x1000000 := by
      rw [place] at short
      exact Nat.lt_of_le_of_lt (position_written_le earlier _) short
    have inside : machine.pc + 3 ≤ machine.code.size := by
      rw [here, sameCode, filled.size]
      exact (spaced_written program).inside _ (List.mem_reverse.mp member)
    rw [Machine.outcome_fetch inside, here, sameCode, filled.filled _ member _ target,
      Nat.mod_eq_of_lt bound]

/-- A program that names labels before and after their places and places one of them twice. -/
def looping : List Directive :=
  [.toLabel .jump "end", .label "loop", .toLabel .call "loop", .label "loop",
    .toLabel .jumpIfNonzero "end", .label "end", .toLabel .jumpIfZero "loop", .halt]

theorem looping_resolved :
    (∃ image,
      assemble looping = .ok image ∧
        image.size = 33 ∧
        ∀ machine : Machine,
          machine.code = image →
          machine.pc = 21 →
          machine.outcome (Machine.fetch 3) = (.ok 24, machine.skip 3)) ∧
      assemble (looping ++ [.toLabel .call "missing", .toLabel .jump "other"]) =
        .error (.undefinedLabel "missing") := by
  have placed : ∀ kind name, .toLabel kind name ∈ looping → .label name ∈ looping := by
    intro kind name member
    have used : ∀ used ∈ looping.filterMap Directive.usedLabel?, .label used ∈ looping := by decide
    exact used name (List.mem_filterMap.mpr ⟨.toLabel kind name, member, rfl⟩)
  constructor
  · obtain ⟨image, assembled, size, -, resolved⟩ :=
      (labels_resolved looping (by decide +kernel)).2 placed
    refine ⟨image, assembled, size.trans (by decide +kernel), ?_⟩
    intro machine sameCode here
    exact resolved (looping.take 2) .call "loop" (looping.drop 3) (looping.take 3)
      (looping.drop 4) rfl rfl (by decide) machine sameCode here
  · have program := labels_resolved (looping ++ [.toLabel .call "missing", .toLabel .jump "other"])
      (by decide +kernel)
    apply (program.1 "missing").mpr
    refine ⟨looping, .call, [.toLabel .jump "other"], rfl, by decide, ?_⟩
    intro kind name member
    exact List.mem_append_left _ (placed kind name member)

end Builder

end Handheld
