import Handheld.Proofs.Machine.Step
import Handheld.Proofs.Memory.Strings
import Handheld.Proofs.Memory.TypedAccess

namespace Handheld

/-!
# Searching and comparing strings

What the functions answer that only look at strings. Two strings are compared at
the first place where they differ, the shorter one continued by its NUL, so the
sign of the answer is the order of a dictionary over unsigned bytes. A string is
searched for in another from its start on, and a byte up to and including the NUL,
so both find the first occurrence.
-/

/-- The first place at which two lists of bytes differ. -/
structure FirstDifference
    (left right : List UInt8)
    (place : Nat)
    (leftByte rightByte : UInt8) : Prop where
  leftHere : left[place]? = some leftByte
  rightHere : right[place]? = some rightByte
  same : left.take place = right.take place
  differ : leftByte ≠ rightByte

/-- A byte in front of both strings moves their first difference one place on. -/
theorem FirstDifference.cons
    {left right : List UInt8}
    {place : Nat}
    {leftByte rightByte : UInt8}
    (difference : FirstDifference left right place leftByte rightByte)
    (byte : UInt8) :
    FirstDifference (byte :: left) (byte :: right) (place + 1) leftByte rightByte where
  leftHere := difference.leftHere
  rightHere := difference.rightHere
  same := congrArg (byte :: ·) difference.same
  differ := difference.differ

/-- A text occurs in another behind so many bytes, and nowhere before. -/
structure FirstOccurs
    (wanted text : List UInt8)
    (skipped : Nat) : Prop where
  here : wanted <+: text.drop skipped
  first : ∀ earlier < skipped, ¬ wanted <+: text.drop earlier

/-- An occurrence starts in the text or right behind it. -/
theorem FirstOccurs.le_length
    {wanted text : List UInt8}
    {skipped : Nat}
    (occurs : FirstOccurs wanted text skipped) :
    skipped ≤ text.length := by
  apply Nat.le_of_not_lt
  intro behind
  have nothing : text.drop skipped = text.drop text.length := by
    rw [List.drop_length, List.drop_of_length_le (Nat.le_of_lt behind)]
  exact occurs.first text.length behind (nothing ▸ occurs.here)

section Words

/-- A byte becomes a word without a sign. -/
theorem Word.toInt_ofByte (byte : UInt8) : (Word.ofByte byte).toInt = byte.toNat := by
  have small := byte.toNat_lt
  exact Word.toInt_ofBits (by omega)

/-- The difference of two bytes does not wrap around. -/
theorem Word.toInt_ofByte_sub (left right : UInt8) :
    (Word.ofByte left - Word.ofByte right).toInt = left.toNat - right.toNat := by
  have leftSmall := left.toNat_lt
  have rightSmall := right.toNat_lt
  rw [Int32.toInt_sub, Word.toInt_ofByte, Word.toInt_ofByte]
  exact Int.bmod_eq_of_le (by omega) (by omega)

end Words

namespace Machine

section Comparing

variable {left right : List UInt8}

/-- A string does not differ from itself. -/
theorem compareStrings_self (text : List UInt8) : compareStrings text text = 0 := by
  induction text with
  | nil => rfl
  | cons byte rest inductionHypothesis => rw [compareStrings, if_pos rfl, inductionHypothesis]

/-- Texts that differ compare by their first difference, where a text ends with its NUL. -/
theorem exists_firstDifference
    (leftNoNul : 0 ∉ left)
    (rightNoNul : 0 ∉ right)
    (differ : left ≠ right) :
    ∃ place leftByte rightByte,
      FirstDifference (left ++ [0]) (right ++ [0]) place leftByte rightByte ∧
        (compareStrings left right).toInt = leftByte.toNat - rightByte.toNat := by
  fun_induction compareStrings left right with
  | case1 => exact (differ rfl).elim
  | case2 byte rest =>
      have notNul : 0 ≠ byte := fun same => rightNoNul (same ▸ List.mem_cons_self)
      exact ⟨0, 0, byte, ⟨rfl, rfl, rfl, notNul⟩, Word.toInt_ofByte_sub 0 byte⟩
  | case3 byte rest =>
      have notNul : byte ≠ 0 := fun same => leftNoNul (same ▸ List.mem_cons_self)
      refine ⟨0, byte, 0, ⟨rfl, rfl, rfl, notNul⟩, ?_⟩
      rw [Word.toInt_ofByte]
      exact (Int.sub_zero _).symm
  | case4 lefts byte rights inductionHypothesis =>
      have leftLater : 0 ∉ lefts := fun member => leftNoNul (List.mem_cons_of_mem _ member)
      have rightLater : 0 ∉ rights := fun member => rightNoNul (List.mem_cons_of_mem _ member)
      have differLater : lefts ≠ rights := fun same => differ (same ▸ rfl)
      obtain ⟨place, leftByte, rightByte, difference, value⟩ :=
        inductionHypothesis leftLater rightLater differLater
      exact ⟨place + 1, leftByte, rightByte, difference.cons byte, value⟩
  | case5 leftByte lefts rightByte rights other =>
      exact ⟨0, leftByte, rightByte, ⟨rfl, rfl, rfl, other⟩, Word.toInt_ofByte_sub _ _⟩

/-- Comparing the other way around gives the opposite answer. -/
theorem toInt_compareStrings_swap (left right : List UInt8) :
    (compareStrings right left).toInt = -(compareStrings left right).toInt := by
  fun_induction compareStrings left right with
  | case1 => rfl
  | case2 byte rest =>
      have negative := Word.toInt_ofByte_sub 0 byte
      change (Word.ofByte byte).toInt = -(Word.ofByte 0 - Word.ofByte byte).toInt
      rw [negative, Word.toInt_ofByte]
      exact (Int.neg_sub _ _).trans (Int.sub_zero _) |>.symm
  | case3 byte rest =>
      change (Word.ofByte 0 - Word.ofByte byte).toInt = _
      rw [Word.toInt_ofByte_sub, Word.toInt_ofByte]
      exact Int.zero_sub _
  | case4 lefts byte rights inductionHypothesis =>
      rw [compareStrings, if_pos rfl, inductionHypothesis]
  | case5 leftByte lefts rightByte rights other =>
      rw [compareStrings, if_neg (Ne.symm other), Word.toInt_ofByte_sub, Word.toInt_ofByte_sub,
        Int.neg_sub]

/-- The answer is negative just when the first text comes first in a dictionary. -/
theorem toInt_compareStrings_neg_iff (rightNoNul : 0 ∉ right) :
    (compareStrings left right).toInt < 0 ↔ List.Lex (· < ·) left right := by
  fun_induction compareStrings left right with
  | case1 => exact ⟨fun negative => absurd negative (by decide), nofun⟩
  | case2 byte rest =>
      have notNul : byte ≠ 0 := fun same => rightNoNul (same ▸ List.mem_cons_self)
      have positive : byte.toNat ≠ 0 := fun zero => notNul (UInt8.toNat_inj.mp zero)
      have value := Word.toInt_ofByte_sub 0 byte
      refine ⟨fun _ => .nil, fun _ => ?_⟩
      change (Word.ofByte 0 - Word.ofByte byte).toInt < 0
      rw [value]
      change (0 : Int) - byte.toNat < 0
      omega
  | case3 byte rest =>
      rw [Word.toInt_ofByte]
      exact ⟨fun negative => by omega, nofun⟩
  | case4 lefts byte rights inductionHypothesis =>
      have rightLater : 0 ∉ rights := fun member => rightNoNul (List.mem_cons_of_mem _ member)
      rw [inductionHypothesis rightLater, List.cons_lex_cons_iff]
      constructor
      · exact fun later => .inr ⟨rfl, later⟩
      · rintro (less | ⟨-, later⟩)
        · exact (UInt8.lt_irrefl _ less).elim
        · exact later
  | case5 leftByte lefts rightByte rights other =>
      rw [Word.toInt_ofByte_sub, List.cons_lex_cons_iff, UInt8.lt_iff_toNat_lt]
      constructor
      · exact fun negative => .inl (by omega)
      · rintro (less | ⟨same, -⟩)
        · omega
        · exact (other same).elim

/-- What comparing two strings answers. -/
structure Compares
    (left right : List UInt8)
    (answer : Int) : Prop where
  zero_iff : answer = 0 ↔ left = right
  difference :
    left ≠ right →
    ∃ place leftByte rightByte,
      FirstDifference (left ++ [0]) (right ++ [0]) place leftByte rightByte ∧
        answer = leftByte.toNat - rightByte.toNat
  negative_iff : answer < 0 ↔ List.Lex (· < ·) left right
  positive_iff : 0 < answer ↔ List.Lex (· < ·) right left

/-- The comparison gives the difference of the first bytes that differ. -/
theorem compares_compareStrings
    (leftNoNul : 0 ∉ left)
    (rightNoNul : 0 ∉ right) :
    Compares left right (compareStrings left right).toInt where
  zero_iff := by
    constructor
    · intro zero
      apply Decidable.byContradiction
      intro differ
      obtain ⟨place, leftByte, rightByte, difference, value⟩ :=
        exists_firstDifference leftNoNul rightNoNul differ
      have same : leftByte.toNat = rightByte.toNat := by omega
      exact difference.differ (UInt8.toNat_inj.mp same)
    · rintro rfl
      rw [compareStrings_self]
      rfl
  difference := exists_firstDifference leftNoNul rightNoNul
  negative_iff := toInt_compareStrings_neg_iff rightNoNul
  positive_iff := by
    rw [← toInt_compareStrings_neg_iff leftNoNul, toInt_compareStrings_swap]
    omega

end Comparing

section Finding

variable {wanted text : List UInt8}

/-- What is found is an occurrence, and none is earlier. -/
theorem firstOccurs_of_occurrence?
    {skipped found : Nat}
    (occurs : occurrence? wanted skipped text = some found) :
    ∃ offset, found = skipped + offset ∧ FirstOccurs wanted text offset := by
  fun_induction occurrence? wanted skipped text with
  | case1 skipped empty =>
      cases occurs
      exact ⟨0, rfl, empty ▸ List.nil_prefix, nofun⟩
  | case2 => cases occurs
  | case3 skipped byte rest starts =>
      cases occurs
      exact ⟨0, rfl, List.isPrefixOf_iff_prefix.mp starts, nofun⟩
  | case4 skipped byte rest elsewhere inductionHypothesis =>
      obtain ⟨offset, rfl, later⟩ := inductionHypothesis occurs
      refine ⟨offset + 1, by omega, later.here, ?_⟩
      intro earlier before
      cases earlier with
      | zero => exact fun starts => elsewhere (List.isPrefixOf_iff_prefix.mpr starts)
      | succ earlier => exact later.first earlier (Nat.lt_of_succ_lt_succ before)

/-- Where there is an occurrence, one is found. -/
theorem occurrence?_ne_none
    {offset : Nat}
    (here : wanted <+: text.drop offset)
    (skipped : Nat) :
    occurrence? wanted skipped text ≠ none := by
  induction text generalizing skipped offset with
  | nil =>
      rw [List.drop_nil] at here
      rw [occurrence?, if_pos (List.prefix_nil.mp here)]
      exact Option.some_ne_none _
  | cons byte rest inductionHypothesis =>
      rw [occurrence?]
      split
      case isTrue => exact Option.some_ne_none _
      case isFalse elsewhere =>
        cases offset with
        | zero => exact (elsewhere (List.isPrefixOf_iff_prefix.mpr here)).elim
        | succ offset => exact inductionHypothesis here (skipped + 1)

/-- A search gives the first occurrence. -/
theorem occurrence?_of_firstOccurs
    {offset : Nat}
    (occurs : FirstOccurs wanted text offset) :
    occurrence? wanted 0 text = some offset := by
  obtain ⟨found, searched⟩ :=
    Option.ne_none_iff_exists'.mp (occurrence?_ne_none occurs.here 0)
  obtain ⟨other, rfl, first⟩ := firstOccurs_of_occurrence? searched
  rw [searched, Nat.zero_add]
  rcases Nat.lt_trichotomy other offset with before | rfl | behind
  · exact (occurs.first other before first.here).elim
  · rfl
  · exact (first.first offset behind occurs.here).elim

/-- Where there is none, none is found. -/
theorem occurrence?_eq_none (nowhere : ∀ offset, ¬ wanted <+: text.drop offset) :
    occurrence? wanted 0 text = none := by
  rcases searched : occurrence? wanted 0 text with _ | found
  · rfl
  · obtain ⟨offset, -, occurs⟩ := firstOccurs_of_occurrence? searched
    exact (nowhere offset occurs.here).elim

end Finding

section Answering

/-- A step that puts a number in the place of two values on the stack and changes nothing else. -/
def Answers
    (machine : Machine)
    (values : List Word)
    (answer : Int) : Prop :=
  ∃ word stack,
    word.toInt = answer ∧
      stack.toList = values ++ [word] ∧
      machine.step = (.ok false, { machine with pc := machine.pc + 1, stack := stack })

variable
  {machine : Machine}
  {values : List Word}
  {first second : Word}
  (running : machine.finished = false)
  (shown : machine.stack.toList = values ++ [first, second])

include running shown

/-- Behind its two arguments an answer finds room on the stack. -/
theorem answers_of_outcome
    {function : Builtin}
    (answer : Word)
    (current : machine.opcode? = some (.builtin function))
    (asks :
      ∀ middle stack,
        (machine.skip 1).stack.pop = .ok (second, middle) →
        middle.pop = .ok (first, stack) →
        (machine.skip 1).outcome (call function) =
          { machine.skip 1 with stack := stack }.outcome (push answer)) :
    machine.Answers values answer.toInt := by
  obtain ⟨middle, rest, popped, poppedNext, kept⟩ := DataStack.exists_popTwo shown
  obtain ⟨stack, pushed, after⟩ :=
    DataStack.exists_push (DataStack.length_lt_of_pop poppedNext) answer
  have pushedLater : { machine.skip 1 with stack := rest }.stack.push answer = .ok stack := pushed
  have stepped :
      machine.step =
        (.ok machine.finished, { machine with pc := machine.pc + 1, stack := stack }) := by
    rw [step_of_opcode running current]
    change conclude ((machine.skip 1).outcome (call function)) = _
    rw [asks middle rest popped poppedNext, outcome_push pushedLater]
    rfl
  exact ⟨answer, stack, rfl, kept ▸ after,
    stepped.trans (Prod.ext (congrArg Except.ok running) rfl)⟩

variable
  {text other : List UInt8}
  (firstHere : machine.ram.string? first.address = some text)

include firstHere

/-- Comparing two strings in memory answers how they compare. -/
theorem answers_stringCompare
    (current : machine.opcode? = some (.builtin .stringCompare))
    (secondHere : machine.ram.string? second.address = some other) :
    machine.Answers values (compareStrings text other).toInt := by
  apply answers_of_outcome running shown _ current
  intro middle stack popped poppedNext
  have readFirst :
      { machine.skip 1 with stack := stack }.outcome (stringAt first.address) =
        (.ok text, { machine.skip 1 with stack := stack }) :=
    outcome_stringAt firstHere
  have readSecond :
      { machine.skip 1 with stack := stack }.outcome (stringAt second.address) =
        (.ok other, { machine.skip 1 with stack := stack }) :=
    outcome_stringAt secondHere
  change (machine.skip 1).outcome stringCompare = _
  unfold stringCompare
  rw [outcome_popAddresses popped poppedNext, outcome_bind_of_ok readFirst,
    outcome_bind_of_ok readSecond]

/-- Finding a string answers the address of the occurrence, or zero. -/
theorem answers_stringFind
    (current : machine.opcode? = some (.builtin .stringFind))
    (secondHere : machine.ram.string? second.address = some other) :
    machine.Answers values
      ((occurrence? other 0 text).elim 0 fun skipped =>
        Word.ofBits (first.address + skipped)).toInt := by
  apply answers_of_outcome running shown _ current
  intro middle stack popped poppedNext
  have readFirst :
      { machine.skip 1 with stack := stack }.outcome (stringAt first.address) =
        (.ok text, { machine.skip 1 with stack := stack }) :=
    outcome_stringAt firstHere
  have readSecond :
      { machine.skip 1 with stack := stack }.outcome (stringAt second.address) =
        (.ok other, { machine.skip 1 with stack := stack }) :=
    outcome_stringAt secondHere
  change (machine.skip 1).outcome stringFind = _
  unfold stringFind
  rw [outcome_popAddresses popped poppedNext, outcome_bind_of_ok readFirst,
    outcome_bind_of_ok readSecond]
  cases occurrence? other 0 text with
  | _ => rfl

omit firstHere in
/-- Finding a byte answers its address, or zero when the NUL comes first. -/
theorem answers_stringFindChar
    (current : machine.opcode? = some (.builtin .stringFindChar))
    {found : Nat}
    (searched :
      machine.ram.find? second.lowByte first.address (Ram.capacity - first.address) =
        some found) :
    machine.Answers values
      (if machine.ram.byte found = second.lowByte then Word.ofBits found else 0).toInt := by
  apply answers_of_outcome running shown _ current
  intro middle stack popped poppedNext
  have popFirst :
      { machine.skip 1 with stack := middle }.outcome popAddress =
        (.ok first.address, { machine.skip 1 with stack := stack }) :=
    outcome_popAddress poppedNext
  have sameRam : { machine.skip 1 with stack := stack }.ram = machine.ram := rfl
  change (machine.skip 1).outcome stringFindChar = _
  unfold stringFindChar
  rw [outcome_bind_of_ok (outcome_pop popped), outcome_bind_of_ok popFirst,
    outcome_bind_of_ok (outcome_inRam _ _), sameRam, searched]
  dsimp only
  rw [outcome_bind_of_ok (outcome_inRam _ _), sameRam]
  split
  · rfl
  · rfl

end Answering

/-- The first address of a range at which memory holds a byte. -/
structure FirstHolds
    (ram : Ram)
    (byte : UInt8)
    (start last found : Nat) : Prop where
  above : start ≤ found
  below : found ≤ last
  here : ram.byte found = byte
  first :
    ∀ earlier,
      start ≤ earlier →
      earlier < found →
      ram.byte earlier ≠ byte

section Searching

variable
  {ram : Ram}
  {address : Nat}
  {text : List UInt8}
  {byte : UInt8}
  (holds : ram.HoldsString address text)

include holds

/-- A search for a byte comes to its first occurrence in a string, the NUL included. -/
theorem find?_of_firstHolds
    {found : Nat}
    (occurs : FirstHolds ram byte address (address + text.length) found) :
    ram.find? byte address (Ram.capacity - address) = some found := by
  have fits := holds.fits
  have above := occurs.above
  have below := occurs.below
  apply Ram.find?_eq_some_iff.mpr
  refine ⟨⟨above, by omega⟩, .inl occurs.here, ?_⟩
  intro earlier low high
  obtain ⟨offset, rfl⟩ := Nat.exists_eq_add_of_le low
  exact ⟨occurs.first _ low high, holds.byte_ne_zero (by omega)⟩

/-- A search for a byte that does not occur in a string comes to the NUL. -/
theorem find?_of_absent
    (absent : ∀ place, address ≤ place → place ≤ address + text.length → ram.byte place ≠ byte) :
    ram.find? byte address (Ram.capacity - address) = some (address + text.length) := by
  have fits := holds.fits
  apply Ram.find?_eq_some_iff.mpr
  refine ⟨⟨Nat.le_add_right _ _, by omega⟩, .inr holds.nul, ?_⟩
  intro earlier low high
  obtain ⟨offset, rfl⟩ := Nat.exists_eq_add_of_le low
  exact ⟨absent _ low (Nat.le_of_lt high), holds.byte_ne_zero (by omega)⟩

end Searching

/--
Questions about strings are answered as they are meant.

Comparing two strings answers zero just when they are equal, and otherwise the
difference of the first unsigned bytes that differ, the shorter string continued
by its NUL; the sign is the order of a dictionary, and swapped arguments give the
opposite answer. Searching for a string answers the address of its first
occurrence, which for the empty string is the start, and zero if there is none.
Searching for a byte answers the first address at which it stands, up to and
including the NUL, or else zero. None of them changes anything else.
-/
theorem string_questions_exact
    (machine : Machine)
    (values : List Word)
    (first second : Word)
    (text : List UInt8)
    (running : machine.finished = false)
    (shown : machine.stack.toList = values ++ [first, second])
    (firstHere : machine.ram.string? first.address = some text) :
    (∀ other,
      machine.opcode? = some (.builtin .stringCompare) →
      machine.ram.string? second.address = some other →
      ∃ answer,
        machine.Answers values answer ∧
          Compares text other answer ∧
          ∀ (swapped : Machine) (below : List Word),
            swapped.finished = false →
            swapped.opcode? = some (.builtin .stringCompare) →
            swapped.ram = machine.ram →
            swapped.stack.toList = below ++ [second, first] →
            swapped.Answers below (-answer)) ∧
    (∀ wanted,
      machine.opcode? = some (.builtin .stringFind) →
      machine.ram.string? second.address = some wanted →
      (∀ skipped,
        FirstOccurs wanted text skipped →
        machine.Answers values (first.address + skipped)) ∧
      (wanted = [] → machine.Answers values first.address) ∧
      ((∀ skipped, ¬ wanted <+: text.drop skipped) → machine.Answers values 0)) ∧
    (machine.opcode? = some (.builtin .stringFindChar) →
      (∀ found,
        FirstHolds machine.ram second.lowByte
          first.address (first.address + text.length) found →
        machine.Answers values found) ∧
      ((∀ place,
          first.address ≤ place →
          place ≤ first.address + text.length →
          machine.ram.byte place ≠ second.lowByte) →
        machine.Answers values 0)) := by
  have holds := Ram.string?_eq_some_iff.mp firstHere
  have fits : first.address + text.length < 0x10000 := holds.fits
  refine ⟨?_, ?_, ?_⟩
  · intro other current secondHere
    have otherHolds := Ram.string?_eq_some_iff.mp secondHere
    refine ⟨_, answers_stringCompare running shown firstHere current secondHere,
      compares_compareStrings holds.noNul otherHolds.noNul, ?_⟩
    intro swapped below swappedRunning swappedCurrent sameRam swappedShown
    rw [← toInt_compareStrings_swap]
    rw [← sameRam] at firstHere secondHere
    exact answers_stringCompare swappedRunning swappedShown secondHere swappedCurrent firstHere
  · intro wanted current secondHere
    have answered := answers_stringFind running shown firstHere current secondHere
    have found :
        ∀ skipped,
          FirstOccurs wanted text skipped →
          machine.Answers values (first.address + skipped) := by
      intro skipped occurs
      have near : skipped ≤ text.length := occurs.le_length
      rw [occurrence?_of_firstOccurs occurs] at answered
      change machine.Answers values (Word.ofBits (first.address + skipped)).toInt at answered
      rwa [Word.toInt_ofBits (by omega)] at answered
    refine ⟨found, ?_, ?_⟩
    · rintro rfl
      have start : (first.address : Int) + (0 : Nat) = first.address := Int.add_zero _
      rw [← start]
      exact found 0 ⟨List.nil_prefix, nofun⟩
    · intro nowhere
      rwa [occurrence?_eq_none nowhere] at answered
  · intro current
    refine ⟨?_, ?_⟩
    · intro found occurs
      have below := occurs.below
      have answered :=
        answers_stringFindChar running shown current (find?_of_firstHolds holds occurs)
      rwa [if_pos occurs.here, Word.toInt_ofBits (by omega)] at answered
    · intro absent
      have answered := answers_stringFindChar running shown current (find?_of_absent holds absent)
      have notNul : machine.ram.byte (first.address + text.length) ≠ second.lowByte :=
        absent _ (Nat.le_add_right _ _) (Nat.le_refl _)
      rwa [if_neg notNul] at answered

/-- A machine about to search for a string that at first only seems to occur. -/
def searching : Machine where
  device := { ram := (Ram.blank.writeString 0x10 [7, 8, 7, 8, 9]).writeString 0x20 [7, 8, 9] }
  files := { store := { host := {}, root := [] } }
  code := #[0xa9]
  pc := 0
  stack := { slots := #[0x10, 0x20], top := 2, top_le := by decide }
  finished := false

theorem later_occurrence_found : searching.Answers [] 0x12 := by
  have wantedHolds : searching.ram.HoldsString 0x20 [7, 8, 9] :=
    Ram.holdsString_written (by decide) (by decide)
  have written :
      (Ram.blank.writeString 0x10 [7, 8, 7, 8, 9]).HoldsString 0x10 [7, 8, 7, 8, 9] :=
    Ram.holdsString_written (by decide) (by decide)
  have textHolds : searching.ram.HoldsString 0x10 [7, 8, 7, 8, 9] :=
    written.of_sameOutside (Ram.sameOutside_writeString (by decide)) (.inl (by decide))
  obtain ⟨-, finding, -⟩ :=
    string_questions_exact searching [] 0x10 0x20 [7, 8, 7, 8, 9] rfl rfl
      (Ram.string?_eq_some_iff.mpr textHolds)
  obtain ⟨found, -, -⟩ :=
    finding [7, 8, 9] (by decide) (Ram.string?_eq_some_iff.mpr wantedHolds)
  exact found 2 ⟨by decide, by decide⟩

end Machine

end Handheld
