import Handheld.CommandLine.KeyScript
import Handheld.Numeral
import Mathlib.Logic.Basic

namespace Handheld

/-!
# Decimal numbers

A text is read as a number when it is an optional sign and one or more digits of
a value in range. The decimal text of a word is read back as the word, and every
other text that is read as the same word is longer.
-/

namespace KeyScript

/-- A decimal digit. -/
def IsDigit (character : Char) : Prop :=
  '0' ≤ character ∧ character ≤ '9'

instance : DecidablePred IsDigit := fun character =>
  inferInstanceAs (Decidable ('0' ≤ character ∧ character ≤ '9'))

/-- The largest amount of a number with or without a minus sign. -/
def amountBound (negative : Bool) : Nat :=
  if negative then 2147483648 else 2147483647

/-- The number of an amount with or without a minus sign. -/
def signed
    (negative : Bool)
    (amount : Nat) :
    Int :=
  if negative then -amount else amount

/-- What may stand in front of the digits, and whether it makes the number negative. -/
inductive Mark : List Char → Bool → Prop where
  | none : Mark [] false
  | plus : Mark ['+'] false
  | minus : Mark ['-'] true

section Reading

/-- A digit stands for less than ten. -/
theorem IsDigit.amount_lt
    {character : Char}
    (digit : IsDigit character) :
    character.toNat - '0'.toNat < 10 := by
  have high : character.toNat ≤ '9'.toNat := digit.2
  change character.toNat ≤ 57 at high
  change character.toNat - 48 < 10
  omega

/-- A digit is the one that is printed for its amount. -/
theorem IsDigit.digitChar_amount
    {character : Char}
    (digit : IsDigit character) :
    Nat.digitChar (character.toNat - '0'.toNat) = character := by
  have low : '0'.toNat ≤ character.toNat := digit.1
  have below := digit.amount_lt
  apply Char.toNat_inj.mp
  rw [Nat.toNat_digitChar_of_lt_ten below]
  exact Nat.add_sub_cancel' low

/-- Digits behind a number do not make it smaller. -/
theorem le_ofDigitChars
    (digits : List Char)
    (start : Nat) :
    start ≤ Nat.ofDigitChars 10 digits start := by
  rw [Nat.ofDigitChars_eq_ofDigitChars_zero]
  have positive : 1 ≤ 10 ^ digits.length := Nat.one_le_pow _ _ (by decide)
  have scaled := Nat.mul_le_mul_right start positive
  omega

/-- A digit makes the amount ten times as large and adds to it, as long as it stays in range. -/
theorem readDigits_cons
    {character : Char}
    (digit : IsDigit character)
    (negative : Bool)
    (start : Nat)
    (rest : List Char) :
    readDigits negative (signed negative start) (character :: rest) =
      if 10 * start + (character.toNat - '0'.toNat) ≤ amountBound negative then
        readDigits negative (signed negative (10 * start + (character.toNat - '0'.toNat))) rest
      else
        .error (if negative then .tooSmall else .tooLarge) := by
  have least : '0'.toNat ≤ character.toNat := digit.1
  have cast : (character.toNat : Int) - '0'.toNat = (character.toNat - '0'.toNat : Nat) :=
    (Int.ofNat_sub least).symm
  rw [readDigits, if_pos (And.intro digit.1 digit.2), cast]
  generalize character.toNat - '0'.toNat = added
  cases negative with
  | false =>
      have next : (start : Int) * 10 + added = signed false (10 * start + added) := by
        change _ = ((10 * start + added : Nat) : Int)
        omega
      change (if (start : Int) * 10 + added > 2147483647 then Except.error .tooLarge
        else readDigits false (start * 10 + added) rest) = _
      rw [next, ← ite_not]
      refine if_congr ?_ rfl rfl
      change ¬((10 * start + added : Nat) : Int) > _ ↔ _ ≤ 2147483647
      omega
  | true =>
      have next : -(start : Int) * 10 - added = signed true (10 * start + added) := by
        change _ = -((10 * start + added : Nat) : Int)
        omega
      change (if -(start : Int) * 10 - added < -2147483648 then Except.error .tooSmall
        else readDigits true (-start * 10 - added) rest) = _
      rw [next, ← ite_not]
      refine if_congr ?_ rfl rfl
      change ¬-((10 * start + added : Nat) : Int) < _ ↔ _ ≤ 2147483648
      omega

/-- Anything but a digit is refused where it stands. -/
theorem readDigits_of_not_isDigit
    {character : Char}
    (other : ¬IsDigit character)
    (negative : Bool)
    (value : Int)
    (rest : List Char) :
    readDigits negative value (character :: rest) = .error .invalidDigit :=
  if_neg other

/-- Reading digits behind an amount succeeds with the number they spell, if it is in range. -/
theorem readDigits_eq_ok_iff
    {negative : Bool}
    {start : Nat}
    {digits : List Char}
    {value : Int}
    (inRange : start ≤ amountBound negative) :
    readDigits negative (signed negative start) digits = .ok value ↔
      (∀ character ∈ digits, IsDigit character) ∧
        Nat.ofDigitChars 10 digits start ≤ amountBound negative ∧
        value = signed negative (Nat.ofDigitChars 10 digits start) := by
  induction digits generalizing start with
  | nil =>
      simp [readDigits, Nat.ofDigitChars_nil, inRange, eq_comm]
  | cons character rest inductionHypothesis =>
      rw [Nat.ofDigitChars_cons, List.forall_mem_cons]
      by_cases digit : IsDigit character
      · rw [readDigits_cons digit]
        split
        case isTrue within => rw [inductionHypothesis within, and_iff_right digit]
        case isFalse beyond =>
          have larger :=
            le_ofDigitChars rest (10 * start + (character.toNat - '0'.toNat))
          constructor
          · intro stopped
            cases stopped
          · rintro ⟨-, within, -⟩
            exact (beyond (Nat.le_trans larger within)).elim
      · rw [readDigits_of_not_isDigit digit]
        constructor
        · intro stopped
          cases stopped
        · rintro ⟨⟨isDigit, -⟩, -⟩
          exact (digit isDigit).elim

/-- The digits of a number are read with the sign in front of them. -/
theorem readNumber_append
    {mark : List Char}
    {negative : Bool}
    (marked : Mark mark negative)
    {digits : List Char}
    (nonempty : digits ≠ [])
    (areDigits : ∀ character ∈ digits, IsDigit character) :
    readNumber (mark ++ digits) = readDigits negative (signed negative 0) digits := by
  cases digits with
  | nil => exact (nonempty rfl).elim
  | cons character rest =>
      cases marked with
      | minus => rfl
      | plus => rfl
      | none =>
          -- A digit is no sign, so nothing is taken off the text.
          have digit : IsDigit character := areDigits character List.mem_cons_self
          have notMinus : character ≠ '-' := by
            rintro rfl
            exact absurd digit (by decide)
          have notPlus : character ≠ '+' := by
            rintro rfl
            exact absurd digit (by decide)
          rw [List.nil_append, readNumber]
          · rfl
          all_goals simp [notMinus, notPlus]

/-- An optional sign and at least one digit, of a value in range. -/
inductive Spells : List Char → Int → Prop where
  | intro
      {mark digits : List Char}
      {negative : Bool}
      (marked : Mark mark negative)
      (nonempty : digits ≠ [])
      (areDigits : ∀ character ∈ digits, IsDigit character)
      (inRange : Nat.ofDigitChars 10 digits 0 ≤ amountBound negative) :
      Spells (mark ++ digits) (signed negative (Nat.ofDigitChars 10 digits 0))

/-- A value that was read is spelled by the mark and the digits. -/
theorem spells_of_readDigits
    {mark digits : List Char}
    {negative : Bool}
    {value : Int}
    (marked : Mark mark negative)
    (nonempty : digits ≠ [])
    (read : readDigits negative (signed negative 0) digits = .ok value) :
    Spells (mark ++ digits) value := by
  obtain ⟨areDigits, inRange, rfl⟩ := (readDigits_eq_ok_iff (Nat.zero_le _)).mp read
  exact .intro marked nonempty areDigits inRange

/-- What is read as a number is what spells it. -/
theorem readNumber_eq_ok_iff
    {text : List Char}
    {value : Int} :
    readNumber text = .ok value ↔ Spells text value := by
  constructor
  · intro read
    unfold readNumber at read
    split at read
    case h_1 => cases read
    case h_2 => cases read
    case h_3 => cases read
    case h_4 digits alone =>
      exact spells_of_readDigits .minus alone read
    case h_5 digits alone =>
      exact spells_of_readDigits .plus alone read
    case h_6 nonempty _ _ _ _ => exact spells_of_readDigits .none nonempty read
  · rintro ⟨marked, nonempty, areDigits, inRange⟩
    rw [readNumber_append marked nonempty areDigits]
    exact (readDigits_eq_ok_iff (Nat.zero_le _)).mpr ⟨areDigits, inRange, rfl⟩

end Reading

section Shortest

/-- A printed number consists of digits. -/
theorem isDigit_of_mem_toDigits
    {amount : Nat}
    {character : Char}
    (member : character ∈ Nat.toDigits 10 amount) :
    IsDigit character := by
  have isDigit := Nat.isDigit_of_mem_toDigits (by decide) (by decide) member
  exact Char.isDigit_iff_toNat.mp isDigit

/-- Digits behind the digits of an amount, which has no zero in front, are printed as they are. -/
theorem toDigits_append
    {digits : List Char}
    {start : Nat}
    (positive : 0 < start)
    (areDigits : ∀ character ∈ digits, IsDigit character) :
    Nat.toDigits 10 start ++ digits = Nat.toDigits 10 (Nat.ofDigitChars 10 digits start) := by
  induction digits generalizing start with
  | nil => rw [List.append_nil, Nat.ofDigitChars_nil]
  | cons character rest inductionHypothesis =>
      obtain ⟨digit, others⟩ := List.forall_mem_cons.mp areDigits
      have printed :
          Nat.toDigits 10 start ++ [character] =
            Nat.toDigits 10 (10 * start + (character.toNat - '0'.toNat)) := by
        rw [← Nat.toDigits_append_toDigits (by decide) positive digit.amount_lt,
          Nat.toDigits_of_lt_base digit.amount_lt, digit.digitChar_amount]
      rw [Nat.ofDigitChars_cons, ← inductionHypothesis (by omega) others, ← printed,
        List.append_assoc]
      rfl

variable
  {digits : List Char}
  (nonempty : digits ≠ [])
  (areDigits : ∀ character ∈ digits, IsDigit character)

include nonempty areDigits

/-- The digits that are printed for an amount are the shortest that spell it. -/
theorem eq_toDigits_or_longer :
    digits = Nat.toDigits 10 (Nat.ofDigitChars 10 digits 0) ∨
      (Nat.toDigits 10 (Nat.ofDigitChars 10 digits 0)).length < digits.length := by
  induction digits with
  | nil => exact (nonempty rfl).elim
  | cons character rest inductionHypothesis =>
      obtain ⟨digit, others⟩ := List.forall_mem_cons.mp areDigits
      rw [Nat.ofDigitChars_cons, Nat.mul_zero, Nat.zero_add]
      have printed : [character] = Nat.toDigits 10 (character.toNat - '0'.toNat) := by
        rw [Nat.toDigits_of_lt_base digit.amount_lt, digit.digitChar_amount]
      rcases Nat.eq_zero_or_pos (character.toNat - '0'.toNat) with zero | positive
      · -- A zero in front spells nothing and is printed only where it stands alone.
        rw [zero] at printed ⊢
        cases rest with
        | nil => exact .inl printed
        | cons next later =>
            rcases inductionHypothesis (List.cons_ne_nil _ _) others with same | longer
            · exact .inr (Nat.lt_succ_of_le (Nat.le_of_eq (congrArg List.length same.symm)))
            · exact .inr (Nat.lt_succ_of_lt longer)
      · rw [← toDigits_append positive others, ← printed]
        exact .inl rfl

/-- No digits are shorter than the printed number that they spell. -/
theorem length_toDigits_le :
    (Nat.toDigits 10 (Nat.ofDigitChars 10 digits 0)).length ≤ digits.length := by
  rcases eq_toDigits_or_longer nonempty areDigits with same | longer
  · exact Nat.le_of_eq (congrArg List.length same.symm)
  · exact Nat.le_of_lt longer

end Shortest

section Printing

/-- An integer in decimal. -/
def printed (number : Int) : List Char :=
  (toString number).toList

theorem printed_natCast (amount : Nat) : printed amount = Nat.toDigits 10 amount :=
  Nat.toList_repr

theorem printed_neg
    {amount : Nat}
    (positive : 0 < amount) :
    printed (-amount) = '-' :: Nat.toDigits 10 amount := by
  have negative : ¬0 ≤ -(amount : Int) := by omega
  unfold printed
  rw [Int.toString_eq_repr, Int.repr_eq_if, if_neg negative, Int.neg_neg, Int.toNat_natCast,
    String.toList_append, Nat.toList_repr]
  rfl

/-- A number in range is spelled by what is printed for it. -/
theorem spells_printed
    {number : Int}
    (low : -2147483648 ≤ number)
    (high : number ≤ 2147483647) :
    Spells (printed number) number := by
  have spells :
      ∀ {mark negative} (amount : Nat),
        Mark mark negative →
        amount ≤ amountBound negative →
        Spells (mark ++ Nat.toDigits 10 amount) (signed negative amount) := by
    intro mark negative amount marked inRange
    have nonempty : Nat.toDigits 10 amount ≠ [] := Nat.toDigits_ne_nil
    have spelled := Spells.intro marked nonempty fun _ => isDigit_of_mem_toDigits
    rw [Nat.ofDigitChars_ten_toDigits] at spelled
    exact spelled inRange
  rcases Int.lt_or_le number 0 with negative | nonnegative
  · obtain ⟨amount, rfl⟩ := Int.exists_eq_neg_ofNat (Int.le_of_lt negative)
    rw [printed_neg (by omega)]
    exact spells amount .minus (by change _ ≤ 2147483648; omega)
  · obtain ⟨amount, rfl⟩ := Int.eq_ofNat_of_zero_le nonnegative
    rw [printed_natCast]
    exact spells amount .none (by change _ ≤ 2147483647; omega)

/-- Every text that spells a number is what is printed for it, or longer. -/
theorem Spells.eq_printed_or_longer
    {text : List Char}
    {number : Int}
    (spells : Spells text number) :
    text = printed number ∨ (printed number).length < text.length := by
  obtain ⟨marked, nonempty, areDigits, -⟩ := spells
  have shortest := eq_toDigits_or_longer nonempty areDigits
  have noLonger := length_toDigits_le nonempty areDigits
  generalize Nat.ofDigitChars 10 _ 0 = amount at shortest noLonger ⊢
  cases marked with
  | none =>
      change _ = printed amount ∨ (printed amount).length < _
      rw [printed_natCast]
      exact shortest
  | plus =>
      change _ = printed amount ∨ (printed amount).length < _
      rw [printed_natCast]
      exact .inr (Nat.lt_succ_of_le noLonger)
  | minus =>
      -- Zero may be written with a minus sign, but is printed without one.
      rcases Nat.eq_zero_or_pos amount with rfl | positive
      · exact .inr (Nat.lt_succ_of_le noLonger)
      · change _ = printed (-amount) ∨ (printed (-amount)).length < _
        rw [printed_neg positive]
        exact shortest.imp (congrArg _) Nat.succ_lt_succ

end Printing

end KeyScript

namespace Word

variable (word : Word)

/-- The decimal text of a word is read back as the word. -/
theorem readNumber_decimal : KeyScript.readNumber word.decimal.toList = .ok word.toInt :=
  KeyScript.readNumber_eq_ok_iff.mpr (KeyScript.spells_printed word.le_toInt word.toInt_le)

/-- Every other text that is read as the word is longer than its decimal text. -/
theorem eq_decimal_or_longer
    {text : String}
    (read : KeyScript.readNumber text.toList = .ok word.toInt) :
    text = word.decimal ∨ word.decimal.length < text.length := by
  rw [← String.toList_inj, ← String.length_toList, ← String.length_toList]
  exact (KeyScript.readNumber_eq_ok_iff.mp read).eq_printed_or_longer

end Word

end Handheld
