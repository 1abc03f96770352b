import Handheld.Proofs.Text.Decimals

namespace Handheld

/-!
# Lines of keys

A key script is what stands between its line feeds. A line of nothing but blank
space stands for no key, and a line with a number that may have blank space
around it stands for the number. A script is read exactly when each of its lines
is one of the two, and then gives the numbers in their order. Otherwise what is
reported is the first line that is neither.
-/

namespace KeyScript

/-- Nothing but blank space. -/
def Blank (text : List Char) : Prop :=
  ∀ character ∈ text, isBlank character = true

/-- A number that may have blank space around it. -/
inductive KeyLine : List Char → Int → Prop where
  | intro
      {front number back : List Char}
      {key : Int}
      (blankFront : Blank front)
      (spells : Spells number key)
      (blankBack : Blank back) :
      KeyLine (front ++ number ++ back) key

/-- Lines that stand for numbers, one a line except for blank lines. -/
inductive Script : List (List Char) → List Int → Prop where
  | nil : Script [] []
  | blank
      {line : List Char}
      {rest : List (List Char)}
      {keys : List Int}
      (blank : Blank line)
      (later : Script rest keys) :
      Script (line :: rest) keys
  | key
      {line : List Char}
      {rest : List (List Char)}
      {key : Int}
      {keys : List Int}
      (first : KeyLine line key)
      (later : Script rest keys) :
      Script (line :: rest) (key :: keys)

/-- Neither a blank line nor a number. -/
def Offends (line : List Char) : Prop :=
  ¬Blank line ∧ ∀ key, ¬KeyLine line key

/-- Words, each printed on a line of its own, with blank space and blank lines put in. -/
inductive Printed : List Word → List (List Char) → Prop where
  | nil : Printed [] []
  | blank
      {words : List Word}
      {line : List Char}
      {rest : List (List Char)}
      (blank : Blank line)
      (whole : '\n' ∉ line)
      (later : Printed words rest) :
      Printed words (line :: rest)
  | word
      {word : Word}
      {words : List Word}
      {front back : List Char}
      {rest : List (List Char)}
      (blankFront : Blank front)
      (blankBack : Blank back)
      (whole : '\n' ∉ front ++ back)
      (later : Printed words rest) :
      Printed (word :: words) ((front ++ word.decimal.toList ++ back) :: rest)

section Trimming

theorem blank_of_all
    {text : List Char}
    (all : text.all isBlank = true) :
    Blank text :=
  List.all_eq_true.mp all

/-- A digit is not blank. -/
theorem IsDigit.isBlank_eq_false
    {character : Char}
    (digit : IsDigit character) :
    isBlank character = false := by
  have low : 48 ≤ character.toNat := digit.1
  have high : character.toNat ≤ 57 := digit.2
  simp only [isBlank, Bool.or_eq_false_iff, Bool.and_eq_false_iff, decide_eq_false_iff_not,
    beq_eq_false_iff_ne]
  omega

/-- No character of a number is blank space. -/
theorem Spells.isBlank_eq_false
    {text : List Char}
    {number : Int}
    (spells : Spells text number)
    {character : Char}
    (member : character ∈ text) :
    isBlank character = false := by
  obtain ⟨marked, -, areDigits, -⟩ := spells
  rcases List.mem_append.mp member with inMark | inDigits
  · cases marked with
    | none => cases inMark
    | plus =>
        rw [List.mem_singleton.mp inMark]
        decide
    | minus =>
        rw [List.mem_singleton.mp inMark]
        decide
  · exact (areDigits character inDigits).isBlank_eq_false

/-- Text without blanks loses nothing when leading blanks are dropped. -/
theorem dropWhile_eq_self
    {text : List Char}
    (solid : ∀ character ∈ text, isBlank character = false) :
    text.dropWhile isBlank = text := by
  cases text with
  | nil => rfl
  | cons first rest =>
      have notBlank : ¬isBlank first = true := by
        rw [solid first List.mem_cons_self]
        decide
      exact List.dropWhile_cons_of_neg notBlank

/-- Trimming takes the blank space off a text that has none inside. -/
theorem trim_append
    {front text back : List Char}
    (blankFront : Blank front)
    (solid : ∀ character ∈ text, isBlank character = false)
    (blankBack : Blank back) :
    trim (front ++ text ++ back) = text := by
  have solidReverse : ∀ character ∈ text.reverse, isBlank character = false := by
    intro character member
    exact solid character (List.mem_reverse.mp member)
  have blankReverse : ∀ character ∈ back.reverse, isBlank character = true := by
    intro character member
    exact blankBack character (List.mem_reverse.mp member)
  unfold trim
  rw [List.append_assoc, List.dropWhile_append_of_pos blankFront]
  cases text with
  | nil =>
      have nothing : (back ++ []).dropWhile isBlank = [] :=
        List.dropWhile_append_of_pos blankBack
      rw [List.append_nil] at nothing
      rw [List.nil_append, nothing]
      rfl
  | cons first rest =>
      have notBlank : ¬isBlank first = true := by
        rw [solid first List.mem_cons_self]
        decide
      rw [List.cons_append, List.dropWhile_cons_of_neg notBlank, ← List.cons_append,
        List.reverse_append, List.dropWhile_append_of_pos blankReverse,
        dropWhile_eq_self solidReverse, List.reverse_reverse]

/-- What trimming takes off is blank space. -/
theorem exists_trim (text : List Char) :
    ∃ front back, Blank front ∧ Blank back ∧ text = front ++ trim text ++ back := by
  have blankTaken : ∀ taken : List Char, Blank (taken.takeWhile isBlank) := by
    intro taken
    exact blank_of_all List.all_takeWhile
  have inFront : text.takeWhile isBlank ++ text.dropWhile isBlank = text :=
    List.takeWhile_append_dropWhile
  have behind :
      trim text ++ ((text.dropWhile isBlank).reverse.takeWhile isBlank).reverse =
        text.dropWhile isBlank := by
    unfold trim
    rw [← List.reverse_append, List.takeWhile_append_dropWhile, List.reverse_reverse]
  refine ⟨_, _, blankTaken text, ?_, by rw [List.append_assoc, behind, inFront]⟩
  intro character member
  exact blankTaken _ character (List.mem_reverse.mp member)

/-- Nothing is left of a line exactly when it is blank. -/
theorem trim_eq_nil_iff {text : List Char} : trim text = [] ↔ Blank text := by
  constructor
  · intro nothing
    obtain ⟨front, back, blankFront, blankBack, whole⟩ := exists_trim text
    rw [nothing, List.append_nil] at whole
    rw [whole]
    intro character member
    exact (List.mem_append.mp member).elim (blankFront character) (blankBack character)
  · intro blank
    have trimmed := trim_append blank (List.forall_mem_nil _) (List.forall_mem_nil _)
    simpa using trimmed

/-- A line is a number when what is left of it by trimming is read as the number. -/
theorem keyLine_iff
    {line : List Char}
    {key : Int} :
    KeyLine line key ↔ readNumber (trim line) = .ok key := by
  rw [readNumber_eq_ok_iff]
  constructor
  · rintro ⟨blankFront, spells, blankBack⟩
    rwa [trim_append blankFront (fun _ => spells.isBlank_eq_false) blankBack]
  · intro spells
    obtain ⟨front, back, blankFront, blankBack, whole⟩ := exists_trim line
    rw [whole]
    exact .intro blankFront spells blankBack

/-- A line with a key is not blank. -/
theorem KeyLine.not_blank
    {line : List Char}
    {key : Int}
    (isKey : KeyLine line key) :
    ¬Blank line := by
  intro blank
  have read := keyLine_iff.mp isKey
  rw [trim_eq_nil_iff.mpr blank] at read
  cases read

end Trimming

section Lines

/-- The lines of a text are what stands between its line feeds. -/
theorem lines_eq_splitOn (text : String) : lines text = text.toList.splitOn '\n' := by
  unfold lines
  induction text.toList with
  | nil => rfl
  | cons character rest inductionHypothesis =>
      rw [List.foldr_cons, inductionHypothesis, List.splitOn_cons_eq_if_modifyHead]
      unfold prepend
      by_cases ends : character = '\n'
      · rw [if_pos ends, if_pos (beq_iff_eq.mpr ends)]
      · rw [if_neg ends, if_neg (mt beq_iff_eq.mp ends)]
        cases whole : rest.splitOn '\n' with
        | nil => exact (List.splitOn_ne_nil _ _ whole).elim
        | cons first others => rfl

/-- A blank line is passed over, but counted. -/
theorem readLines_blank
    {line : List Char}
    (blank : Blank line)
    (number : Nat)
    (rest : List (List Char)) :
    readLines number (line :: rest) = readLines (number + 1) rest :=
  if_pos (trim_eq_nil_iff.mpr blank)

/-- A line with a key gives that key. -/
theorem readLines_key
    {line : List Char}
    {key : Int}
    (isKey : KeyLine line key)
    (number : Nat)
    (rest : List (List Char)) :
    readLines number (line :: rest) =
      (readLines (number + 1) rest).map (Int32.ofInt key :: ·) := by
  rw [readLines, if_neg (mt trim_eq_nil_iff.mp isKey.not_blank), keyLine_iff.mp isKey]

/-- The first line that is neither is reported with its number. -/
theorem readLines_offends
    {line : List Char}
    (offends : Offends line)
    (number : Nat)
    (rest : List (List Char)) :
    ∃ cause,
      readLines number (line :: rest) =
        .error { line := number, text := String.ofList (trim line), cause := cause } := by
  cases read : readNumber (trim line) with
  | ok key => exact (offends.2 key (keyLine_iff.mpr read)).elim
  | error cause =>
      refine ⟨cause, ?_⟩
      rw [readLines, if_neg (mt trim_eq_nil_iff.mp offends.1), read]

/-- A line that does not offend can stand in front of lines that stand for numbers. -/
theorem Script.exists_cons
    {line : List Char}
    {rest : List (List Char)}
    {keys : List Int}
    (fits : ¬Offends line)
    (later : Script rest keys) :
    ∃ more, Script (line :: rest) more := by
  by_cases blank : Blank line
  · exact ⟨keys, .blank blank later⟩
  · have isKey : ∃ key, KeyLine line key :=
      not_forall_not.mp (not_and.mp fits blank)
    obtain ⟨key, isKey⟩ := isKey
    exact ⟨key :: keys, .key isKey later⟩

/-- Lines stand for numbers, or one of them is the first that does not. -/
theorem script_or_offends (lines : List (List Char)) :
    (∃ keys, Script lines keys) ∨
      ∃ earlier line later keys,
        lines = earlier ++ line :: later ∧ Script earlier keys ∧ Offends line := by
  induction lines with
  | nil => exact .inl ⟨[], .nil⟩
  | cons first rest inductionHypothesis =>
      by_cases offends : Offends first
      · exact .inr ⟨[], first, rest, [], rfl, .nil, offends⟩
      · rcases inductionHypothesis with ⟨keys, script⟩ | ⟨earlier, line, later, keys, whole⟩
        · exact .inl (script.exists_cons offends)
        · obtain ⟨rfl, script, laterOffends⟩ := whole
          obtain ⟨more, longer⟩ := script.exists_cons offends
          exact .inr ⟨first :: earlier, line, later, more, rfl, longer, laterOffends⟩

variable
  {lines : List (List Char)}
  {keys : List Int}

/-- None of the lines that stand for numbers offends. -/
theorem Script.not_offends (script : Script lines keys) : ∀ line ∈ lines, ¬Offends line := by
  induction script with
  | nil => exact List.forall_mem_nil _
  | blank blank _ inductionHypothesis =>
      refine List.forall_mem_cons.mpr ⟨?_, inductionHypothesis⟩
      intro offends
      exact offends.1 blank
  | key first _ inductionHypothesis =>
      refine List.forall_mem_cons.mpr ⟨?_, inductionHypothesis⟩
      intro offends
      exact offends.2 _ first

/-- Lines that stand for numbers are read as the words of the numbers. -/
theorem readLines_of_script
    (script : Script lines keys)
    (number : Nat) :
    readLines number lines = .ok (keys.map Int32.ofInt) := by
  induction script generalizing number with
  | nil => rfl
  | blank blank _ inductionHypothesis => rw [readLines_blank blank, inductionHypothesis]
  | key first _ inductionHypothesis =>
      rw [readLines_key first, inductionHypothesis]
      rfl

/-- Behind lines that stand for numbers, a line that does not is reported with its place. -/
theorem readLines_append_offends
    (script : Script lines keys)
    {line : List Char}
    (offends : Offends line)
    (later : List (List Char))
    (number : Nat) :
    ∃ cause,
      readLines number (lines ++ line :: later) = .error {
        line := number + lines.length
        text := String.ofList (trim line)
        cause := cause
      } := by
  induction script generalizing number with
  | nil => exact readLines_offends offends number later
  | blank blank _ inductionHypothesis =>
      obtain ⟨cause, reported⟩ := inductionHypothesis (number + 1)
      refine ⟨cause, ?_⟩
      rw [List.cons_append, readLines_blank blank, reported, List.length_cons, Nat.add_assoc,
        Nat.add_comm 1]
  | key first _ inductionHypothesis =>
      obtain ⟨cause, reported⟩ := inductionHypothesis (number + 1)
      refine ⟨cause, ?_⟩
      rw [List.cons_append, readLines_key first, reported, List.length_cons, Nat.add_assoc,
        Nat.add_comm 1]
      rfl

/-- A number in range is the value of its word. -/
theorem toInt_ofInt_signed
    {negative : Bool}
    {amount : Nat}
    (inRange : amount ≤ amountBound negative) :
    (Int32.ofInt (signed negative amount)).toInt = signed negative amount := by
  cases negative with
  | false =>
      change amount ≤ 2147483647 at inRange
      change (Int32.ofInt amount).toInt = amount
      exact Int32.toInt_ofInt_of_le (by omega) (by omega)
  | true =>
      change amount ≤ 2147483648 at inRange
      change (Int32.ofInt (-amount)).toInt = -amount
      exact Int32.toInt_ofInt_of_le (by omega) (by omega)

/-- The numbers that lines stand for are those of their words. -/
theorem Script.toInt_ofInt (script : Script lines keys) :
    (keys.map Int32.ofInt).map Int32.toInt = keys := by
  induction script with
  | nil => rfl
  | blank _ _ inductionHypothesis => exact inductionHypothesis
  | key first _ inductionHypothesis =>
      obtain ⟨-, ⟨-, -, -, inRange⟩, -⟩ := first
      rw [List.map_cons, List.map_cons, inductionHypothesis, toInt_ofInt_signed inRange]

end Lines

section Parsing

/-- Either all lines of a script stand for numbers, or the first that does not is reported. -/
theorem parse_cases (text : String) :
    (∃ numbers,
      Script (text.toList.splitOn '\n') numbers ∧
        parse text = .ok (numbers.map Int32.ofInt)) ∨
      ∃ earlier line later numbers cause,
        text.toList.splitOn '\n' = earlier ++ line :: later ∧
          Script earlier numbers ∧
          Offends line ∧
          parse text = .error {
            line := earlier.length + 1
            text := String.ofList (trim line)
            cause := cause
          } := by
  unfold parse
  rw [lines_eq_splitOn]
  rcases script_or_offends (text.toList.splitOn '\n') with ⟨numbers, script⟩ | refused
  · exact .inl ⟨numbers, script, readLines_of_script script 1⟩
  · obtain ⟨earlier, line, later, numbers, whole, script, offends⟩ := refused
    obtain ⟨cause, reported⟩ := readLines_append_offends script offends later 1
    rw [← whole, Nat.add_comm] at reported
    exact .inr ⟨earlier, line, later, numbers, cause, whole, script, offends, reported⟩

/-- A script is read exactly when its lines stand for the numbers of the words. -/
theorem parse_eq_ok_iff
    {text : String}
    {keys : List Word} :
    parse text = .ok keys ↔ Script (text.toList.splitOn '\n') (keys.map Int32.toInt) := by
  constructor
  · intro read
    rcases parse_cases text with ⟨numbers, script, answer⟩ | ⟨_, _, _, _, _, _, _, _, answer⟩
    · rw [answer] at read
      cases read
      rwa [script.toInt_ofInt]
    · rw [answer] at read
      cases read
  · intro script
    unfold parse
    rw [lines_eq_splitOn, readLines_of_script script, List.map_map]
    exact congrArg Except.ok (List.map_id'' Int32.ofInt_toInt keys)

/-- A printed word spells its value. -/
theorem spells_decimal (word : Word) : Spells word.decimal.toList word.toInt :=
  spells_printed word.le_toInt word.toInt_le

/-- A printed word stays in one line. -/
theorem newline_not_mem_decimal (word : Word) : '\n' ∉ word.decimal.toList := by
  intro member
  exact absurd ((spells_decimal word).isBlank_eq_false member) (by decide)

variable
  {words : List Word}
  {rows : List (List Char)}

/-- Printed keys are the script of their values. -/
theorem Printed.script (prints : Printed words rows) : Script rows (words.map Int32.toInt) := by
  induction prints with
  | nil => exact .nil
  | blank blank _ _ inductionHypothesis => exact .blank blank inductionHypothesis
  | @word word _ _ _ _ blankFront blankBack _ _ inductionHypothesis =>
      exact .key (.intro blankFront (spells_decimal word) blankBack) inductionHypothesis

/-- Printed keys stay in one line each. -/
theorem Printed.newline_not_mem (prints : Printed words rows) : ∀ row ∈ rows, '\n' ∉ row := by
  induction prints with
  | nil => exact List.forall_mem_nil _
  | blank _ whole _ inductionHypothesis =>
      exact List.forall_mem_cons.mpr ⟨whole, inductionHypothesis⟩
  | @word word _ _ _ _ _ _ whole _ inductionHypothesis =>
      refine List.forall_mem_cons.mpr ⟨?_, inductionHypothesis⟩
      have printedWhole := newline_not_mem_decimal word
      simp only [List.mem_append, not_or] at whole ⊢
      exact ⟨⟨whole.1, printedWhole⟩, whole.2⟩

/-- The rows of a print, with a line feed between them, are its lines. -/
theorem Printed.script_splitOn (prints : Printed words rows) :
    Script ((['\n'].intercalate rows).splitOn '\n') (words.map Int32.toInt) := by
  cases rows with
  | nil =>
      -- No row at all is the empty text, which has one empty line.
      cases prints
      exact .blank (List.forall_mem_nil _) .nil
  | cons first others =>
      rw [List.splitOn_intercalate '\n' prints.newline_not_mem (List.cons_ne_nil _ _)]
      exact prints.script

/-- A script is read exactly when none of its lines offends, and then gives the numbers
of its lines in their order. Otherwise the first line that offends is reported with its
place. Words that are printed one a line are read back. -/
theorem scripts_read_exactly :
    (∀ text : String,
      ((∃ keys, parse text = .ok keys) ↔ ∀ line ∈ text.toList.splitOn '\n', ¬Offends line) ∧
        (∀ keys,
          parse text = .ok keys ↔ Script (text.toList.splitOn '\n') (keys.map Int32.toInt)) ∧
        ∀ refusal,
          parse text = .error refusal →
            ∃ earlier line later numbers,
              text.toList.splitOn '\n' = earlier ++ line :: later ∧
                Script earlier numbers ∧
                Offends line ∧
                refusal.line = earlier.length + 1 ∧
                refusal.message =
                  "line " ++ toString (earlier.length + 1) ++ ": '" ++
                    String.ofList (trim line) ++ "': " ++ refusal.cause.message) ∧
      ∀ words rows,
        Printed words rows →
          parse (String.ofList (['\n'].intercalate rows)) = .ok words := by
  refine ⟨fun text => ⟨⟨?_, ?_⟩, fun keys => parse_eq_ok_iff, ?_⟩, ?_⟩
  · rintro ⟨keys, read⟩
    exact (parse_eq_ok_iff.mp read).not_offends
  · intro fits
    rcases parse_cases text with ⟨_, _, answer⟩ | ⟨_, line, _, _, _, whole, _, offends, _⟩
    · exact ⟨_, answer⟩
    · have member : line ∈ text.toList.splitOn '\n' := by
        rw [whole]
        exact List.mem_append_right _ List.mem_cons_self
      exact (fits line member offends).elim
  · intro refusal refused
    rcases parse_cases text with ⟨_, _, answer⟩ | offending
    · rw [answer] at refused
      cases refused
    · obtain ⟨earlier, line, later, numbers, cause, whole, script, offends, answer⟩ := offending
      rw [answer] at refused
      cases refused
      exact ⟨earlier, line, later, numbers, whole, script, offends, rfl, rfl⟩
  · intro words rows prints
    rw [parse_eq_ok_iff, String.toList_ofList]
    exact prints.script_splitOn

theorem sample_scripts_read :
    parse " -2147483648\r\n\n2147483647" = .ok [-2147483648, 2147483647] ∧
      parse "13\n\nenter\n" = .error { line := 3, text := "enter", cause := .invalidDigit } ∧
      ∃ earlier line later,
        "13\n\nenter\n".toList.splitOn '\n' = earlier ++ line :: later ∧
          Offends line ∧
          3 = earlier.length + 1 := by
  have prints :
      Printed [-2147483648, 2147483647]
        [[' '] ++ (Word.decimal (-2147483648)).toList ++ ['\r'], [],
          [] ++ (Word.decimal 2147483647).toList ++ []] := by
    refine .word (blank_of_all rfl) (blank_of_all rfl) (by decide) ?_
    refine .blank (blank_of_all rfl) (by decide) ?_
    exact .word (blank_of_all rfl) (blank_of_all rfl) (by decide) .nil
  have refused :
      parse "13\n\nenter\n" = .error { line := 3, text := "enter", cause := .invalidDigit } :=
    rfl
  have read := scripts_read_exactly.2 _ _ prints
  obtain ⟨earlier, line, later, -, whole, -, offends, place, -⟩ :=
    (scripts_read_exactly.1 "13\n\nenter\n").2.2 _ refused
  exact ⟨read, refused, earlier, line, later, whole, offends, place⟩

end Parsing

end KeyScript

end Handheld
