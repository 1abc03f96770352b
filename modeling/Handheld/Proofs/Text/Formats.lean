import Handheld.Proofs.Memory.Strings
import Handheld.Proofs.Text.Decimals
import Handheld.Text.Format

namespace Handheld

/-!
# Formats piece by piece

A format is a list of pieces that stand one after the other: bytes for themselves
and directives for an argument each. The text of a format is that of its pieces,
and the arguments that the first ones take are gone for the others. So formats
that stand one after the other expand to their texts one after the other, unless
the first one ends inside a directive.
-/

namespace Format

/-- What the bytes of a format stand for. -/
inductive Piece where
  | plain (byte : UInt8)
  | number
  | character
  | string
  | unfinished
  deriving DecidableEq, Repr

namespace Piece

/-- The piece of a percent sign and the byte behind it. -/
def ofLetter : UInt8 → Piece
  -- d
  | 0x64 => .number
  -- c
  | 0x63 => .character
  -- s
  | 0x73 => .string
  | letter => .plain letter

/-- The directives take an argument. -/
def takes : Piece → Bool
  | .number | .character | .string => true
  | _ => false

/-- The text of a piece with an argument, if it takes one. -/
def text
    (ram : Ram)
    (argument : Word) :
    Piece → Except Fault (List UInt8)
  | .plain byte => .ok [byte]
  | .number => .ok argument.decimal.toUTF8.toList
  | .character => .ok [argument.lowByte]
  | .string =>
      match ram.string? argument.address with
      | some text => .ok text
      | none => .error (.unterminatedString argument.address)
  | .unfinished => .ok []

end Piece

/-- The pieces of a format. -/
def pieces : List UInt8 → List Piece
  | [] => []
  | [byte] => [if byte = 0x25 then .unfinished else .plain byte]
  | byte :: letter :: rest =>
      if byte = 0x25 then
        Piece.ofLetter letter :: pieces rest
      else
        .plain byte :: pieces (letter :: rest)

/-- A format that does not end with a percent sign on its own. -/
def Complete (format : List UInt8) : Prop :=
  Piece.unfinished ∉ pieces format

instance (format : List UInt8) : Decidable (Complete format) :=
  inferInstanceAs (Decidable (Piece.unfinished ∉ pieces format))

/-- How many arguments a format takes. -/
def arity (format : List UInt8) : Nat :=
  (pieces format).countP Piece.takes

/-- The texts of pieces one after the other, each with the arguments the earlier ones leave. -/
def joined (ram : Ram) :
    List Piece → List Word → Except Fault (List UInt8)
  | [], _ => .ok []
  | piece :: rest, arguments => do
      let front ← piece.text ram (arguments.headD 0)
      let back ← joined ram rest (if piece.takes then arguments.tail else arguments)
      return front ++ back

section Pieces

variable (ram : Ram)

/-- A directive gives the text of its piece and tells whether the argument was taken. -/
theorem directive_eq
    (letter : UInt8)
    (argument : Word) :
    directive ram letter argument =
      ((Piece.ofLetter letter).text ram argument).map fun text =>
        (text, (Piece.ofLetter letter).takes) := by
  unfold directive
  split
  case h_1 => rfl
  case h_2 => rfl
  case h_3 =>
    unfold Piece.ofLetter Piece.text
    cases ram.string? argument.address with
    | none => rfl
    | some text => rfl
  case h_4 notNumber notCharacter notString =>
    rw [Piece.ofLetter]
    · rfl
    all_goals assumption

theorem map_append_cons
    (done : Array UInt8)
    (text : List UInt8)
    (rest : Except Fault (List UInt8)) :
    (rest.map fun back : List UInt8 => done ++ text ++ back) =
      (rest >>= fun back => pure (text ++ back)).map fun text : List UInt8 => done ++ text := by
  cases rest with
  | error fault => rfl
  | ok back =>
      have same : done ++ text ++ back = done ++ (text ++ back) := by
        rw [← Array.toList_inj, Array.toList_appendList, Array.toList_appendList,
          Array.toList_appendList, List.append_assoc]
      exact congrArg Except.ok same

/-- Expanding a format puts the texts of its pieces behind what is there. -/
theorem expandOnto_eq
    (format : List UInt8)
    (done : Array UInt8)
    (arguments : List Word) :
    expandOnto ram done format arguments =
      (joined ram (pieces format) arguments).map fun text : List UInt8 => done ++ text := by
  induction format using pieces.induct generalizing done arguments with
  | case1 => exact congrArg Except.ok done.appendList_nil.symm
  | case2 byte =>
      rw [expandOnto, pieces]
      split
      · exact congrArg Except.ok done.appendList_nil.symm
      · rfl
  | case3 letter rest inductionHypothesis =>
      rw [expandOnto, pieces, if_pos rfl, if_pos rfl, directive_eq, joined]
      cases (Piece.ofLetter letter).text ram (arguments.headD 0) with
      | error fault => rfl
      | ok text =>
          change expandOnto ram (done ++ text) rest _ = _
          rw [inductionHypothesis]
          exact map_append_cons done text _
  | case4 byte letter rest plain inductionHypothesis =>
      rw [expandOnto, pieces, if_neg plain, if_neg plain, inductionHypothesis, joined]
      exact map_append_cons done [byte] _

/-- Expanding a format joins the texts of its pieces. -/
theorem expand_eq_joined
    (format : List UInt8)
    (arguments : List Word) :
    expand ram format arguments = joined ram (pieces format) arguments := by
  unfold expand
  rw [expandOnto_eq]
  cases joined ram (pieces format) arguments with
  | error fault => rfl
  | ok text => exact congrArg Except.ok (Array.toList_appendList.trans (List.nil_append text))

omit ram in
/-- A byte that is no percent sign is a piece of its own. -/
theorem pieces_cons
    {byte : UInt8}
    (plain : byte ≠ 0x25)
    (rest : List UInt8) :
    pieces (byte :: rest) = .plain byte :: pieces rest := by
  cases rest with
  | nil => exact congrArg (fun piece => [piece]) (if_neg plain)
  | cons letter rest => rw [pieces, if_neg plain]

omit ram in
/-- What stands behind a complete format does not change its pieces. -/
theorem pieces_append
    {front : List UInt8}
    (complete : Complete front)
    (back : List UInt8) :
    pieces (front ++ back) = pieces front ++ pieces back := by
  unfold Complete at complete
  -- The induction follows the scan, which takes two bytes at a directive and one elsewhere.
  induction front using pieces.induct with
  | case1 => rfl
  | case2 byte =>
      -- A percent sign as the last byte is what a complete format does not have.
      have plain : byte ≠ 0x25 := by
        rintro rfl
        exact complete List.mem_cons_self
      rw [pieces_cons plain, List.cons_append, pieces_cons plain]
      rfl
  | case3 letter rest inductionHypothesis =>
      rw [pieces, if_pos rfl, List.mem_cons, not_or] at complete
      rw [List.cons_append, List.cons_append, pieces, pieces, if_pos rfl, if_pos rfl,
        inductionHypothesis complete.2]
      rfl
  | case4 byte letter rest plain inductionHypothesis =>
      rw [pieces_cons plain, List.mem_cons, not_or] at complete
      rw [List.cons_append, pieces_cons plain, pieces_cons plain, inductionHypothesis complete.2]
      rfl

omit ram in
/-- The arguments left behind a piece are left behind those that it takes. -/
theorem drop_countP_cons
    (piece : Piece)
    (rest : List Piece)
    (arguments : List Word) :
    arguments.drop ((piece :: rest).countP Piece.takes) =
      (if piece.takes then arguments.tail else arguments).drop (rest.countP Piece.takes) := by
  rw [List.countP_cons]
  split
  · rw [List.drop_tail]
  · rfl

/-- The texts of pieces one after the other, where the first ones take their arguments first. -/
theorem joined_append
    (front back : List Piece)
    (arguments : List Word) :
    joined ram (front ++ back) arguments = do
      let left ← joined ram front arguments
      let right ← joined ram back (arguments.drop (front.countP Piece.takes))
      return left ++ right := by
  induction front generalizing arguments with
  | nil => exact (bind_pure _).symm
  | cons piece rest inductionHypothesis =>
      rw [List.cons_append, joined, joined, drop_countP_cons, inductionHypothesis]
      simp only [bind_assoc, pure_bind, List.append_assoc]

/-- Only what takes an argument depends on it. -/
theorem text_of_not_takes
    {piece : Piece}
    (takesNone : piece.takes = false)
    (first second : Word) :
    piece.text ram first = piece.text ram second := by
  cases piece with
  | plain | unfinished => rfl
  | number | character | string => cases takesNone

/-- Of its arguments a list of pieces looks only at as many as it takes, and at zeros past them. -/
theorem joined_congr
    {all : List Piece}
    {left right : List Word}
    (same : ∀ index < all.countP Piece.takes, left.getD index 0 = right.getD index 0) :
    joined ram all left = joined ram all right := by
  induction all generalizing left right with
  | nil => rfl
  | cons piece rest inductionHypothesis =>
      rw [List.countP_cons] at same
      obtain ⟨sameText, sameLater⟩ :
          piece.text ram (left.headD 0) = piece.text ram (right.headD 0) ∧
            joined ram rest (if piece.takes then left.tail else left) =
              joined ram rest (if piece.takes then right.tail else right) := by
        cases takes : piece.takes with
        | false =>
            rw [takes] at same
            exact ⟨text_of_not_takes ram takes _ _, inductionHypothesis same⟩
        | true =>
            rw [takes] at same
            have head : left.headD 0 = right.headD 0 := by
              rw [List.headD_eq_getD, List.headD_eq_getD]
              exact same 0 (Nat.succ_pos _)
            refine ⟨by rw [head], inductionHypothesis ?_⟩
            intro index inside
            simpa using same (index + 1) (Nat.succ_lt_succ inside)
      rw [joined, joined, sameText, sameLater]

end Pieces

section Values

variable
  {ram : Ram}
  {format : Word}
  {text : List UInt8}

/-- A format in memory is expanded piece by piece. -/
theorem ofValues_eq_joined
    (holds : ram.HoldsString format.address text)
    (arguments : List Word) :
    ofValues ram (format :: arguments) = joined ram (pieces text) arguments := by
  rw [ofValues, Ram.string?_eq_some_iff.mpr holds]
  exact expand_eq_joined ram text arguments

/-- Arguments that are the same as far as a format takes any give the same text. -/
theorem ofValues_congr
    (holds : ram.HoldsString format.address text)
    {left right : List Word}
    (same : ∀ index < arity text, left.getD index 0 = right.getD index 0) :
    ofValues ram (format :: left) = ofValues ram (format :: right) := by
  rw [ofValues_eq_joined holds, ofValues_eq_joined holds, joined_congr ram same]

/-- Past the end of the arguments stand zeros, whether they are listed or not. -/
theorem getD_append_zeros
    (arguments : List Word)
    (missing index : Nat) :
    (arguments ++ List.replicate missing 0).getD index 0 = arguments.getD index 0 := by
  rw [List.getD_eq_getElem?_getD, List.getD_eq_getElem?_getD, List.getElem?_append]
  split
  case isTrue => rfl
  case isFalse past =>
    rw [List.getElem?_eq_none (Nat.not_lt.mp past), List.getElem?_replicate]
    split
    · rfl
    · rfl

/-- Two texts in a row fail when one of them does. -/
theorem fails_append_iff (left right : Except Fault (List UInt8)) :
    (∃ fault, (do return (← left) ++ (← right) : Except Fault (List UInt8)) = .error fault) ↔
      (∃ fault, left = .error fault) ∨ ∃ fault, right = .error fault := by
  cases left with
  | error fault => exact iff_of_true ⟨fault, rfl⟩ (.inl ⟨fault, rfl⟩)
  | ok front =>
      cases right with
      | error fault => exact iff_of_true ⟨fault, rfl⟩ (.inr ⟨fault, rfl⟩)
      | ok back =>
          constructor
          · rintro ⟨fault, fails⟩
            cases fails
          · rintro (⟨fault, fails⟩ | ⟨fault, fails⟩)
            · cases fails
            · cases fails

/--
Formats expand piece by piece.

A format that consists of a complete one and another one gives their texts one
after the other, where the first takes its arguments before the second, and it
fails exactly when one of them does. Arguments past those a format takes change
nothing, nor does it whether zeros at the end are there or missing. And the
directive of a number gives the shortest text that is read back as the number.
-/
theorem formats_compose
    (ram : Ram)
    (arguments : List Word) :
    (∀ (first second whole : Word) (front back : List UInt8),
        ram.HoldsString first.address front →
        ram.HoldsString second.address back →
        ram.HoldsString whole.address (front ++ back) →
        Complete front →
        let left := ofValues ram (first :: arguments)
        let right := ofValues ram (second :: arguments.drop (arity front))
        (ofValues ram (whole :: arguments) = do return (← left) ++ (← right)) ∧
          ((∃ fault, ofValues ram (whole :: arguments) = .error fault) ↔
            (∃ fault, left = .error fault) ∨ ∃ fault, right = .error fault)) ∧
      (∀ (format : Word) (text : List UInt8),
        ram.HoldsString format.address text →
        (∀ beyond,
          arity text ≤ arguments.length →
          ofValues ram (format :: (arguments ++ beyond)) = ofValues ram (format :: arguments)) ∧
        ∀ missing,
          ofValues ram (format :: (arguments ++ List.replicate missing 0)) =
            ofValues ram (format :: arguments)) ∧
      ∀ (format number : Word),
        ram.HoldsString format.address [0x25, 0x64] →
        ofValues ram (format :: number :: arguments) = .ok number.decimal.toUTF8.toList ∧
          KeyScript.readNumber number.decimal.toList = .ok number.toInt ∧
          ∀ text : String,
            KeyScript.readNumber text.toList = .ok number.toInt →
            text = number.decimal ∨ number.decimal.length < text.length := by
  refine ⟨?_, ?_, ?_⟩
  · intro first second whole front back holdsFirst holdsSecond holdsWhole complete left right
    have composed : ofValues ram (whole :: arguments) = do return (← left) ++ (← right) := by
      rw [ofValues_eq_joined holdsWhole, pieces_append complete, joined_append,
        ← ofValues_eq_joined holdsFirst]
      change (_ >>= fun left => joined ram _ (arguments.drop (arity front)) >>= _) = _
      rw [← ofValues_eq_joined holdsSecond]
    exact ⟨composed, by rw [composed, fails_append_iff]⟩
  · intro format text holds
    refine ⟨?_, ?_⟩
    · intro beyond enough
      apply ofValues_congr holds
      intro index inside
      rw [List.getD_eq_getElem?_getD, List.getD_eq_getElem?_getD,
        List.getElem?_append_left (Nat.lt_of_lt_of_le inside enough)]
    · intro missing
      apply ofValues_congr holds
      intro index _
      exact getD_append_zeros arguments missing index
  · intro format number holds
    refine ⟨?_, number.readNumber_decimal, fun text => number.eq_decimal_or_longer⟩
    rw [ofValues_eq_joined holds]
    exact congrArg Except.ok (List.append_nil _)

/-- Memory with a format of one number and a format of two. -/
def numberFormats : Ram :=
  (Ram.blank.writeString 0x1000 [0x25, 0x64]).writeString 0x2000 [0x25, 0x64, 0x25, 0x64]

theorem numbers_side_by_side :
    ofValues numberFormats [0x2000, -42, 7] = .ok [0x2d, 0x34, 0x32, 0x37] := by
  have both : numberFormats.HoldsString 0x2000 ([0x25, 0x64] ++ [0x25, 0x64]) :=
    Ram.holdsString_written (by decide) (by decide)
  have written : (Ram.blank.writeString 0x1000 [0x25, 0x64]).HoldsString 0x1000 [0x25, 0x64] :=
    Ram.holdsString_written (by decide) (by decide)
  have one : numberFormats.HoldsString 0x1000 [0x25, 0x64] :=
    written.of_sameOutside (Ram.sameOutside_writeString (by decide)) (.inl (by decide))
  have first := ((formats_compose numberFormats [7]).2.2 0x1000 (-42) one).1
  have second := ((formats_compose numberFormats []).2.2 0x1000 7 one).1
  have composed :=
    ((formats_compose numberFormats [-42, 7]).1 0x1000 0x1000 0x2000 _ _ one one both
      (by decide)).1
  have later : [-42, 7].drop (arity [0x25, 0x64]) = [(7 : Word)] := rfl
  rw [later, first, second] at composed
  have printed :
      (-42 : Word).decimal.toUTF8.toList ++ (7 : Word).decimal.toUTF8.toList =
        [0x2d, 0x34, 0x32, 0x37] := by
    decide +kernel
  exact composed.trans (congrArg Except.ok printed)

end Values

end Format

end Handheld
