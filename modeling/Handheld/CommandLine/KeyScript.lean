import Handheld.Word

namespace Handheld

/-!
# Key scripts

A key script is text with one key to a line, a decimal number with an optional
sign. Blank space around a number and blank lines are skipped, but blank lines
count.
-/

namespace KeyScript

/-- Why a text is not a number of the machine. -/
inductive NumberError where
  | invalidDigit
  | tooLarge
  | tooSmall
  deriving DecidableEq, Repr

/-- The text that reports a number error. -/
def NumberError.message : NumberError → String
  | .invalidDigit => "invalid digit found in string"
  | .tooLarge => "number too large to fit in target type"
  | .tooSmall => "number too small to fit in target type"

/-- The first line that is not a key. -/
structure Refusal where
  line : Nat
  text : String
  cause : NumberError
  deriving DecidableEq, Repr

/-- The text that reports a refused script. -/
def Refusal.message (refusal : Refusal) : String :=
  "line " ++ toString refusal.line ++ ": '" ++ refusal.text ++ "': " ++ refusal.cause.message

/-- Whether a character is blank space. -/
def isBlank (character : Char) : Bool :=
  let code := character.toNat
  (0x09 ≤ code && code ≤ 0x0d) || code == 0x20 || code == 0x85 || code == 0xa0 ||
    code == 0x1680 || (0x2000 ≤ code && code ≤ 0x200a) || code == 0x2028 || code == 0x2029 ||
    code == 0x202f || code == 0x205f || code == 0x3000

/-- A text without the blank space around it. -/
def trim (text : List Char) : List Char :=
  ((text.dropWhile isBlank).reverse.dropWhile isBlank).reverse

/-- Put a character in front of the first line, or open a new one at a line feed. -/
def prepend
    (character : Char)
    (lines : List (List Char)) :
    List (List Char) :=
  if character = '\n' then
    [] :: lines
  else
    match lines with
    | [] => [[character]]
    | first :: others => (character :: first) :: others

/-- The lines of a text. -/
def lines (text : String) : List (List Char) :=
  text.toList.foldr prepend [[]]

/-- Read digits behind a value, adding or, for a negative number, taking away. -/
def readDigits
    (negative : Bool)
    (value : Int) :
    List Char → Except NumberError Int
  | [] => .ok value
  | character :: rest =>
      if '0' ≤ character ∧ character ≤ '9' then
        let digit : Int := character.toNat - '0'.toNat
        if negative then
          if value * 10 - digit < -2147483648 then
            .error .tooSmall
          else
            readDigits negative (value * 10 - digit) rest
        else
          if value * 10 + digit > 2147483647 then
            .error .tooLarge
          else
            readDigits negative (value * 10 + digit) rest
      else
        .error .invalidDigit

/-- Read a number with an optional sign and at least one digit. -/
def readNumber : List Char → Except NumberError Int
  | [] => .error .invalidDigit
  | ['-'] => .error .invalidDigit
  | ['+'] => .error .invalidDigit
  | '-' :: digits => readDigits true 0 digits
  | '+' :: digits => readDigits false 0 digits
  | digits => readDigits false 0 digits

/-- Read the keys of lines, of which the first has the given number. -/
def readLines
    (number : Nat) :
    List (List Char) → Except Refusal (List Word)
  | [] => .ok []
  | line :: rest =>
      let text := trim line
      if text = [] then
        readLines (number + 1) rest
      else
        match readNumber text with
        | .error cause => .error { line := number, text := String.ofList text, cause := cause }
        | .ok key => (readLines (number + 1) rest).map (Int32.ofInt key :: ·)

/-- Read a key script. -/
def parse (text : String) : Except Refusal (List Word) :=
  readLines 1 (lines text)

end KeyScript

end Handheld
