import Handheld.Word

namespace Handheld

/-!
# Numerals

Numbers in other bases, as error messages and call records print them: lower
case, without a base mark, padded with zeros on the left where a width is given.
Negative words are printed as their two's complement bits.
-/

/-- The digits of `number` in the given base, most significant first. -/
def numeral
    (base number : Nat) :
    String :=
  String.ofList (Nat.toDigits base number)

/-- The hexadecimal digits of a number, at least `width` of them. -/
def hexadecimal
    (width number : Nat) :
    String :=
  let digits := Nat.toDigits 16 number
  String.ofList (List.replicate (width - digits.length) '0' ++ digits)

/-- The binary digits of a word. -/
def Word.binary (word : Word) : String :=
  numeral 2 word.bits

/-- The decimal text of a word. -/
def Word.decimal (word : Word) : String :=
  toString word.toInt

end Handheld
