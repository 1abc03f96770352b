import Handheld.Numeral
import Handheld.Text.Hidden

namespace Handheld

/-!
# Quoted text

Text between double quotes, as messages show it: quotes and backslashes are
escaped, the common control characters have short names, and other characters
that cannot be seen are written by their code point.
-/

namespace Quoted

/-- A character between double quotes. -/
def escape (character : Char) : String :=
  match character with
  | '"' => "\\\""
  | '\\' => "\\\\"
  | '\n' => "\\n"
  | '\r' => "\\r"
  | '\t' => "\\t"
  | '\x00' => "\\0"
  | _ =>
      if isHidden character then
        "\\u\x7b" ++ hexadecimal 1 character.toNat ++ "\x7d"
      else
        String.singleton character

/-- A text between double quotes. -/
def quote (text : String) : String :=
  "\"" ++ String.join (text.toList.map escape) ++ "\""

end Quoted

end Handheld
