import Handheld.Text.Gbk.Pairs
import Handheld.Text.Gbk.Quads

namespace Handheld.Gbk

/-!
# Text in bytes

Programs write text in a code of one, two or four bytes for each character.
`decode` reads any bytes, with the replacement character in place of what is no
code; `encode` writes any text, with a decimal reference in place of a character
that has no code of one or two bytes. Bytes below `0x80` stand for themselves.
-/

/-- Stands for bytes that are no code. -/
def replacement : Char := Char.ofNat 0xfffd

/-- Whether a byte opens a code of several bytes, or is the third of four. -/
def isLead (byte : UInt8) : Bool :=
  0x81 ≤ byte && byte ≤ 0xfe

/-- Whether a byte is the second or fourth of four. -/
def isDigit (byte : UInt8) : Bool :=
  0x30 ≤ byte && byte ≤ 0x39

/-- The place of a trail byte in its row. -/
def column? (trail : UInt8) : Option Nat :=
  if 0x40 ≤ trail ∧ trail ≤ 0x7e then
    some (trail.toNat - 0x40)
  else if 0x80 ≤ trail ∧ trail ≤ 0xfe then
    some (trail.toNat - 0x41)
  else
    none

/-- The trail byte of a place in a row. -/
def trailOfColumn (column : Nat) : UInt8 :=
  UInt8.ofNat (if column < 0x3f then column + 0x40 else column + 0x41)

/-- The character of two bytes. -/
def pair?
    (lead trail : UInt8) :
    Option Char := do
  let column ← column? trail
  let row ← pairRows[lead.toNat - 0x81]?
  row.toList[column]?

/-- The character at a position of the four byte codes. -/
def quadAt? (position : Nat) : Option Char :=
  if position = 7457 then
    some (Char.ofNat 0xe7c7)
  else if position < 39420 then
    (quadRanges.toList.reverse.find? fun range => range.1 ≤ position).map fun range =>
      Char.ofNat (range.2 + (position - range.1))
  else if 189000 ≤ position ∧ position ≤ 1237575 then
    some (Char.ofNat (position - 189000 + 0x10000))
  else
    none

/-- The character of four bytes. -/
def quad?
    (first second third fourth : UInt8) :
    Option Char :=
  let leads := (first.toNat - 0x81) * 10 + (second.toNat - 0x30)
  quadAt? ((leads * 126 + (third.toNat - 0x81)) * 10 + (fourth.toNat - 0x30))

/--
Read one character that opens with `first`, and give what follows it.

Where bytes are no code, reading goes on with the first byte that can stand for
itself.
-/
def next
    (first : UInt8)
    (rest : List UInt8) :
    Char × List UInt8 :=
  if first < 0x80 then
    (Char.ofNat first.toNat, rest)
  else if first = 0x80 then
    (Char.ofNat 0x20ac, rest)
  else if first = 0xff then
    (replacement, rest)
  else
    match rest with
    | [] => (replacement, [])
    | second :: tail =>
        if isDigit second then
          match tail with
          | [] => (replacement, [])
          | third :: tail' =>
              if isLead third then
                match tail' with
                | [] => (replacement, [])
                | fourth :: rest' =>
                    if isDigit fourth then
                      ((quad? first second third fourth).getD replacement, rest')
                    else
                      (replacement, rest)
              else
                (replacement, rest)
        else
          match pair? first second with
          | some character => (character, tail)
          | none => (replacement, if second < 0x80 then rest else tail)

/-- Reading a character uses up its first byte at least. -/
theorem length_next_le
    (first : UInt8)
    (rest : List UInt8) :
    (next first rest).2.length ≤ rest.length := by
  unfold next
  repeat' split
  all_goals simp
  all_goals omega

/-- The characters of the bytes, behind those read so far in reverse. -/
def decodeOnto
    (done : List Char) :
    List UInt8 → List Char
  | [] => done.reverse
  | first :: rest =>
      have := length_next_le first rest
      decodeOnto ((next first rest).1 :: done) (next first rest).2
termination_by bytes => bytes.length
decreasing_by
  simp only [List.length_cons]
  omega

/-- The text that bytes stand for. -/
def decode (bytes : List UInt8) : String :=
  String.ofList (decodeOnto [] bytes)

/-- The first two bytes that stand for a character. -/
def pairOf? (character : Char) : Option (List UInt8) :=
  pairRows.toList.zipIdx.findSome? fun (row, index) =>
    (row.toList.findIdx? (· == character)).map fun column =>
      [UInt8.ofNat (index + 0x81), trailOfColumn column]

/--
Private use characters that stood for two bytes before these bytes had characters
of their own. They are still written as these bytes.
-/
def formerPairs : List (Char × List UInt8) :=
  [
    (Char.ofNat 0xe78d, [0xa6, 0xd9]), (Char.ofNat 0xe78e, [0xa6, 0xda]),
    (Char.ofNat 0xe78f, [0xa6, 0xdb]), (Char.ofNat 0xe790, [0xa6, 0xdc]),
    (Char.ofNat 0xe791, [0xa6, 0xdd]), (Char.ofNat 0xe792, [0xa6, 0xde]),
    (Char.ofNat 0xe793, [0xa6, 0xdf]), (Char.ofNat 0xe794, [0xa6, 0xec]),
    (Char.ofNat 0xe795, [0xa6, 0xed]), (Char.ofNat 0xe796, [0xa6, 0xf3]),
    (Char.ofNat 0xe81e, [0xfe, 0x59]), (Char.ofNat 0xe826, [0xfe, 0x61]),
    (Char.ofNat 0xe82b, [0xfe, 0x66]), (Char.ofNat 0xe82c, [0xfe, 0x67]),
    (Char.ofNat 0xe832, [0xfe, 0x6d]), (Char.ofNat 0xe843, [0xfe, 0x7e]),
    (Char.ofNat 0xe854, [0xfe, 0x90]), (Char.ofNat 0xe864, [0xfe, 0xa0])
  ]

/-- The bytes for one character. -/
def encodeChar (character : Char) : List UInt8 :=
  if character.toNat < 0x80 then
    [UInt8.ofNat character.toNat]
  else if character.toNat = 0x20ac then
    [0x80]
  else
    match pairOf? character <|> formerPairs.lookup character with
    | some bytes => bytes
    | none => ("&#" ++ toString character.toNat ++ ";").toUTF8.toList

/-- The bytes for a text. -/
def encode (text : String) : List UInt8 :=
  text.toList.flatMap encodeChar

end Handheld.Gbk
