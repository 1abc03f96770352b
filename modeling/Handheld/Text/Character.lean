import Handheld.Instruction.Opcode

namespace Handheld

/-!
# Classes of characters

The tests on single bytes that programs make. They know the characters below
`0x80` only; all other bytes are in no class.
-/

namespace CharacterClass

/-- Whether a byte lies between two others, both included. -/
def between
    (low high byte : UInt8) :
    Bool :=
  low ≤ byte && byte ≤ high

/-- Whether a byte is in a class. -/
def contains
    (characterClass : CharacterClass)
    (byte : UInt8) :
    Bool :=
  let isDigit := between 0x30 0x39 byte
  let isUpper := between 0x41 0x5a byte
  let isLower := between 0x61 0x7a byte
  let isGraphic := between 0x21 0x7e byte
  match characterClass with
  | .alphanumeric => isDigit || isUpper || isLower
  | .alphabetic => isUpper || isLower
  | .control => byte < 0x20 || byte == 0x7f
  | .digit => isDigit
  | .graphic => isGraphic
  | .lower => isLower
  | .printable => between 0x20 0x7e byte
  | .punctuation => isGraphic && !(isDigit || isUpper || isLower)
  | .space => between 0x09 0x0d byte || byte == 0x20
  | .upper => isUpper
  | .hexDigit => isDigit || between 0x41 0x46 byte || between 0x61 0x66 byte

/-- The lower case of a letter, every other byte as it is. -/
def toLower (byte : UInt8) : UInt8 :=
  if between 0x41 0x5a byte then byte + 32 else byte

/-- The upper case of a letter, every other byte as it is. -/
def toUpper (byte : UInt8) : UInt8 :=
  if between 0x61 0x7a byte then byte - 32 else byte

end CharacterClass

end Handheld
