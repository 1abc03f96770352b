namespace Handheld

/-!
# Machine words

The machine calculates in signed 32 bit words that wrap around. This module
holds the few views on a word that the rest of the machine needs: its bits as a
natural number, its low byte, the address in its low sixteen bits, and the
words that stand for truth values.
-/

/-- The only arithmetic type of the machine. -/
abbrev Word := Int32

/-- The bits of a word as a number below `2 ^ 32`. -/
def Word.bits (word : Word) : Nat :=
  word.toUInt32.toNat

/-- The low eight bits of a word. -/
def Word.lowByte (word : Word) : UInt8 :=
  word.toUInt32.toUInt8

/-- The address in the low sixteen bits of a word. -/
def Word.address (word : Word) : Nat :=
  word.bits % 0x10000

/-- The word with the given bits; bits from the thirty-second on are dropped. -/
def Word.ofBits (bits : Nat) : Word :=
  Int32.ofNat bits

/-- A byte as a word between 0 and 255. -/
def Word.ofByte (byte : UInt8) : Word :=
  Word.ofBits byte.toNat

/-- Truth is minus one and falsehood is zero. -/
def Word.ofBool (truth : Bool) : Word :=
  if truth then -1 else 0

/-- The word for the low sixteen bits of `bits`, sign extended. -/
def Word.ofSigned16
    (bits : Nat) :
    Word :=
  (UInt16.ofNat bits).toInt16.toInt32

/-- The sum of two words as an address. -/
def Word.sumAddress
    (left right : Word) :
    Nat :=
  (left + right).address

/-- Whether any bit of `mask` is set in the word. -/
def Word.meets
    (word mask : Word) :
    Bool :=
  word &&& mask != 0

end Handheld
