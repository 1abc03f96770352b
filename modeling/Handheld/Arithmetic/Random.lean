import Handheld.Word

namespace Handheld

/-!
# Random numbers

A linear congruential generator over all words, of which each draw shows fifteen
bits.
-/

/-- The state of the generator. -/
structure Random where
  seed : Word := 0
  deriving DecidableEq, Repr

/-- The seed after the given one. -/
def Random.advance (seed : Word) : Word :=
  seed * 22695477 + 1

/-- The value that a seed shows: its bits 16 to 30. -/
def Random.value (seed : Word) : Word :=
  Word.ofBits (seed.bits / 0x10000 % 0x8000)

/-- Draw a value between 0 and 32767. -/
def Random.next (random : Random) : Word × Random :=
  let seed := Random.advance random.seed
  (Random.value seed, { seed := seed })

end Handheld
