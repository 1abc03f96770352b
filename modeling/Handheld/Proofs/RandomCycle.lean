import Handheld.Proofs.Machine.Step
import Handheld.Proofs.Memory.TypedAccess
import Mathlib.Data.Fintype.EquivFin
import Mathlib.NumberTheory.Multiplicity
import Mathlib.Tactic.LinearCombination

namespace Handheld

/-!
# The cycle of the random numbers

Each draw multiplies the seed and adds to it. If seeds did not wrap around, the
distance between a seed and the one after some draws would be divisible by
exactly those powers of two that divide the number of draws, because the
multiplier is one more than a multiple of four and what is added is odd. Seeds
have thirty-two bits, so a seed is met again only after a multiple of as many
draws as there are seeds, and the generator passes through all of them before it
starts over.
-/

/-- Numbers wrap around to the same word when they differ by a multiple of the number of words. -/
theorem Word.ofInt_eq_ofInt_iff (left right : Int) :
    Int32.ofInt left = Int32.ofInt right ↔ 0x100000000 ∣ left - right := by
  rw [Int32.ofInt_eq_iff_bmod_eq_toInt, Int32.toInt_ofInt]
  change left.bmod 0x100000000 = right.bmod 0x100000000 ↔ ((0x100000000 : Nat) : Int) ∣ _
  rw [Int.bmod_eq_bmod_iff_bmod_sub_eq_zero, Int.dvd_iff_bmod_eq_zero]

namespace Random

section Stretched

/-- The seed after some draws, if seeds did not wrap around. -/
def stretched
    (multiplier increment seed : Int) :
    Nat → Int
  | 0 => seed
  | draws + 1 => stretched multiplier increment seed draws * multiplier + increment

variable
  (multiplier increment seed : Int)
  (draws : Nat)

/-- On a larger scale, a draw does nothing but multiply. -/
theorem scaled_stretched :
    stretched multiplier increment seed draws * (multiplier - 1) + increment =
      (seed * (multiplier - 1) + increment) * multiplier ^ draws := by
  induction draws with
  | zero => rw [stretched, pow_zero, mul_one]
  | succ earlier inductionHypothesis =>
      rw [pow_succ, ← mul_assoc, ← inductionHypothesis, stretched]
      ring

/-- The way that a seed goes, scaled, is a power less one. -/
theorem scaled_distance :
    (stretched multiplier increment seed draws - seed) * (multiplier - 1) =
      (seed * (multiplier - 1) + increment) * (multiplier ^ draws - 1 ^ draws) := by
  rw [one_pow]
  linear_combination scaled_stretched multiplier increment seed draws

variable
  {multiplier increment}
  (proper : multiplier ≠ 1)
  (fourth : 4 ∣ multiplier - 1)
  (odd : ¬2 ∣ increment)

include proper fourth odd

/-- Two divides the distance from the first seed as often as the number of draws. -/
theorem emultiplicity_distance :
    emultiplicity 2 (stretched multiplier increment seed draws - seed) =
      emultiplicity 2 (draws : Int) := by
  have even : 2 ∣ multiplier - 1 := dvd_trans (by decide) fourth
  have oddMultiplier : ¬2 ∣ multiplier := by omega
  have oddScaled : ¬2 ∣ seed * (multiplier - 1) + increment := by
    rwa [Int.dvd_add_right (dvd_mul_of_dvd_right even seed)]
  have finite : emultiplicity 2 (multiplier - 1) ≠ ⊤ :=
    finiteMultiplicity_iff_emultiplicity_ne_top.mp
      (Int.finiteMultiplicity_iff.mpr ⟨by decide, sub_ne_zero.mpr proper⟩)
  -- What both sides of the scaled distance are divisible by, the scale included.
  have counted :
      emultiplicity 2 (multiplier - 1) +
          emultiplicity 2 (stretched multiplier increment seed draws - seed) =
        emultiplicity 2 (multiplier - 1) + emultiplicity 2 (draws : Int) := by
    rw [← Int.two_pow_sub_pow' draws fourth oddMultiplier, add_comm,
      ← emultiplicity_mul Int.prime_two, scaled_distance, emultiplicity_mul Int.prime_two,
      emultiplicity_eq_zero.mpr oddScaled, zero_add]
  exact ENat.add_right_injective_of_ne_top finite counted

/-- A seed comes back, in its low places, exactly when the draws do. -/
theorem two_pow_dvd_distance (places : Nat) :
    2 ^ places ∣ stretched multiplier increment seed draws - seed ↔ 2 ^ places ∣ (draws : Int) := by
  rw [pow_dvd_iff_le_emultiplicity, pow_dvd_iff_le_emultiplicity,
    emultiplicity_distance seed draws proper fourth odd]

end Stretched

/-- How many seeds there are. -/
def period : Nat := 0x100000000

/-- The generator after some draws. -/
def afterDraws
    (random : Random) :
    Nat → Random
  | 0 => random
  | draws + 1 => (random.afterDraws draws).next.2

section Cycle

variable (random : Random)

/-- Draws can be made in two parts. -/
theorem afterDraws_add (first second : Nat) :
    random.afterDraws (first + second) = (random.afterDraws first).afterDraws second := by
  induction second with
  | zero => rfl
  | succ earlier inductionHypothesis =>
      change (random.afterDraws (first + earlier)).next.2 = _
      rw [inductionHypothesis]
      rfl

/-- The seed after some draws in one formula. -/
theorem seed_afterDraws (draws : Nat) :
    (random.afterDraws draws).seed =
      Int32.ofInt (stretched 22695477 1 random.seed.toInt draws) := by
  induction draws with
  | zero => exact (Int32.ofInt_toInt random.seed).symm
  | succ earlier inductionHypothesis =>
      change (random.afterDraws earlier).seed * 22695477 + 1 = _
      rw [inductionHypothesis, stretched, Int32.ofInt_add, Int32.ofInt_mul]
      rfl

/-- A seed is met again after multiples of the period only. -/
theorem seed_afterDraws_eq_self_iff (draws : Nat) :
    (random.afterDraws draws).seed = random.seed ↔ period ∣ draws := by
  have wrapped : Int32.ofInt random.seed.toInt = random.seed := Int32.ofInt_toInt random.seed
  have power : (2 : Int) ^ 32 = (period : Nat) := by norm_num [period]
  have divides :
      2 ^ 32 ∣ stretched 22695477 1 random.seed.toInt draws - random.seed.toInt ↔
        2 ^ 32 ∣ (draws : Int) :=
    two_pow_dvd_distance _ _ (by decide) (by decide) (by decide) 32
  rw [power, Int.natCast_dvd_natCast] at divides
  rw [seed_afterDraws, ← wrapped, Word.ofInt_eq_ofInt_iff, wrapped]
  exact divides

/-- After two numbers of draws the seed is the same when the numbers are, up to the period. -/
theorem seed_afterDraws_eq_iff (first second : Nat) :
    (random.afterDraws first).seed = (random.afterDraws second).seed ↔
      first % period = second % period := by
  rcases Nat.le_total first second with ordered | ordered
  · obtain ⟨more, rfl⟩ := Nat.exists_eq_add_of_le ordered
    rw [afterDraws_add, eq_comm, seed_afterDraws_eq_self_iff]
    unfold period
    omega
  · obtain ⟨more, rfl⟩ := Nat.exists_eq_add_of_le ordered
    rw [afterDraws_add, seed_afterDraws_eq_self_iff]
    unfold period
    omega

/-- The bits of the seeds after fewer draws than the period. -/
def bitsAfter (draws : Fin period) : Fin period :=
  ⟨(random.afterDraws draws).seed.bits, (random.afterDraws draws).seed.toUInt32.toNat_lt⟩

/-- Different counts below the period give different seeds. -/
theorem bitsAfter_injective : Function.Injective random.bitsAfter := by
  intro first second same
  have sameBits :
      (random.afterDraws first).seed.bits = (random.afterDraws second).seed.bits :=
    congrArg Fin.val same
  have numbers := (random.seed_afterDraws_eq_iff first second).mp (Word.eq_of_bits sameBits)
  rw [Nat.mod_eq_of_lt first.isLt, Nat.mod_eq_of_lt second.isLt] at numbers
  exact Fin.ext numbers

/-- There are only as many seeds as draws in a period, so each is among those drawn. -/
theorem exists_afterDraws (seed : Word) :
    ∃ draws < period, (random.afterDraws draws).seed = seed := by
  obtain ⟨draws, found⟩ :=
    Finite.injective_iff_surjective.mp random.bitsAfter_injective
      ⟨seed.bits, seed.toUInt32.toNat_lt⟩
  have sameBits : (random.afterDraws draws).seed.bits = seed.bits := congrArg Fin.val found
  exact ⟨draws, draws.isLt, Word.eq_of_bits sameBits⟩

end Cycle

/-- A value has fifteen bits. -/
theorem value_bounds (seed : Word) : 0 ≤ value seed ∧ value seed ≤ 0x7fff := by
  have small : seed.bits / 0x10000 % 0x8000 < 0x8000 := Nat.mod_lt _ (by decide)
  have shown : (value seed).toInt = (seed.bits / 0x10000 % 0x8000 : Nat) :=
    Word.toInt_ofBits (by omega)
  constructor
  · rw [Int32.le_iff_toInt_le, shown]
    exact Int.natCast_nonneg _
  · rw [Int32.le_iff_toInt_le, shown]
    change _ ≤ (0x7fff : Int)
    omega

end Random

namespace Machine

/-- In every machine a step that seeds the generator takes the seed and starts from it. -/
def Seeds
    (seed : Word)
    (start : Random) :
    Prop :=
  ∀ (machine : Machine) (values : List Word),
    machine.finished = false →
    machine.opcode? = some (.builtin .seedRandom) →
    machine.stack.toList = values ++ [seed] →
    ∃ stack,
      stack.toList = values ∧
        stack.capacity = machine.stack.capacity ∧
        machine.step =
          (.ok false, { machine with
            pc := machine.pc + 1
            stack := stack
            random := start })

/--
In every machine with the one generator a step that draws puts the value on the
stack and leaves the other generator behind.
-/
def Draws
    (before : Random)
    (value : Word)
    (after : Random) :
    Prop :=
  ∀ machine : Machine,
    machine.finished = false →
    machine.opcode? = some (.builtin .random) →
    machine.random = before →
    machine.stack.toList.length < machine.stack.capacity →
    ∃ stack,
      stack.toList = machine.stack.toList ++ [value] ∧
        stack.capacity = machine.stack.capacity ∧
        machine.step =
          (.ok false, { machine with
            pc := machine.pc + 1
            stack := stack
            random := after })

/-- A step that seeds the generator starts it from the seed that it takes. -/
theorem seeds (seed : Word) : Seeds seed { seed := seed } := by
  intro machine values running current shown
  have shownLater : (machine.skip 1).stack.toList = values ++ [seed] := shown
  obtain ⟨stack, popped, kept⟩ := DataStack.exists_pop shownLater
  refine ⟨stack, kept, DataStack.capacity_pop popped, step_eq_ok running current ?_ running⟩
  change (machine.skip 1).outcome (pop >>= fun seed =>
    modify fun machine => { machine with random := { seed := seed } }) = _
  rw [outcome_bind_of_ok (outcome_pop popped), outcome_modify]
  rfl

/-- A step that draws gives the next value of the generator and leaves it at the next seed. -/
theorem draws (random : Random) : Draws random random.next.1 random.next.2 := by
  rintro machine running current rfl room
  obtain ⟨stack, pushed, shown⟩ := DataStack.exists_push room machine.random.next.1
  have pushedLater :
      { machine.skip 1 with random := machine.random.next.2 }.stack.push machine.random.next.1 =
        .ok stack :=
    pushed
  refine ⟨stack, shown, DataStack.capacity_push pushed, step_eq_ok running current ?_ running⟩
  change (machine.skip 1).outcome ((modifyGet fun machine =>
    (machine.random.next.1, { machine with random := machine.random.next.2 })) >>= push) = _
  rw [outcome_bind_of_ok (outcome_modifyGet _ _)]
  exact outcome_push pushedLater

end Machine

/--
The random numbers have a single cycle.

A program that seeds the generator has it start from that seed, and every draw
puts the next value on the stack, which lies between 0 and 32767, and leaves the
generator one draw further. Whatever the seed was, the seeds after two numbers of
draws are the same exactly when the numbers are, up to a period of as many draws
as there are seeds. So the seeds of one period are all different, the generator
then starts over, and it has passed every seed.
-/
theorem random_cycle_passes_every_seed (seed : Word) :
    let start : Random := { seed := seed }
    Machine.Seeds seed start ∧
      (∀ draws,
        Machine.Draws
          (start.afterDraws draws)
          (start.afterDraws draws).next.1
          (start.afterDraws (draws + 1))) ∧
      (∀ draws,
        0 ≤ (start.afterDraws draws).next.1 ∧ (start.afterDraws draws).next.1 ≤ 0x7fff) ∧
      (∀ first second,
        (start.afterDraws first).seed = (start.afterDraws second).seed ↔
          first % Random.period = second % Random.period) ∧
      start.afterDraws Random.period = start ∧
      ∀ other, ∃ draws < Random.period, (start.afterDraws draws).seed = other := by
  intro start
  have returns : (start.afterDraws Random.period).seed = start.seed :=
    (start.seed_afterDraws_eq_self_iff Random.period).mpr (Nat.dvd_refl _)
  exact ⟨Machine.seeds seed,
    fun draws => Machine.draws (start.afterDraws draws),
    fun draws => Random.value_bounds (Random.advance (start.afterDraws draws).seed),
    start.seed_afterDraws_eq_iff,
    congrArg Random.mk returns,
    start.exists_afterDraws⟩

/-- A machine about to seed its generator with zero and to draw twice. -/
def Machine.drawing : Machine where
  device := {}
  files := { store := { host := {}, root := [] } }
  code := #[0x91, 0x90, 0x90]
  pc := 0
  stack := { slots := #[0, 7, 7], top := 1, top_le := by decide }
  random := { seed := 5 }
  finished := false

theorem Machine.second_value_drawn :
    ∃ seeded once twice,
      drawing.step = (.ok false, seeded) ∧
        seeded.step = (.ok false, once) ∧
        once.step = (.ok false, twice) ∧
        twice.stack.toList = [0, 346] ∧
        ∃ draws < Random.period, (Random.afterDraws { seed := 0 } draws).seed = 5 := by
  have atFirst : (drawing.skip 1).opcode? = some (.builtin .random) := by decide
  have atSecond : (drawing.skip 2).opcode? = some (.builtin .random) := by decide
  have first : (Random.afterDraws { seed := 0 } 0).next.1 = 0 := by decide
  have second : (Random.afterDraws { seed := 0 } 1).next.1 = 346 := by decide
  obtain ⟨seeds, draws, -, -, -, every⟩ := random_cycle_passes_every_seed 0
  obtain ⟨stack, shown, size, seeding⟩ := seeds drawing [] rfl (by decide) rfl
  have capacity : stack.capacity = 3 := size
  obtain ⟨stackOnce, shownOnce, sizeOnce, drawingOnce⟩ :=
    draws 0 { drawing.skip 1 with stack := stack, random := { seed := 0 } } rfl atFirst rfl
      (by rw [shown, capacity]; decide)
  have capacityOnce : stackOnce.capacity = 3 := sizeOnce.trans capacity
  rw [shown, first] at shownOnce
  obtain ⟨stackTwice, shownTwice, -, drawingTwice⟩ :=
    draws 1 { drawing.skip 2 with
      stack := stackOnce
      random := Random.afterDraws { seed := 0 } 1 } rfl atSecond rfl
      (by rw [shownOnce, capacityOnce]; decide)
  rw [shownOnce, second] at shownTwice
  exact ⟨_, _, _, seeding, drawingOnce, drawingTwice, shownTwice, every 5⟩

end Handheld
