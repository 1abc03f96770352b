import Handheld.Keyboard
import Handheld.Proofs.Memory.LittleEndian

namespace Handheld

/-!
# The latch of a live keyboard

A host presses and releases keys while a program reads them, in any order. Every
event happens at once, and a waiting read happens only when something is
latched. Whatever the order, a latched key is held, and a key is latched at most
as often as it was pressed or asked for again, so it is not read more often.
-/

/-- What happens at a live keyboard: two events of the host, and those of a reader. -/
inductive KeyEvent where
  | press (key : Word)
  | release (key : Word)
  | take
  | await
  | relatch (key : Word)
  | relatchLowest
  | reset
  deriving DecidableEq, Repr

/-- Whether an event may latch a wanted key. -/
def KeyEvent.latches
    (wanted : Word → Bool) :
    KeyEvent → Bool
  | .press key => wanted key
  | .relatch key => wanted key
  | .relatchLowest => true
  | _ => false

/-- The more keys are wanted, the more events may latch one of them. -/
theorem KeyEvent.latches_mono
    {wanted other : Word → Bool}
    (more : ∀ key, wanted key = true → other key = true)
    {event : KeyEvent}
    (latches : event.latches wanted = true) :
    event.latches other = true := by
  cases event with
  | press key => exact more key latches
  | relatch key => exact more key latches
  | relatchLowest => rfl
  | release key => cases latches
  | take => cases latches
  | await => cases latches
  | reset => cases latches

/-- A keyboard after some events, and what was read from it, the latest last. -/
structure KeyHistory where
  keys : LiveKeys := {}
  answers : List Word := []

namespace KeyHistory

/-- What an event leaves. A waiting read does not happen while nothing is latched. -/
def perform?
    (history : KeyHistory) :
    KeyEvent → Option KeyHistory
  | .press key => some { history with keys := history.keys.press key }
  | .release key => some { history with keys := history.keys.release key }
  | .take =>
      let (key, after) := history.keys.take
      some { keys := after, answers := history.answers ++ [key] }
  | .await =>
      history.keys.await?.map fun (key, after) =>
        { keys := after, answers := history.answers ++ [key] }
  | .relatch key => some { history with keys := history.keys.relatch key }
  | .relatchLowest => some { history with keys := history.keys.relatchLowest }
  | .reset => some { history with keys := {} }

/-- What events leave when they happen one after the other. -/
def performAll?
    (history : KeyHistory) :
    List KeyEvent → Option KeyHistory
  | [] => some history
  | event :: rest =>
      (history.perform? event).bind fun later => later.performAll? rest

end KeyHistory

namespace Key

/-- The index of a key is its number. -/
theorem index?_eq_some
    {key : Word}
    {index : Fin 128}
    (named : index? key = some index) :
    key.bits = index := by
  unfold index? at named
  split at named
  · cases named
    rfl
  · cases named

/-- Every number below 128 is the index of a key. -/
theorem index?_ofBits
    {bits : Nat}
    (inside : bits < 128) :
    index? (Word.ofBits bits) = some ⟨bits, inside⟩ := by
  have same : (Word.ofBits bits).bits = bits := by
    simp [Word.ofBits, Word.bits]
    omega
  simp [index?, same, inside]

/-- A key that has an index is not negative. -/
theorem toInt_eq_index
    {key : Word}
    {index : Fin 128}
    (named : index? key = some index) :
    key.toInt = index.val := by
  have small : index.val < 2 ^ 31 := Nat.lt_trans index.isLt (by decide)
  rw [← Word.ofBits_bits key, index?_eq_some named]
  exact Int32.toInt_ofNat_of_lt small

/-- Different keys have different numbers. -/
theorem index?_inj
    {key other : Word}
    {index : Fin 128}
    (named : index? key = some index)
    (otherNamed : index? other = some index) :
    key = other := by
  have same : key.bits = other.bits :=
    (index?_eq_some named).trans (index?_eq_some otherNamed).symm
  exact Word.eq_of_bits same

end Key

namespace LiveKeys

/-- Whether a key is held is read at its index. -/
theorem isHeld_eq
    {keys : LiveKeys}
    {key : Word}
    {index : Fin 128}
    (named : Key.index? key = some index) :
    keys.isHeld key = keys.held.get index := by
  unfold isHeld
  rw [named]
  rfl

/-- Only keys that there are can be held. -/
theorem exists_index_of_isHeld
    {keys : LiveKeys}
    {key : Word}
    (held : keys.isHeld key = true) :
    ∃ index, Key.index? key = some index := by
  unfold isHeld at held
  split at held
  · exact ⟨_, by assumption⟩
  · cases held

/-- The lowest held key is held. -/
theorem isHeld_lowest
    {keys : LiveKeys}
    {key : Word}
    (lowest : keys.lowest? = some key) :
    keys.isHeld key = true := by
  obtain ⟨index, found, rfl⟩ := Option.map_eq_some_iff.mp lowest
  obtain ⟨offset, near, rfl⟩ := List.mem_range'.mp (List.mem_of_find?_eq_some found)
  have inside : 1 + 1 * offset < 128 := by omega
  have flagged := List.find?_some found
  obtain ⟨_, held⟩ := Vector.getElem?_eq_some_iff.mp (of_decide_eq_true flagged)
  rw [isHeld_eq (Key.index?_ofBits inside)]
  exact held

/-- Whatever is latched is held. -/
def LatchHeld (keys : LiveKeys) : Prop :=
  keys.latch ≠ 0 → keys.isHeld keys.latch = true

namespace LatchHeld

/-- An empty latch answers for no key. -/
theorem of_latch_eq_zero
    {keys : LiveKeys}
    (empty : keys.latch = 0) :
    keys.LatchHeld :=
  fun latched => absurd empty latched

variable
  {keys : LiveKeys}
  (safe : keys.LatchHeld)

include safe

/-- The key in the latch is one that is held after a press. -/
theorem press (key : Word) : (keys.press key).LatchHeld := by
  unfold LiveKeys.press
  split
  · rename_i index named
    intro _
    rw [isHeld_eq named]
    exact Vector.getElem_set_self index.isLt
  · exact safe

/-- A key other than the released one stays as it is, and the released one is not latched. -/
theorem release (key : Word) : (keys.release key).LatchHeld := by
  unfold LiveKeys.release
  split
  · rename_i index named
    by_cases same : keys.latch = key
    · exact of_latch_eq_zero (if_pos same)
    · intro latched
      rw [if_neg same] at latched
      obtain ⟨other, otherNamed⟩ := exists_index_of_isHeld (safe latched)
      have apart : index.val ≠ other.val := by
        intro equal
        exact same (Key.index?_inj otherNamed (Fin.ext equal ▸ named))
      have before := safe latched
      rw [isHeld_eq otherNamed] at before
      dsimp only
      rw [if_neg same, isHeld_eq otherNamed]
      exact (Vector.getElem_set_ne index.isLt other.isLt apart).trans before
  · exact safe

/-- The key in the latch is one that is held after it was put back. -/
theorem relatch (key : Word) : (keys.relatch key).LatchHeld := by
  unfold LiveKeys.relatch
  split
  · rename_i held
    exact fun _ => held
  · exact safe

/-- The lowest held key may be latched again. -/
theorem relatchLowest : keys.relatchLowest.LatchHeld := by
  unfold LiveKeys.relatchLowest
  split
  · rename_i key lowest
    exact fun _ => isHeld_lowest lowest
  · exact safe

/-- A key that is latched has a number from 1 to 127. -/
theorem latch_bounds (latched : keys.latch ≠ 0) :
    1 ≤ keys.latch.toInt ∧ keys.latch.toInt ≤ 127 := by
  obtain ⟨index, named⟩ := exists_index_of_isHeld (safe latched)
  have number := Key.toInt_eq_index named
  have notZero : index.val ≠ 0 := by
    intro zero
    apply latched
    rw [← Word.ofBits_bits keys.latch, Key.index?_eq_some named, zero]
    rfl
  omega

end LatchHeld

/-- A waiting read that happens is a plain read that finds a key. -/
theorem await?_eq_some
    {keys : LiveKeys}
    {reply : Word × LiveKeys}
    (answered : keys.await? = some reply) :
    keys.latch ≠ 0 ∧ reply = keys.take := by
  unfold await? at answered
  split at answered
  · cases answered
  · rename_i latched
    cases answered
    exact ⟨latched, rfl⟩

end LiveKeys

namespace KeyHistory

section Step

variable
  {history later : KeyHistory}
  {event : KeyEvent}
  (performed : history.perform? event = some later)

include performed

/-- An event keeps what is latched held. -/
theorem latchHeld_perform (safe : history.keys.LatchHeld) : later.keys.LatchHeld := by
  cases event with
  | press key =>
      cases performed
      exact safe.press key
  | release key =>
      cases performed
      exact safe.release key
  | take =>
      cases performed
      exact .of_latch_eq_zero rfl
  | await =>
      obtain ⟨reply, answered, rfl⟩ := Option.map_eq_some_iff.mp performed
      obtain ⟨_, rfl⟩ := LiveKeys.await?_eq_some answered
      exact .of_latch_eq_zero rfl
  | relatch key =>
      cases performed
      exact safe.relatch key
  | relatchLowest =>
      cases performed
      exact safe.relatchLowest
  | reset =>
      cases performed
      exact .of_latch_eq_zero rfl

/--
What an event does to the latch and to the answers: a read answers what is
latched and empties the latch, and any other event empties the latch, leaves it,
or is one that latches the key.
-/
theorem perform_cases :
    later.answers = history.answers ++ [history.keys.latch] ∧
        later.keys = { history.keys with latch := 0 } ∨
      later.answers = history.answers ∧
        (later.keys.latch = 0 ∨
          later.keys.latch = history.keys.latch ∨
          ∀ wanted, wanted later.keys.latch = true → event.latches wanted = true) := by
  cases event with
  | press key =>
      cases performed
      refine .inr ⟨rfl, .inr ?_⟩
      unfold LiveKeys.press
      split
      · exact .inr fun _ here => here
      · exact .inl rfl
  | release key =>
      cases performed
      refine .inr ⟨rfl, ?_⟩
      unfold LiveKeys.release
      split
      · by_cases same : history.keys.latch = key
        · exact .inl (if_pos same)
        · exact .inr (.inl (if_neg same))
      · exact .inr (.inl rfl)
  | take =>
      cases performed
      exact .inl ⟨rfl, rfl⟩
  | await =>
      obtain ⟨reply, answered, rfl⟩ := Option.map_eq_some_iff.mp performed
      obtain ⟨_, rfl⟩ := LiveKeys.await?_eq_some answered
      exact .inl ⟨rfl, rfl⟩
  | relatch key =>
      cases performed
      refine .inr ⟨rfl, .inr ?_⟩
      unfold LiveKeys.relatch
      split
      · exact .inr fun _ here => here
      · exact .inl rfl
  | relatchLowest =>
      cases performed
      exact .inr ⟨rfl, .inr (.inr fun _ _ => rfl)⟩
  | reset =>
      cases performed
      exact .inr ⟨rfl, .inl rfl⟩

/-- A read answers with a key that is held, before it and after it. -/
theorem isHeld_of_answered
    (safe : history.keys.LatchHeld)
    {key : Word}
    (answered : later.answers = history.answers ++ [key])
    (notZero : key ≠ 0) :
    history.keys.isHeld key = true ∧ later.keys.isHeld key = true := by
  rcases perform_cases performed with ⟨answers, keys⟩ | ⟨answers, _⟩
  · obtain rfl : history.keys.latch = key := by
      have same := List.append_cancel_left (answers.symm.trans answered)
      exact List.head_eq_of_cons_eq same
    rw [keys]
    exact ⟨safe notZero, safe notZero⟩
  · have longer := congrArg List.length (answers.symm.trans answered)
    simp at longer

/--
Answers with a wanted key and the latch that holds one are paid for by the
events that latch such a key.
-/
theorem countP_answers_perform
    {wanted : Word → Bool}
    (unwantedZero : wanted 0 = false) :
    later.answers.countP wanted + (wanted later.keys.latch).toNat ≤
      history.answers.countP wanted + (wanted history.keys.latch).toNat +
        (event.latches wanted).toNat := by
  -- A read moves its key from the latch to the answers; only a latching event adds one.
  rcases perform_cases performed with ⟨answers, keys⟩ | ⟨answers, latch⟩
  · have now : (wanted later.keys.latch).toNat = 0 := by rw [keys, unwantedZero]; rfl
    rw [answers, now, List.countP_append, List.countP_singleton]
    cases wanted history.keys.latch <;> simp
  · rw [answers]
    rcases latch with empty | same | latches
    · rw [empty, unwantedZero]
      simp only [Bool.toNat_false]
      omega
    · rw [same]
      omega
    · cases here : wanted later.keys.latch with
      | false =>
          simp only [Bool.toNat_false]
          omega
      | true =>
          rw [latches wanted here]
          omega

end Step

section Run

variable
  {events : List KeyEvent}
  {history later : KeyHistory}
  (performed : history.performAll? events = some later)

include performed

/-- The latch holds a held key after any events. -/
theorem latchHeld_performAll (safe : history.keys.LatchHeld) : later.keys.LatchHeld := by
  induction events generalizing history with
  | nil =>
      cases performed
      exact safe
  | cons event rest inductionHypothesis =>
      obtain ⟨next, first, others⟩ := Option.bind_eq_some_iff.mp performed
      exact inductionHypothesis others (latchHeld_perform first safe)

/-- Each answer, and what the latch still holds, was paid for by an event that fills it. -/
theorem countP_answers_performAll
    {wanted : Word → Bool}
    (unwantedZero : wanted 0 = false) :
    later.answers.countP wanted + (wanted later.keys.latch).toNat ≤
      history.answers.countP wanted + (wanted history.keys.latch).toNat +
        events.countP (KeyEvent.latches wanted) := by
  induction events generalizing history with
  | nil =>
      cases performed
      exact Nat.le_refl _
  | cons event rest inductionHypothesis =>
      obtain ⟨next, first, others⟩ := Option.bind_eq_some_iff.mp performed
      have step := countP_answers_perform first unwantedZero
      have run := inductionHypothesis others
      have paid :
          (event :: rest).countP (KeyEvent.latches wanted) =
            rest.countP (KeyEvent.latches wanted) + (event.latches wanted).toNat := by
        rw [List.countP_cons]
        cases event.latches wanted <;> rfl
      omega

end Run

/-- A wanted key is read from a new keyboard at most as often as events latch one. -/
theorem countP_answers_le
    {events : List KeyEvent}
    {history : KeyHistory}
    (performed : ({} : KeyHistory).performAll? events = some history)
    {wanted : Word → Bool}
    (unwantedZero : wanted 0 = false) :
    history.answers.countP wanted ≤ events.countP (KeyEvent.latches wanted) := by
  have whole := countP_answers_performAll performed unwantedZero
  have start : (wanted ({} : KeyHistory).keys.latch).toNat = 0 := congrArg Bool.toNat unwantedZero
  have nothing : ({} : KeyHistory).answers.countP wanted = 0 := rfl
  omega

/--
In every order of events at a new keyboard, nothing is latched or a key from 1
to 127 that is held, a read that answers a key answers one that is held at that
moment, and there are no more such reads than presses and requests to latch
again, for all keys together and for each key alone.
-/
theorem latch_is_safe
    {events : List KeyEvent}
    {history : KeyHistory}
    (performed : ({} : KeyHistory).performAll? events = some history) :
    (history.keys.latch = 0 ∨
        1 ≤ history.keys.latch.toInt ∧
          history.keys.latch.toInt ≤ 127 ∧
          history.keys.isHeld history.keys.latch = true) ∧
      (∀ event later key,
        history.perform? event = some later →
        later.answers = history.answers ++ [key] →
        key ≠ 0 →
        history.keys.isHeld key = true ∧ later.keys.isHeld key = true) ∧
      history.answers.countP (· != 0) ≤ events.countP (KeyEvent.latches fun _ => true) ∧
      ∀ key,
        key ≠ 0 →
        history.answers.count key ≤ events.countP (KeyEvent.latches (· == key)) := by
  have safe := latchHeld_performAll performed (.of_latch_eq_zero rfl)
  refine ⟨?_, ?_, ?_, ?_⟩
  · by_cases empty : history.keys.latch = 0
    · exact .inl empty
    · obtain ⟨above, below⟩ := safe.latch_bounds empty
      exact .inr ⟨above, below, safe empty⟩
  · intro event later key next answered notZero
    exact isHeld_of_answered next safe answered notZero
  · refine Nat.le_trans (countP_answers_le performed rfl) (List.countP_mono_left ?_)
    exact fun _ _ latches => KeyEvent.latches_mono (fun _ _ => rfl) latches
  · intro key notZero
    exact countP_answers_le performed (beq_false_of_ne notZero.symm)

/-- Keys that come and go, keys that there are not, and key zero, which reads as none. -/
theorem held_keys_read :
    ∃ history,
      ({} : KeyHistory).performAll?
          [.press 20, .take, .press 21, .press 200, .release 20, .await, .press 0, .take,
            .relatchLowest] =
        some history ∧
        history.answers = [20, 21, 0] ∧
        history.keys.latch = 21 ∧
        history.keys.isHeld history.keys.latch = true ∧
        history.answers.count 21 ≤ 2 := by
  refine ⟨_, rfl, rfl, rfl, ?_⟩
  obtain ⟨empty | ⟨_, _, held⟩, _, _, each⟩ :=
    @latch_is_safe
      [.press 20, .take, .press 21, .press 200, .release 20, .await, .press 0, .take,
        .relatchLowest] _ rfl
  · cases empty
  · exact ⟨held, each 21 (by decide)⟩

end KeyHistory

end Handheld
