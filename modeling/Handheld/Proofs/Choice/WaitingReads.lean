import Handheld.Proofs.Choice.FileChoice
import Handheld.Proofs.KeyLatch

namespace Handheld

/-!
# Reads that wait for a user

A waiting read of a live keyboard is one that is answered after some motions of
keys, and every read that is answered so is one during some visit. It is a run of
events at the keyboard, so it never answers zero and what stays latched is held.
A choice of a file, which reads until a key ends it, ends on any keyboard, and
never because its turns are over.
-/

/-- A motion of a key as an event at a keyboard. -/
def KeyMotion.event : KeyMotion → KeyEvent
  | .down key => .press key
  | .up key => .release key

namespace LiveKeys

/-- Motions one after the other are made in two parts. -/
theorem moveAll_append
    (keys : LiveKeys)
    (earlier later : List KeyMotion) :
    keys.moveAll (earlier ++ later) = (keys.moveAll earlier).moveAll later :=
  List.foldl_append

/-- A key above zero is latched when it goes down. -/
theorem await?_press_lastKey
    (keys : LiveKeys)
    (visit : Visit) :
    (keys.press visit.lastKey).await? = some (keys.press visit.lastKey).take := by
  have inside : visit.last.val + 1 < 128 := Nat.succ_lt_succ visit.last.isLt
  have named : Key.index? visit.lastKey = some ⟨visit.last + 1, inside⟩ := Key.index?_ofBits inside
  have latched : (keys.press visit.lastKey).latch ≠ 0 := by
    rw [press, named]
    intro zero
    have number := Key.toInt_eq_index named
    have none : visit.lastKey.toInt = 0 := congrArg Int32.toInt zero
    dsimp only at number
    omega
  exact if_neg latched

/-- The answer of a visit is that of a waiting read after some motions. -/
theorem exists_motions_answer
    (keys : LiveKeys)
    (visit : Visit) :
    ∃ motions, (keys.moveAll motions).await? = some (keys.answer visit) := by
  cases moved : (keys.moveAll visit.motions).await? with
  | some answered =>
      refine ⟨visit.motions, ?_⟩
      rw [moved, answer, moved]
  | none =>
      refine ⟨visit.motions ++ [.down visit.lastKey], ?_⟩
      rw [moveAll_append, answer, moved]
      exact await?_press_lastKey _ visit

/-- A read that is answered after some motions is answered during a visit that makes them. -/
theorem answer_of_await?
    {keys : LiveKeys}
    {visit : Visit}
    {answered : Word × LiveKeys}
    (awaited : (keys.moveAll visit.motions).await? = some answered) :
    keys.answer visit = answered := by
  rw [answer, awaited]

/-- Whatever happened during a visit, the key it ends with is a key. -/
theorem answer_ne_zero
    (keys : LiveKeys)
    (visit : Visit) :
    (keys.answer visit).1 ≠ 0 := by
  obtain ⟨motions, awaited⟩ := keys.exists_motions_answer visit
  obtain ⟨latched, answered⟩ := await?_eq_some awaited
  rw [answered]
  exact latched

/-- A read that was answered leaves nothing latched. -/
theorem latch_answer
    (keys : LiveKeys)
    (visit : Visit) :
    (keys.answer visit).2.latch = 0 := by
  obtain ⟨motions, awaited⟩ := keys.exists_motions_answer visit
  obtain ⟨_, answered⟩ := await?_eq_some awaited
  rw [answered]
  rfl

end LiveKeys

namespace KeyHistory

/-- Motions can always happen. -/
theorem performAll?_motions
    (history : KeyHistory)
    (motions : List KeyMotion)
    (later : List KeyEvent) :
    history.performAll? (motions.map KeyMotion.event ++ later) =
      { history with keys := history.keys.moveAll motions }.performAll? later := by
  induction motions generalizing history with
  | nil => rfl
  | cons motion rest inductionHypothesis =>
      cases motion with
      | down key => exact inductionHypothesis { history with keys := history.keys.press key }
      | up key => exact inductionHypothesis { history with keys := history.keys.release key }

/--
A waiting read of a live keyboard is a run of events at it: presses and releases
by the user, and a read that finds a key latched.
-/
theorem performAll?_answer
    (history : KeyHistory)
    (visit : Visit) :
    ∃ motions : List KeyMotion,
      history.performAll? (motions.map KeyMotion.event ++ [.await]) =
        some {
          keys := (history.keys.answer visit).2
          answers := history.answers ++ [(history.keys.answer visit).1]
        } := by
  obtain ⟨motions, awaited⟩ := history.keys.exists_motions_answer visit
  refine ⟨motions, ?_⟩
  rw [performAll?_motions, performAll?, perform?]
  dsimp only
  rw [awaited]
  rfl

end KeyHistory

namespace Keyboard

/-- A live keyboard never answers a waiting read with zero. -/
theorem read_waiting_ne_zero (board : LiveKeyboard) :
    ((Keyboard.live board).read true).answer ≠ 0 :=
  board.answer_ne_zero _

/-- Without anything latched and without plans, a user presses Escape. -/
theorem ends_of_keysLeft_eq_zero
    {keyboard : Keyboard}
    (none : Machine.keysLeft keyboard = 0) :
    (keyboard.read true).answer = Key.escape ∨ (keyboard.read true).answer = 0 := by
  cases keyboard with
  | live board =>
      obtain ⟨⟨held, latch⟩, coming⟩ := board
      unfold Machine.keysLeft at none
      dsimp only at none
      have nothing : latch = 0 := by
        by_contra latched
        rw [if_neg latched] at none
        omega
      have unplanned : coming = [] := List.length_eq_zero_iff.mp (by omega)
      subst nothing unplanned
      exact .inl rfl
  | scripted keys =>
      obtain rfl : keys = [] := List.length_eq_zero_iff.mp none
      exact .inr rfl

/-- Any other waiting read uses up a key. -/
theorem keysLeft_read
    {keyboard : Keyboard}
    (some : Machine.keysLeft keyboard ≠ 0) :
    Machine.keysLeft (keyboard.read true).keyboard < Machine.keysLeft keyboard := by
  cases keyboard with
  | live board =>
      have empty : (board.answer (board.coming.headD .escape)).2.latch = 0 := board.latch_answer _
      have after :
          Machine.keysLeft ((Keyboard.live board).read true).keyboard =
            board.coming.tail.length := by
        change _ + ite ((board.answer (board.coming.headD .escape)).2.latch = 0) 0 1 = _
        rw [if_pos empty]
        rfl
      rw [after, List.length_tail]
      unfold Machine.keysLeft at *
      dsimp only at *
      omega
  | scripted keys =>
      cases keys with
      | nil => exact absurd rfl some
      | cons key rest => exact Nat.lt_succ_self _

end Keyboard

namespace Chooser

/-- With any keyboard a choice comes to its end, before the turns for its keys are over. -/
theorem exists_end
    (names : List (List UInt8))
    (chooser : Chooser)
    (redraw : Bool)
    (device : Device) :
    ∃ earlier final,
      final.Ends ∧
        ∀ turns,
          Machine.keysLeft device.keyboard < turns →
          readings names turns chooser redraw device = earlier ++ [final] := by
  generalize count : Machine.keysLeft device.keyboard = left
  induction left using Nat.strongRecOn generalizing chooser redraw device with
  | ind left inductionHypothesis =>
      have here := keyboard_next names chooser redraw device
      generalize next : Reading.next names chooser redraw device = reading at here
      by_cases ends : reading.Ends
      · refine ⟨[], reading, ends, ?_⟩
        rintro (_ | rest) enough
        · cases enough
        · rw [readings, next, if_pos ends, List.nil_append]
      · -- A key that does not end the choice is one of those that were left.
        have some : left ≠ 0 := by
          intro none
          apply ends
          have last := Keyboard.ends_of_keysLeft_eq_zero (count.trans none)
          rw [← here] at last
          exact .inr last
        have fewer : Machine.keysLeft reading.after.keyboard < left := by
          rw [← count, ← here] at some ⊢
          exact Keyboard.keysLeft_read some
        obtain ⟨earlier, final, finalEnds, later⟩ :=
          inductionHypothesis _ fewer (reading.onward names).1 (reading.onward names).2
            reading.after rfl
        refine ⟨reading :: earlier, final, finalEnds, ?_⟩
        rintro (_ | rest) enough
        · cases enough
        · rw [readings, next, if_neg ends, later rest (by omega), List.cons_append]

end Chooser

namespace Machine

/--
A choice never ends because its turns are over: with more of them it takes the
same course, whether its keys come from a script or from a user.
-/
theorem outcome_chooseFrom_of_more
    (machine : Machine)
    (names : List (List UInt8))
    (dest more : Nat) :
    machine.outcome
        (chooseFrom names dest (keysLeft machine.device.keyboard + 1 + more) {} true) =
      machine.outcome (chooseFrom names dest (keysLeft machine.device.keyboard + 1) {} true) := by
  obtain ⟨earlier, final, ends, read⟩ := Chooser.exists_end names {} true machine.device
  rw [outcome_chooseFrom names dest (read _ (by omega)) ends,
    outcome_chooseFrom names dest (read _ (by omega)) ends]

end Machine

end Handheld
