import Handheld.Proofs.Choice.Display
import Handheld.Proofs.Memory.OverlappingCopy

namespace Handheld

/-!
# Choosing a file is safe

However the keys come, the highlight stays on the page and on an entry, so the
chosen name is always one of the entries. A script of keys ends the choice at its
first Enter or Escape, or with the first read past its end, so no more than one
key is read past the script, and a choice with more turns to take ends the same.
-/

namespace Chooser

namespace Inside

/-- The first name is chosen at the start, whatever the number of names. -/
theorem start (last : Nat) : ({} : Chooser).Inside last :=
  ⟨Nat.zero_le last, by decide⟩

section Moves

variable
  {chooser : Chooser}
  {last : Nat}
  (inside : chooser.Inside last)

include inside

/-- Moving up stays among the names. -/
theorem up : chooser.up.Inside last := by
  obtain ⟨entry, page⟩ := inside
  unfold Chooser.up
  split
  · exact ⟨by dsimp only; omega, page⟩
  · exact ⟨by dsimp only; omega, by dsimp only; omega⟩

/-- One down stays on the entries as long as the last one is not highlighted. -/
theorem down (before : chooser.offset + chooser.index < last) : chooser.down.Inside last := by
  obtain ⟨_, page⟩ := inside
  unfold Chooser.down pageSize at *
  split
  · exact ⟨by dsimp only; omega, page⟩
  · exact ⟨by dsimp only; omega, by dsimp only [pageSize]; omega⟩

/-- Moving a page up stays among the names. -/
theorem pageUp : chooser.pageUp.Inside last := by
  obtain ⟨entry, page⟩ := inside
  unfold Chooser.pageUp
  split
  · exact start last
  · exact ⟨by dsimp only; omega, page⟩

/-- On the last page the highlight goes to the last entry, which is on the page. -/
theorem pageDown : (chooser.pageDown last).Inside last := by
  obtain ⟨entry, page⟩ := inside
  unfold Chooser.pageDown pageSize at *
  -- Past the first branch fewer than a page is left, so the last entry is on it.
  split
  · exact ⟨by dsimp only; omega, by dsimp only [pageSize]; omega⟩
  · exact ⟨by dsimp only; omega, by dsimp only [pageSize]; omega⟩

/-- No key moves the highlight off the page or off the entries. -/
theorem respond
    {key : Word}
    {moved : Chooser}
    (moves : chooser.respond last key = .move moved) :
    moved.Inside last := by
  unfold Chooser.respond at moves
  split at moves
  · cases moves
  split at moves
  · cases moves
  split at moves
  · cases moves
    exact inside.up
  split at moves
  · split at moves
    case isTrue before =>
      cases moves
      exact inside.down before
    case isFalse => cases moves
  split at moves
  · cases moves
    exact inside.pageUp
  split at moves
  · cases moves
    exact inside.pageDown
  · cases moves

end Moves

end Inside

/-- A key that a choice reads, seen from just before. -/
structure Reading where
  chooser : Chooser
  device : Device

namespace Reading

/-- The next key, read with a page drawn again or not. -/
def next
    (names : List (List UInt8))
    (chooser : Chooser)
    (redraw : Bool)
    (device : Device) :
    Reading :=
  { chooser := chooser, device := if redraw then chooser.draw names device else device }

/-- The key that is read. -/
def key (reading : Reading) : Word :=
  (reading.device.keyboard.read true).answer

/-- The device after the key is read. -/
def after (reading : Reading) : Device :=
  (reading.device.heard (reading.device.keyboard.read true)).2

/-- Whether the key ends the choice. -/
def Ends (reading : Reading) : Prop :=
  reading.key = Key.enter ∨ reading.key = Key.escape ∨ reading.key = 0

instance (reading : Reading) : Decidable reading.Ends :=
  inferInstanceAs (Decidable (_ ∨ _ ∨ _))

/-- Where the highlight stands after the key, and whether the page is drawn again. -/
def onward
    (reading : Reading)
    (names : List (List UInt8)) :
    Chooser × Bool :=
  match reading.chooser.respond (names.length - 1) reading.key with
  | .move moved => (moved, true)
  | .choose | .cancel | .ignore => (reading.chooser, false)

/-- What a key that ends the choice does. -/
def finish
    (reading : Reading)
    (names : List (List UInt8))
    (dest : Nat) :
    Action Bool :=
  if reading.key = Key.enter then do
    Machine.storeString dest
      (names.getD (reading.chooser.offset + reading.chooser.index) [])
    return true
  else
    return false

end Reading

/-- The keys that a choice reads in as many turns as given. -/
def readings
    (names : List (List UInt8))
    (turns : Nat)
    (chooser : Chooser)
    (redraw : Bool)
    (device : Device) :
    List Reading :=
  match turns with
  | 0 => []
  | rest + 1 =>
      let reading := Reading.next names chooser redraw device
      reading ::
        if reading.Ends then
          []
        else
          readings names rest (reading.onward names).1 (reading.onward names).2 reading.after

/-- The enter key takes the chosen name. -/
theorem respond_of_enter
    {chooser : Chooser}
    {key : Word}
    (enter : key = Key.enter)
    (last : Nat) :
    chooser.respond last key = .choose :=
  if_pos enter

/-- Escape gives up, and so does the zero that a script without keys answers. -/
theorem respond_of_cancel
    {chooser : Chooser}
    {key : Word}
    (notEnter : key ≠ Key.enter)
    (cancels : key = Key.escape ∨ key = 0)
    (last : Nat) :
    chooser.respond last key = .cancel := by
  rw [respond, if_neg notEnter, if_pos cancels]

/-- A key that does not end the choice moves the highlight or does nothing. -/
theorem respond_of_not_ends
    {reading : Reading}
    (goesOn : ¬ reading.Ends)
    (last : Nat) :
    reading.chooser.respond last reading.key = .ignore ∨
      ∃ moved, reading.chooser.respond last reading.key = .move moved := by
  unfold Reading.Ends at goesOn
  unfold respond
  rw [if_neg (fun enter => goesOn (.inl enter)), if_neg (fun cancels => goesOn (.inr cancels))]
  split
  · exact .inr ⟨_, rfl⟩
  split
  · split
    · exact .inr ⟨_, rfl⟩
    · exact .inl rfl
  split
  · exact .inr ⟨_, rfl⟩
  split
  · exact .inr ⟨_, rfl⟩
  · exact .inl rfl

section Invariants

variable {names : List (List UInt8)}

/-- The highlight stays inside the entries after a key. -/
theorem Reading.inside_onward
    {reading : Reading}
    (inside : reading.chooser.Inside (names.length - 1)) :
    (reading.onward names).1.Inside (names.length - 1) := by
  unfold onward
  split
  case h_1 moves => exact inside.respond moves
  all_goals exact inside

/-- A page that is not drawn again is still the one to show. -/
theorem Reading.highlights_onward
    {reading : Reading}
    (shown : reading.chooser.Highlights names reading.device)
    (stays : (reading.onward names).2 = false) :
    (reading.onward names).1.Highlights names reading.after := by
  unfold onward at *
  split at stays
  case h_1 => cases stays
  all_goals exact shown.heard _

/-- At every key that is read the highlight is inside the entries and shown where it is. -/
theorem readings_highlight
    (nonempty : names ≠ [])
    {turns : Nat}
    {chooser : Chooser}
    {redraw : Bool}
    {device : Device}
    (inside : chooser.Inside (names.length - 1))
    (shown : redraw = false → chooser.Highlights names device) :
    ∀ reading ∈ readings names turns chooser redraw device,
      reading.chooser.Inside (names.length - 1) ∧
        reading.chooser.Highlights names reading.device := by
  induction turns generalizing chooser redraw device with
  | zero => exact fun reading member => by cases member
  | succ rest inductionHypothesis =>
      have here : chooser.Highlights names (Reading.next names chooser redraw device).device := by
        cases redraw with
        | false => exact shown rfl
        | true => exact highlights_draw nonempty inside device
      intro reading member
      rw [readings, List.mem_cons] at member
      rcases member with rfl | later
      · exact ⟨inside, here⟩
      · split at later
        case isTrue => cases later
        case isFalse =>
          exact inductionHypothesis (Reading.inside_onward inside)
            (Reading.highlights_onward here) reading later

end Invariants

/-- Drawing the page reads no keys. -/
theorem keyboard_next
    (names : List (List UInt8))
    (chooser : Chooser)
    (redraw : Bool)
    (device : Device) :
    (Reading.next names chooser redraw device).device.keyboard = device.keyboard := by
  cases redraw with
  | false => rfl
  | true => exact (kept_draw chooser names device).keyboard

/-- What a choice reads from a script: some keys that move on, and one that ends it. -/
structure Course
    (names : List (List UInt8))
    (keys : List Word)
    (chooser : Chooser)
    (redraw : Bool)
    (device : Device)
    (earlier : List Reading)
    (final : Reading) :
    Prop where
  readings :
    ∀ turns,
      keys.length < turns →
      readings names turns chooser redraw device = earlier ++ [final]
  few : earlier.length ≤ keys.length
  goesOn : ∀ reading ∈ earlier, ¬ reading.Ends
  ends : final.Ends
  /-- The keys are those of the script, and zeros behind it. -/
  pressed :
    ∀ place reading,
      (earlier ++ [final])[place]? = some reading →
      reading.key = keys.getD place 0
  left : final.after.keyboard = .scripted (keys.drop (earlier.length + 1))

section Script

variable
  {names : List (List UInt8)}
  {keys : List Word}
  {chooser : Chooser}
  {redraw : Bool}
  {device : Device}
  (scripted : device.keyboard = .scripted keys)

include scripted

/-- The next key is the first of the script, or zero when it is used up. -/
theorem key_next : (Reading.next names chooser redraw device).key = keys.getD 0 0 := by
  rw [Reading.key, keyboard_next, scripted]
  cases keys <;> rfl

/-- Reading a key takes it from the script. -/
theorem keyboard_after :
    (Reading.next names chooser redraw device).after.keyboard = .scripted keys.tail := by
  rw [Reading.after, Device.heard, keyboard_next, scripted]
  rfl

/-- A reading that ends the choice is a course by itself. -/
theorem course_of_ends (ends : (Reading.next names chooser redraw device).Ends) :
    Course names keys chooser redraw device [] (Reading.next names chooser redraw device) where
  readings := by
    rintro (_ | rest) enough
    · cases enough
    · rw [readings, if_pos ends, List.nil_append]
  few := Nat.zero_le _
  goesOn := by
    intro reading member
    cases member
  ends := ends
  pressed := by
    rintro (_ | place) reading there
    · cases there
      exact key_next scripted
    · cases there
  left := by
    rw [keyboard_after scripted, List.length_nil, List.drop_one]

/-- A reading that does not end the choice is followed by a course of the rest. -/
theorem Course.cons
    {key : Word}
    {rest : List Word}
    (some : keys = key :: rest)
    (goesOn : ¬ (Reading.next names chooser redraw device).Ends)
    {earlier : List Reading}
    {final : Reading}
    (later :
      let reading := Reading.next names chooser redraw device
      Course names rest (reading.onward names).1 (reading.onward names).2 reading.after
        earlier final) :
    Course names keys chooser redraw device
      (Reading.next names chooser redraw device :: earlier) final := by
  subst some
  exact {
    readings := by
      rintro (_ | turns) enough
      · cases enough
      · rw [Chooser.readings, if_neg goesOn, later.readings turns (Nat.lt_of_succ_lt_succ enough)]
        rfl
    few := Nat.succ_le_succ later.few
    goesOn := List.forall_mem_cons.mpr ⟨goesOn, later.goesOn⟩
    ends := later.ends
    pressed := by
      rintro (_ | place) reading there
      · cases there
        exact key_next scripted
      · exact later.pressed place reading there
    left := later.left
  }

/-- With a script of keys a choice comes to its end. -/
theorem exists_course :
    ∃ earlier final, Course names keys chooser redraw device earlier final := by
  induction keys generalizing chooser redraw device with
  | nil =>
      -- Past the end of the script the read gives zero, so a key that goes on is one of it.
      have zero : (Reading.next names chooser redraw device).key = 0 := key_next scripted
      exact ⟨[], _, course_of_ends scripted (.inr (.inr zero))⟩
  | cons key rest inductionHypothesis =>
      by_cases ends : (Reading.next names chooser redraw device).Ends
      · exact ⟨[], _, course_of_ends scripted ends⟩
      · obtain ⟨earlier, final, later⟩ := inductionHypothesis (keyboard_after scripted)
        exact ⟨_, final, .cons scripted rfl ends later⟩

end Script

end Chooser

namespace Machine

open Chooser

/-- Reading a key answers as the keyboard does and changes nothing but the device. -/
theorem outcome_readKey
    (machine : Machine)
    (waiting : Bool) :
    machine.outcome (readKey waiting) =
      (.ok (machine.device.keyboard.read waiting).answer,
        { machine with
          device := (machine.device.heard (machine.device.keyboard.read waiting)).2 }) :=
  rfl

section Turns

variable
  (names : List (List UInt8))
  (dest : Nat)

/-- Once the page is drawn or not, a turn reads a key and goes on as it says. -/
theorem outcome_turn
    (machine : Machine)
    (rest : Nat)
    (chooser : Chooser)
    (redraw : Bool) :
    let reading := Reading.next names chooser redraw machine.device
    machine.outcome (chooseFrom names dest (rest + 1) chooser redraw) =
      { machine with device := reading.after }.outcome
        (match chooser.respond (names.length - 1) reading.key with
        | .choose => do
            storeString dest (names.getD (chooser.offset + chooser.index) [])
            return true
        | .cancel => return false
        | .move moved => chooseFrom names dest rest moved true
        | .ignore => chooseFrom names dest rest chooser false) := by
  intro reading
  rw [chooseFrom]
  cases redraw with
  | false => exact outcome_bind_of_ok (outcome_readKey machine true) _
  | true =>
      refine (outcome_bind_of_ok (outcome_onDevice machine (chooser.draw names)) _).trans ?_
      exact outcome_bind_of_ok (outcome_readKey _ true) _

/-- A key ends the choice, or the choice goes on with one turn less. -/
theorem outcome_chooseFrom_succ
    (machine : Machine)
    (rest : Nat)
    (chooser : Chooser)
    (redraw : Bool) :
    let reading := Reading.next names chooser redraw machine.device
    let heard := { machine with device := reading.after }
    machine.outcome (chooseFrom names dest (rest + 1) chooser redraw) =
      if reading.Ends then
        heard.outcome (reading.finish names dest)
      else
        heard.outcome
          (chooseFrom names dest rest (reading.onward names).1 (reading.onward names).2) := by
  intro reading heard
  refine (outcome_turn names dest machine rest chooser redraw).trans ?_
  by_cases enter : reading.key = Key.enter
  · rw [respond_of_enter enter, if_pos (.inl enter), Reading.finish, if_pos enter]
    rfl
  by_cases cancels : reading.key = Key.escape ∨ reading.key = 0
  · rw [respond_of_cancel enter cancels, if_pos (.inr cancels), Reading.finish, if_neg enter]
  have goesOn : ¬ reading.Ends := fun ends => ends.elim enter cancels
  rw [if_neg goesOn]
  rcases respond_of_not_ends goesOn (names.length - 1) with ignored | ⟨moved, moves⟩
  · have onward : reading.onward names = (chooser, false) := by
      rw [Reading.onward, ignored]
      rfl
    have ignored : chooser.respond (names.length - 1) reading.key = .ignore := ignored
    rw [ignored, onward]
  · have onward : reading.onward names = (moved, true) := by rw [Reading.onward, moves]
    have moves : chooser.respond (names.length - 1) reading.key = .move moved := moves
    rw [moves, onward]

/-- The choice ends as its last key says. -/
theorem outcome_chooseFrom
    {machine : Machine}
    {turns : Nat}
    {chooser : Chooser}
    {redraw : Bool}
    {earlier : List Reading}
    {final : Reading}
    (read : readings names turns chooser redraw machine.device = earlier ++ [final])
    (ends : final.Ends) :
    machine.outcome (chooseFrom names dest turns chooser redraw) =
      { machine with device := final.after }.outcome (final.finish names dest) := by
  induction turns generalizing machine chooser redraw earlier with
  | zero => cases earlier <;> cases read
  | succ rest inductionHypothesis =>
      rw [outcome_chooseFrom_succ names dest machine rest chooser redraw]
      rw [readings] at read
      cases earlier with
      | nil =>
          obtain ⟨rfl, _⟩ := List.cons.inj read
          rw [if_pos ends]
      | cons first later =>
          obtain ⟨rfl, readLater⟩ := List.cons.inj read
          split at readLater
          -- A key that ends the choice is the last one.
          case isTrue => cases later <;> cases readLater
          case isFalse goesOn =>
            rw [if_neg goesOn]
            exact inductionHypothesis readLater

end Turns

end Machine

namespace Chooser

/-- How a choice ends in the machine that its last key leaves behind. -/
structure Answered
    (names : List (List UInt8))
    (dest : Nat)
    (final : Reading)
    (heard : Machine)
    (ended : Except Fault Bool × Machine) :
    Prop where
  /-- Enter stores the highlighted entry and a NUL, or nothing if they do not fit. -/
  enter :
    final.key = Key.enter →
    ∃ entry,
      names[final.chooser.offset + final.chooser.index]? = some entry ∧
        (dest + (entry.length + 1) ≤ Ram.capacity →
          ∃ ram,
            ended = (.ok true, { heard with device := { heard.device with ram := ram } }) ∧
              ram.bytes dest (entry.length + 1) = entry ++ [0] ∧
              Ram.SameOutside dest (entry.length + 1) heard.ram ram) ∧
        (Ram.capacity < dest + (entry.length + 1) →
          ended = (.error (.memoryRange dest (entry.length + 1)), heard))
  /-- Escape or the end of the keys gives up and changes nothing more. -/
  cancel :
    final.key ≠ Key.enter →
    (final.key = Key.escape ∨ final.key = 0) ∧ ended = (.ok false, heard)

/-- The last reading of a course answers the program. -/
theorem answered_finish
    {names : List (List UInt8)}
    (nonempty : names ≠ [])
    (dest : Nat)
    {final : Reading}
    (inside : final.chooser.Inside (names.length - 1))
    (ends : final.Ends)
    (heard : Machine) :
    Answered names dest final heard (heard.outcome (final.finish names dest)) where
  enter := by
    intro enter
    obtain ⟨entry, there⟩ := inside.exists_entry nonempty
    have chosen :
        names.getD (final.chooser.offset + final.chooser.index) [] = entry := by
      rw [List.getD_eq_getElem?_getD, there, Option.getD_some]
    have length : (entry ++ [0]).length = entry.length + 1 := List.length_append
    rw [Reading.finish, if_pos enter, chosen]
    refine ⟨entry, there, fun fits => ?_, fun tooLong => ?_⟩
    · refine ⟨heard.ram.writeString dest entry, ?_, ?_, ?_⟩
      · rw [Machine.outcome_bind_of_ok (heard.outcome_storeString fits)]
        rfl
      · rw [← length]
        exact Ram.bytes_write (by omega)
      · exact heard.ram.sameOutside_write fits (Nat.le_of_eq length)
    · rw [Machine.outcome_bind_of_error (heard.outcome_storeString_of_lt tooLong)]
  cancel := by
    intro notEnter
    rw [Reading.finish, if_neg notEnter]
    exact ⟨ends.resolve_left notEnter, rfl⟩

/-- The entries are short enough to be shown. -/
theorem length_le_of_mem_entries
    {workingDir : String}
    {names : List String}
    {entry : List UInt8}
    (member : entry ∈ entries workingDir names) :
    entry.length ≤ longestName := by
  have short : ∀ name ∈ shownNames names, name.length ≤ longestName := by
    intro name shown
    exact of_decide_eq_true (List.mem_filter.mp shown).2
  unfold entries at member
  split at member
  · exact short entry member
  · rcases List.mem_cons.mp member with rfl | shown
    · decide
    · exact short entry shown

end Chooser

namespace Machine

open Chooser

/-- A choice takes its destination from the stack and a turn for every key and one more. -/
theorem outcome_chooseFile
    {machine : Machine}
    {keys : List Word}
    (scripted : machine.device.keyboard = .scripted keys)
    {word : Word}
    {stack : DataStack}
    {found : List String}
    (popped : machine.stack.pop = .ok (word, stack))
    (listed : machine.files.list = .ok found)
    (nonempty : Chooser.entries machine.files.workingDir found ≠ []) :
    machine.outcome chooseFile =
      { machine with stack := stack }.outcome
        (chooseFrom (Chooser.entries machine.files.workingDir found) word.address
            (keys.length + 1) {} true >>=
          pushBool) := by
  have turns : keysLeft machine.device.keyboard = keys.length := by rw [scripted, keysLeft]
  rw [chooseFile, outcome_bind_of_ok (outcome_popAddress popped),
    outcome_bind_of_ok (outcome_get _)]
  dsimp only
  rw [listed, turns]
  exact congrArg _ (if_neg nonempty)

/--
Choosing a file is safe.

From any script of keys a choice reads at most one key more than the script has,
however many turns it may take. At every key the highlight is on the page and on
an entry, and the band of the screen is the row in which that entry was written.
Enter stores just that entry and a NUL, or fails and stores nothing; otherwise
the last key is Escape or zero and nothing is chosen. The function takes its
destination from the stack and lets the user choose among the entries of the
working directory, none of them too long to be shown.
-/
theorem file_choice_safe
    (machine : Machine)
    (keys : List Word)
    (scripted : machine.device.keyboard = .scripted keys)
    (names : List (List UInt8))
    (nonempty : names ≠ []) :
    (∃ (earlier : List Reading) (final : Reading),
      earlier.length + 1 ≤ keys.length + 1 ∧
      (∀ more,
        readings names (keys.length + 1 + more) {} true machine.device = earlier ++ [final]) ∧
      (∀ place reading,
        (earlier ++ [final])[place]? = some reading →
        reading.key = keys.getD place 0) ∧
      (∀ reading ∈ earlier, ¬ reading.Ends) ∧
      (∀ reading ∈ earlier ++ [final],
        reading.chooser.offset + reading.chooser.index ≤ names.length - 1 ∧
          reading.chooser.index ≤ 4 ∧
          reading.chooser.Highlights names reading.device) ∧
      final.after.keyboard = .scripted (keys.drop (earlier.length + 1)) ∧
      ∀ dest more,
        Answered names dest final { machine with device := final.after }
          (machine.outcome (chooseFrom names dest (keys.length + 1 + more) {} true))) ∧
    (∀ word stack found,
      machine.stack.pop = .ok (word, stack) →
      machine.files.list = .ok found →
      names = Chooser.entries machine.files.workingDir found →
      (∀ name ∈ names, name.length ≤ longestName) ∧
        machine.outcome chooseFile =
          { machine with stack := stack }.outcome
            (chooseFrom names word.address (keys.length + 1) {} true >>= pushBool)) := by
  refine ⟨?_, ?_⟩
  · obtain ⟨earlier, final, course⟩ := @exists_course names keys {} true machine.device scripted
    have read (more : Nat) :
        readings names (keys.length + 1 + more) {} true machine.device = earlier ++ [final] :=
      course.readings (keys.length + 1 + more) (by omega)
    have safe : ∀ reading ∈ earlier ++ [final],
        reading.chooser.Inside (names.length - 1) ∧
          reading.chooser.Highlights names reading.device := by
      rw [← read 0]
      exact readings_highlight nonempty (.start _) (fun drawn => by cases drawn)
    have last := (safe final (List.mem_append_right earlier (List.mem_singleton_self final))).1
    refine ⟨earlier, final, Nat.succ_le_succ course.few, read, course.pressed, course.goesOn, ?_,
      course.left, ?_⟩
    · intro reading member
      obtain ⟨inside, highlights⟩ := safe reading member
      exact ⟨inside.entry, Nat.le_of_lt_succ inside.page, highlights⟩
    · intro dest more
      rw [outcome_chooseFrom names dest (read more) course.ends]
      exact answered_finish nonempty dest last course.ends _
  · rintro word stack found popped listed rfl
    exact ⟨fun name member => length_le_of_mem_entries member,
      outcome_chooseFile scripted popped listed nonempty⟩

/-- A machine on which keys are typed from a script. -/
def typing (keys : List Word) : Machine where
  device := { keyboard := .scripted keys }
  files := { store := { host := {}, root := [] } }

/-- The second of two entries is chosen by going down once. -/
theorem second_entry_chosen :
    let names : List (List UInt8) := [[0x61], [0x62]]
    let machine := typing [Key.down, Key.enter]
    machine.device.keyboard = .scripted [Key.down, Key.enter] ∧
      names ≠ [] ∧
      ∃ after,
        machine.outcome (chooseFrom names 0x3000 3 {} true) = (.ok true, after) ∧
          after.ram.bytes 0x3000 2 = [0x62, 0] := by
  intro names machine
  have scripted : machine.device.keyboard = .scripted [Key.down, Key.enter] := rfl
  obtain ⟨⟨earlier, final, _, read, _, _, _, _, answered⟩, -⟩ :=
    file_choice_safe machine [Key.down, Key.enter] scripted names (by decide)
  let first := Reading.next names {} true machine.device
  let second := Reading.next names { index := 1 } true first.after
  have down : first.key = Key.down := key_next scripted
  have enter : second.key = Key.enter := key_next (keyboard_after scripted)
  have goesOn : ¬ first.Ends := by
    rw [Reading.Ends, down]
    decide
  have moved : first.onward names = ({ index := 1 }, true) := by
    rw [Reading.onward, down]
    rfl
  have both : readings names 3 {} true machine.device = [first, second] := by
    rw [readings, if_neg goesOn, moved, readings, if_pos (.inl enter)]
  have last : final = second := by
    have same := congrArg List.getLast? ((read 0).symm.trans both)
    rw [List.getLast?_concat] at same
    exact Option.some.inj same
  subst last
  obtain ⟨entry, there, stored, -⟩ := (answered 0x3000 0).enter enter
  cases there
  obtain ⟨ram, ended, bytes, -⟩ := stored (by decide)
  exact ⟨rfl, by decide, _, ended, bytes⟩

end Machine

end Handheld
