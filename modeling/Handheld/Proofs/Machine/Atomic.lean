import Handheld.Proofs.Machine.Step

namespace Handheld

/-!
# Actions and memory faults

An action is atomic if it has touched nothing when it meets a memory fault. That
is so of actions that touch nothing at all and of those that meet no such fault,
and of the former followed by the latter: what is checked first keeps what comes
after from being done by halves. All opcodes but one are made that way.
-/

/-- Whether a fault says that memory does not reach as far as it was asked to. -/
def Fault.isMemory : Fault → Bool
  | .memoryRange _ _ | .unterminatedString _ => true
  | _ => false

namespace Machine

/-- Nothing but the stack, the program counter and the end of the program is different. -/
def Untouched (before after : Machine) : Prop :=
  ∃ stack pc finished,
    after = { before with stack := stack, pc := pc, finished := finished }

theorem Untouched.refl (machine : Machine) : Untouched machine machine :=
  ⟨machine.stack, machine.pc, machine.finished, rfl⟩

theorem Untouched.trans
    {before middle after : Machine}
    (earlier : Untouched before middle)
    (later : Untouched middle after) :
    Untouched before after := by
  obtain ⟨_, _, _, rfl⟩ := earlier
  obtain ⟨stack, pc, finished, rfl⟩ := later
  exact ⟨stack, pc, finished, rfl⟩

theorem Untouched.device
    {before after : Machine}
    (untouched : Untouched before after) :
    after.device = before.device := by
  obtain ⟨_, _, _, rfl⟩ := untouched
  rfl

theorem untouched_withStack
    (machine : Machine)
    (stack : DataStack) :
    Untouched machine { machine with stack := stack } :=
  ⟨stack, machine.pc, machine.finished, rfl⟩

theorem untouched_skip
    (machine : Machine)
    (count : Nat) :
    Untouched machine (machine.skip count) :=
  ⟨machine.stack, machine.pc + count, machine.finished, rfl⟩

/-- An action that touches nothing, whatever comes of it. -/
def Quiet (action : Action α) : Prop :=
  Moves Untouched action

/-- An action that never meets a memory fault. -/
def Tame (action : Action α) : Prop :=
  ∀ ⦃machine after : Machine⦄ ⦃fault : Fault⦄,
    machine.outcome action = (.error fault, after) →
    fault.isMemory = false

/-- An action that has touched nothing when it meets a memory fault. -/
def Atomic (action : Action α) : Prop :=
  ∀ ⦃machine after : Machine⦄ ⦃fault : Fault⦄,
    machine.outcome action = (.error fault, after) →
    fault.isMemory = true →
    Untouched machine after

section Rules

theorem Quiet.bind
    {action : Action α}
    {next : α → Action β}
    (first : Quiet action)
    (second : ∀ value, Quiet (next value)) :
    Quiet (action >>= next) :=
  Moves.bind Untouched.trans first second

theorem Quiet.atomic
    {action : Action α}
    (quiet : Quiet action) :
    Atomic action :=
  fun _ _ _ ends _ => quiet.of_outcome ends

theorem Tame.atomic
    {action : Action α}
    (tame : Tame action) :
    Atomic action := by
  intro machine after fault ends memory
  rw [tame ends] at memory
  cases memory

/-- A sequence meets a fault in its first part or in the second. -/
theorem outcome_bind_eq_error
    {machine after : Machine}
    {action : Action α}
    {next : α → Action β}
    {fault : Fault}
    (ends : machine.outcome (action >>= next) = (.error fault, after)) :
    machine.outcome action = (.error fault, after) ∨
      ∃ value middle,
        machine.outcome action = (.ok value, middle) ∧
          middle.outcome (next value) = (.error fault, after) := by
  rcases first : machine.outcome action with ⟨problem | value, middle⟩
  · rw [outcome_bind_of_error first] at ends
    cases ends
    exact .inl rfl
  · rw [outcome_bind_of_ok first] at ends
    exact .inr ⟨value, middle, rfl, ends⟩

theorem Tame.bind
    {action : Action α}
    {next : α → Action β}
    (first : Tame action)
    (second : ∀ value, Tame (next value)) :
    Tame (action >>= next) := by
  intro machine after fault ends
  rcases outcome_bind_eq_error ends with refused | ⟨value, middle, -, refused⟩
  · exact first refused
  · exact second value refused

/-- What is checked before anything is touched keeps the whole atomic. -/
theorem Quiet.bindAtomic
    {action : Action α}
    {next : α → Action β}
    (first : Quiet action)
    (second : ∀ value, Atomic (next value)) :
    Atomic (action >>= next) := by
  intro machine after fault ends memory
  rcases outcome_bind_eq_error ends with refused | ⟨value, middle, done, refused⟩
  · exact first.of_outcome refused
  · exact (first.of_outcome done).trans (second value refused memory)

theorem Tame.ofIte
    {condition : Prop}
    [Decidable condition]
    {yes no : Action α}
    (yesTame : Tame yes)
    (noTame : Tame no) :
    Tame (if condition then yes else no) := by
  split
  · exact yesTame
  · exact noTame

theorem Quiet.ofIte
    {condition : Prop}
    [Decidable condition]
    {yes no : Action α}
    (yesQuiet : Quiet yes)
    (noQuiet : Quiet no) :
    Quiet (if condition then yes else no) := by
  split
  · exact yesQuiet
  · exact noQuiet

end Rules

section Primitives

theorem quiet_pure (value : α) : Quiet (pure value : Action α) :=
  fun machine => .refl machine

theorem quiet_throw (fault : Fault) : Quiet (throw fault : Action α) :=
  fun machine => .refl machine

theorem quiet_get : Quiet (get : Action Machine) :=
  fun machine => .refl machine

theorem quiet_check (result : Except Fault α) : Quiet (check result) := by
  intro machine
  rw [outcome_check]
  exact .refl machine

theorem quiet_inRam (look : Ram → α) : Quiet (inRam look) :=
  fun machine => .refl machine

theorem quiet_push (value : Word) : Quiet (push value) :=
  quiet_get.bind fun _ => (quiet_check _).bind fun stack machine =>
    untouched_withStack machine stack

theorem quiet_pop : Quiet pop :=
  quiet_get.bind fun _ => (quiet_check _).bind fun (_, stack) =>
    Quiet.bind (fun machine => untouched_withStack machine stack) fun _ => quiet_pure _

theorem quiet_take (count : Nat) : Quiet (take count) :=
  quiet_get.bind fun _ => (quiet_check _).bind fun (_, stack) =>
    Quiet.bind (fun machine => untouched_withStack machine stack) fun _ => quiet_pure _

theorem quiet_takeThree : Quiet takeThree :=
  (quiet_take 3).bind fun _ => quiet_pure _

theorem quiet_takeFour : Quiet takeFour :=
  (quiet_take 4).bind fun _ => quiet_pure _

theorem quiet_popAddress : Quiet popAddress :=
  quiet_pop.bind fun _ => quiet_pure _

theorem quiet_checkRange (address length : Nat) : Quiet (checkRange address length) :=
  quiet_check _

theorem quiet_stringAt (address : Nat) : Quiet (stringAt address) := by
  refine (quiet_inRam _).bind fun text => ?_
  cases text with
  | some text => exact quiet_pure text
  | none => exact quiet_throw _

theorem tame_of_ok
    {action : Action α}
    (done : ∀ machine : Machine, ∃ value after, machine.outcome action = (.ok value, after)) :
    Tame action := by
  intro machine after fault ends
  obtain ⟨value, other, same⟩ := done machine
  rw [same] at ends
  cases ends

theorem tame_pure (value : α) : Tame (pure value : Action α) :=
  tame_of_ok fun machine => ⟨value, machine, rfl⟩

theorem tame_throw
    {fault : Fault}
    (other : fault.isMemory = false) :
    Tame (throw fault : Action α) := by
  intro machine after met ends
  cases ends
  exact other

theorem tame_get : Tame (get : Action Machine) :=
  tame_of_ok fun machine => ⟨machine, machine, rfl⟩

theorem tame_modifyGet (change : Machine → α × Machine) : Tame (modifyGet change : Action α) :=
  tame_of_ok fun machine => ⟨(change machine).1, (change machine).2, rfl⟩

theorem tame_modify (change : Machine → Machine) : Tame (modify change : Action Unit) :=
  tame_modifyGet _

theorem tame_onDevice (change : Device → Device) : Tame (onDevice change) :=
  tame_modify _

theorem tame_askDevice (question : Device → α × Device) : Tame (askDevice question) :=
  tame_modifyGet _

theorem tame_onRam (change : Ram → Ram) : Tame (onRam change) :=
  tame_onDevice _

theorem tame_inRam (look : Ram → α) : Tame (inRam look) :=
  tame_get.bind fun _ => tame_pure _

theorem tame_check
    {result : Except Fault α}
    (other : ∀ fault, result = .error fault → fault.isMemory = false) :
    Tame (check result) := by
  intro machine after fault ends
  rw [outcome_check] at ends
  exact other fault (congrArg Prod.fst ends)

theorem tame_push (value : Word) : Tame (push value) := by
  refine tame_get.bind fun machine => (tame_check ?_).bind fun stack => tame_modify _
  intro fault refused
  rw [((DataStack.push_eq_error_iff _ _ _).mp refused).2]
  rfl

theorem tame_pop : Tame pop := by
  refine tame_get.bind fun machine => (tame_check ?_).bind fun (value, stack) =>
    (tame_modify _).bind fun _ => tame_pure value
  intro fault refused
  unfold DataStack.pop at refused
  split at refused
  · cases refused
  · cases refused
    rfl

theorem tame_take (count : Nat) : Tame (take count) := by
  refine tame_get.bind fun machine => (tame_check ?_).bind fun (values, stack) =>
    (tame_modify _).bind fun _ => tame_pure values
  intro fault refused
  unfold DataStack.take at refused
  split at refused
  · cases refused
  · cases refused
    rfl

theorem tame_takeTwo : Tame takeTwo :=
  (tame_take 2).bind fun _ => tame_pure _

theorem tame_takeThree : Tame takeThree :=
  (tame_take 3).bind fun _ => tame_pure _

theorem tame_takeFive : Tame takeFive :=
  (tame_take 5).bind fun _ => tame_pure _

theorem tame_takeSix : Tame takeSix :=
  (tame_take 6).bind fun _ => tame_pure _

theorem tame_popAddress : Tame popAddress :=
  tame_pop.bind fun _ => tame_pure _

theorem tame_advance (count : Nat) : Tame (advance count) :=
  tame_get.bind fun _ =>
    .ofIte ((tame_modify _).bind fun _ => tame_pure _) (tame_throw rfl)

theorem tame_fetch (count : Nat) : Tame (fetch count) :=
  (tame_advance count).bind fun _ => tame_get.bind fun _ => tame_pure _

theorem tame_fetchWord : Tame fetchWord :=
  (tame_fetch 2).bind fun _ => tame_pure _

theorem tame_fetchSigned16 : Tame fetchSigned16 :=
  (tame_fetch 2).bind fun _ => tame_pure _

theorem tame_fetchBytes (count : Nat) : Tame (fetchBytes count) :=
  (tame_advance count).bind fun _ => tame_get.bind fun _ => tame_pure _

theorem tame_frameBase : Tame frameBase := by
  refine tame_get.bind fun machine => ?_
  cases machine.frameBase? with
  | some base => exact tame_pure base
  | none => exact tame_throw rfl

end Primitives

section Memory

theorem atomic_storeString
    (address : Nat)
    (text : List UInt8) :
    Atomic (storeString address text) :=
  (quiet_checkRange _ _).bindAtomic fun _ => (tame_onRam _).atomic

theorem quiet_popCount : Quiet popCount := by
  refine quiet_pop.bind fun count => ?_
  exact .ofIte ((quiet_throw _).bind fun _ => quiet_pure _) (quiet_pure _)

theorem quiet_popFormatted (count : Nat) : Quiet (popFormatted count) :=
  (quiet_take count).bind fun _ => quiet_get.bind fun _ => quiet_check _

theorem atomic_print : Atomic print := by
  refine quiet_popCount.bindAtomic fun count => ?_
  exact (quiet_popFormatted count).bindAtomic fun text => (tame_onDevice _).atomic

theorem atomic_printToString : Atomic printToString := by
  refine quiet_popCount.bindAtomic fun count => ?_
  refine (quiet_popFormatted _).bindAtomic fun text => ?_
  exact quiet_popAddress.bindAtomic fun dest => atomic_storeString dest text

theorem atomic_stringCopy : Atomic stringCopy := by
  refine quiet_popAddress.bindAtomic fun source => ?_
  refine quiet_popAddress.bindAtomic fun dest => ?_
  exact (quiet_stringAt source).bindAtomic fun text => atomic_storeString dest text

theorem quiet_stringLength : Quiet stringLength := by
  refine quiet_popAddress.bind fun address => ?_
  exact (quiet_stringAt address).bind fun text => quiet_push _

theorem atomic_stringAppend : Atomic stringAppend := by
  refine quiet_popAddress.bindAtomic fun source => ?_
  refine quiet_popAddress.bindAtomic fun dest => ?_
  refine (quiet_stringAt dest).bindAtomic fun front => ?_
  exact (quiet_stringAt source).bindAtomic fun text => atomic_storeString _ text

theorem quiet_stringFindChar : Quiet stringFindChar := by
  refine quiet_pop.bind fun wanted => ?_
  refine quiet_popAddress.bind fun address => ?_
  refine (quiet_inRam _).bind fun place => ?_
  cases place with
  | none => exact quiet_throw _
  | some found =>
      refine (quiet_inRam _).bind fun byte => ?_
      exact .ofIte (quiet_push _) (quiet_push 0)

theorem quiet_stringCompare : Quiet stringCompare := by
  refine quiet_popAddress.bind fun right => ?_
  refine quiet_popAddress.bind fun left => ?_
  refine (quiet_stringAt left).bind fun leftText => ?_
  exact (quiet_stringAt right).bind fun rightText => quiet_push _

theorem quiet_stringFind : Quiet stringFind := by
  refine quiet_popAddress.bind fun wantedAddress => ?_
  refine quiet_popAddress.bind fun address => ?_
  refine (quiet_stringAt address).bind fun text => ?_
  refine (quiet_stringAt wantedAddress).bind fun wanted => ?_
  cases occurrence? wanted 0 text with
  | some skipped => exact quiet_push _
  | none => exact quiet_push 0

theorem atomic_memorySet : Atomic memorySet := by
  refine quiet_takeThree.bindAtomic fun (address, value, count) => ?_
  exact (quiet_checkRange _ _).bindAtomic fun _ => (tame_onRam _).atomic

theorem quiet_takeCopy : Quiet takeCopy := by
  refine quiet_takeThree.bind fun (dest, source, count) => ?_
  refine (quiet_checkRange _ _).bind fun _ => ?_
  exact (quiet_checkRange _ _).bind fun _ => quiet_pure _

theorem atomic_memoryCopy : Atomic memoryCopy :=
  quiet_takeCopy.bindAtomic fun (_, _, _) => (tame_onRam _).atomic

theorem atomic_memoryMove : Atomic memoryMove :=
  quiet_takeCopy.bindAtomic fun (_, _, _) => (tame_onRam _).atomic

theorem quiet_checksum : Quiet checksum := by
  refine quiet_popAddress.bind fun count => ?_
  refine quiet_popAddress.bind fun address => ?_
  refine (quiet_checkRange _ _).bind fun _ => ?_
  exact (quiet_inRam _).bind fun _ => quiet_push _

theorem atomic_encrypt : Atomic encrypt := by
  refine quiet_takeThree.bindAtomic fun (address, count, passwordAddress) => ?_
  refine (quiet_stringAt _).bindAtomic fun password => ?_
  exact (quiet_checkRange _ _).bindAtomic fun _ => (tame_onRam _).atomic

theorem tame_getTime : Tame getTime := by
  refine tame_popAddress.bind fun address => ?_
  exact tame_get.bind fun _ => tame_onRam _

end Memory

section Graphics

theorem tame_drawOn
    (target : Target)
    (drawing : Drawing) :
    Tame (drawOn target drawing) :=
  tame_onDevice _

/-- A shape mode that does not exist is no matter of memory. -/
theorem tame_drawShape
    (target : Target)
    (mode : Word)
    (drawing : ShapeMode → Drawing) :
    Tame (drawShape target mode drawing) := by
  refine (tame_onDevice _).bind fun _ => (tame_check ?_).bind fun shape => tame_onDevice _
  intro fault refused
  unfold ShapeMode.ofMode at refused
  split at refused
  all_goals cases refused
  rfl

theorem atomic_textOut : Atomic textOut := by
  refine quiet_takeFour.bindAtomic fun (x, y, address, mode) => ?_
  exact (quiet_stringAt _).bindAtomic fun text => (tame_drawOn _ _).atomic

theorem tame_getPoint : Tame getPoint := by
  refine tame_takeTwo.bind fun (x, y) => ?_
  exact (tame_askDevice _).bind fun seen => tame_push seen

theorem tame_transformBuffer : Tame transformBuffer := by
  refine (tame_onDevice _).bind fun _ => ?_
  refine tame_pop.bind fun number => ?_
  cases bufferChange? number with
  | some drawing => exact tame_onDevice _
  | none => exact tame_pure ()

end Graphics

section Keys

theorem tame_readKey (waiting : Bool) : Tame (readKey waiting) :=
  tame_askDevice _

theorem tame_checkKey : Tame checkKey := by
  refine tame_pop.bind fun key => ?_
  refine .ofIte ?_ ?_
  · exact (tame_askDevice _).bind fun lowest => tame_push lowest
  · exact (tame_askDevice _).bind fun held => tame_push _

theorem tame_releaseKey : Tame releaseKey :=
  tame_pop.bind fun _ => .ofIte (tame_askDevice _) (tame_askDevice _)

end Keys

section Files

theorem tame_onFiles
    (operation : HandleTable → Except FileError α × HandleTable) :
    Tame (onFiles operation) :=
  tame_modifyGet _

theorem tame_updateFiles
    (operation : HandleTable → Except FileError (α × HandleTable)) :
    Tame (updateFiles operation) :=
  tame_onFiles _

theorem quiet_pathAt (address : Nat) : Quiet (pathAt address) :=
  (quiet_stringAt address).bind fun _ => quiet_pure _

theorem tame_popHandle : Tame popHandle :=
  tame_pop.bind fun _ => tame_pure _

theorem tame_writeTo
    (handle : Word)
    (bytes : List UInt8) :
    Tame (writeTo handle bytes) :=
  (tame_updateFiles _).bind fun _ => tame_pure _

/-- Both strings are read before the file is opened. -/
theorem atomic_fileOpen : Atomic fileOpen := by
  refine quiet_popAddress.bindAtomic fun modeAddress => ?_
  refine quiet_popAddress.bindAtomic fun pathAddress => ?_
  refine (quiet_pathAt pathAddress).bindAtomic fun path => ?_
  refine (quiet_pathAt modeAddress).bindAtomic fun mode => ?_
  exact ((tame_onFiles _).bind fun _ => tame_push _).atomic

theorem tame_fileClose : Tame fileClose := by
  refine tame_popHandle.bind fun handle => ?_
  exact (tame_onFiles _).bind fun _ => tame_pure _

/-- The range is checked before the file moves its cursor. -/
theorem atomic_fileRead : Atomic fileRead := by
  refine quiet_takeFour.bindAtomic fun (address, _, count, handle) => ?_
  refine (quiet_checkRange _ _).bindAtomic fun _ => ?_
  refine Tame.atomic ((tame_updateFiles _).bind fun found => ?_)
  exact (tame_onRam _).bind fun _ => tame_push _

theorem atomic_fileWrite : Atomic fileWrite := by
  refine quiet_takeFour.bindAtomic fun (address, _, count, handle) => ?_
  refine (quiet_checkRange _ _).bindAtomic fun _ => ?_
  refine (quiet_inRam _).bindAtomic fun bytes => ?_
  exact ((tame_writeTo _ bytes).bind fun _ => tame_push _).atomic

theorem tame_fileSeek : Tame fileSeek := by
  refine tame_takeThree.bind fun (handleWord, offset, base) => ?_
  have seek (origin : HandleTable → Except FileError Nat) :
      Tame (do
        let result ← updateFiles fun files =>
          seekFrom files (Word.ofByte handleWord.lowByte) (origin files) offset
        push (orElse (-1) (result.map Word.ofBits))) :=
    (tame_updateFiles _).bind fun _ => tame_push _
  dsimp only
  split
  · exact seek _
  · exact seek _
  · exact seek _
  · exact tame_push (-1)

theorem tame_fileTell : Tame fileTell := by
  refine tame_popHandle.bind fun handle => ?_
  exact tame_get.bind fun _ => tame_push _

theorem tame_fileAtEnd : Tame fileAtEnd := by
  refine tame_popHandle.bind fun handle => ?_
  exact tame_get.bind fun _ => tame_push _

theorem tame_fileRewind : Tame fileRewind := by
  refine tame_popHandle.bind fun handle => ?_
  exact (tame_updateFiles _).bind fun _ => tame_pure _

theorem tame_fileGetByte : Tame fileGetByte := by
  refine tame_popHandle.bind fun handle => ?_
  refine (tame_updateFiles _).bind fun found => ?_
  cases orElse [] found with
  | cons byte rest => exact tame_push _
  | nil => exact tame_push (-1)

theorem tame_filePutByte : Tame filePutByte := by
  refine tame_popHandle.bind fun handle => ?_
  refine tame_pop.bind fun byte => ?_
  exact (tame_writeTo handle _).bind fun _ => tame_push _

theorem atomic_withPath
    (operation : String → HandleTable → Except FileError Bool × HandleTable) :
    Atomic (withPath operation) := by
  refine quiet_popAddress.bindAtomic fun address => ?_
  refine (quiet_pathAt address).bindAtomic fun path => ?_
  exact ((tame_onFiles _).bind fun _ => tame_push _).atomic

end Files

theorem tame_mapTop (function : Word → Word) : Tame (mapTop function) :=
  tame_pop.bind fun _ => tame_push _

/-- Every built-in function is atomic but for the choice of a file, which draws before it stores. -/
theorem atomic_call :
    ∀ function : Builtin,
      function ≠ .chooseFile →
      Atomic (call function)
  | .putChar, _ => (tame_pop.bind fun _ => tame_onDevice _).atomic
  | .getChar, _ => ((tame_readKey true).bind fun key => tame_push key).atomic
  | .getWord, _ =>
      (tame_pop.bind fun _ => (tame_readKey true).bind fun key => tame_push key).atomic
  | .print, _ => atomic_print
  | .printToString, _ => atomic_printToString
  | .stringCopy, _ => atomic_stringCopy
  | .stringLength, _ => quiet_stringLength.atomic
  | .stringAppend, _ => atomic_stringAppend
  | .stringFindChar, _ => quiet_stringFindChar.atomic
  | .stringCompare, _ => quiet_stringCompare.atomic
  | .stringFind, _ => quiet_stringFind.atomic
  | .toLower, _ => (tame_mapTop _).atomic
  | .toUpper, _ => (tame_mapTop _).atomic
  | .testChar _, _ => (tame_mapTop _).atomic
  | .memorySet, _ => atomic_memorySet
  | .memoryCopy, _ => atomic_memoryCopy
  | .memoryMove, _ => atomic_memoryMove
  | .checksum, _ => quiet_checksum.atomic
  | .encrypt, _ => atomic_encrypt
  | .setScreen, _ => (tame_pop.bind fun _ => tame_onDevice _).atomic
  | .updateScreen, _ => (tame_pop.bind fun _ => tame_onDevice _).atomic
  | .writeBlock, _ =>
      (tame_takeSix.bind fun (_, _, _, _, _, _) => tame_drawOn _ _).atomic
  | .refresh, _ => (tame_onDevice (·.draw .refresh)).atomic
  | .textOut, _ => atomic_textOut
  | .block, _ =>
      (tame_takeFive.bind fun (_, _, _, _, _) => tame_drawShape _ _ _).atomic
  | .rectangle, _ =>
      (tame_takeFive.bind fun (_, _, _, _, _) => tame_drawShape _ _ _).atomic
  | .clearScreen, _ => (tame_drawOn .buffer .clear).atomic
  | .point, _ => (tame_takeThree.bind fun (_, _, _) => tame_drawShape _ _ _).atomic
  | .getPoint, _ => tame_getPoint.atomic
  | .line, _ =>
      (tame_takeFive.bind fun (_, _, _, _, _) => tame_drawShape _ _ _).atomic
  | .box, _ =>
      (tame_takeSix.bind fun (_, _, _, _, _, _) => tame_drawShape _ _ _).atomic
  | .circle, _ =>
      (tame_takeFive.bind fun (_, _, _, _, _) => tame_drawShape _ _ _).atomic
  | .ellipse, _ =>
      (tame_takeSix.bind fun (_, _, _, _, _, _) => tame_drawShape _ _ _).atomic
  | .transformBuffer, _ => tame_transformBuffer.atomic
  | .getBlock, _ =>
      (tame_takeSix.bind fun (_, _, _, _, _, _) => tame_drawOn _ _).atomic
  | .fillArea, _ => (tame_takeThree.bind fun (_, _, _) => tame_pure ()).atomic
  | .locate, _ => (tame_takeTwo.bind fun (_, _) => tame_onDevice _).atomic
  | .inKey, _ => ((tame_readKey false).bind fun key => tame_push key).atomic
  | .checkKey, _ => tame_checkKey.atomic
  | .releaseKey, _ => tame_releaseKey.atomic
  | .delay, _ => (tame_pop.bind fun _ => tame_pure ()).atomic
  | .exit, _ => (tame_modify _).atomic
  | .absolute, _ => (tame_mapTop _).atomic
  | .random, _ => ((tame_modifyGet _).bind fun value => tame_push value).atomic
  | .seedRandom, _ => (tame_pop.bind fun _ => tame_modify _).atomic
  | .beep, _ => (tame_pure ()).atomic
  | .sine, _ => (tame_mapTop sine).atomic
  | .cosine, _ => (tame_mapTop cosine).atomic
  | .getTicks, _ => (tame_get.bind fun _ => tame_push _).atomic
  | .getTime, _ => tame_getTime.atomic
  | .setTime, _ => (tame_pop.bind fun _ => tame_pure ()).atomic
  | .fileOpen, _ => atomic_fileOpen
  | .fileClose, _ => tame_fileClose.atomic
  | .fileRead, _ => atomic_fileRead
  | .fileWrite, _ => atomic_fileWrite
  | .fileSeek, _ => tame_fileSeek.atomic
  | .fileTell, _ => tame_fileTell.atomic
  | .fileAtEnd, _ => tame_fileAtEnd.atomic
  | .fileRewind, _ => tame_fileRewind.atomic
  | .fileGetByte, _ => tame_fileGetByte.atomic
  | .filePutByte, _ => tame_filePutByte.atomic
  | .makeDirectory, _ => atomic_withPath _
  | .deleteFile, _ => atomic_withPath _
  | .changeDirectory, _ => atomic_withPath _
  | .chooseFile, other => (other rfl).elim

section Instructions

theorem tame_indexedAddress : Tame indexedAddress :=
  tame_pop.bind fun _ => tame_fetchWord.bind fun _ => tame_pure _

theorem tame_frameIndexedAddress : Tame frameIndexedAddress :=
  tame_fetchWord.bind fun _ => tame_pop.bind fun _ => tame_frameBase.bind fun _ => tame_pure _

theorem tame_loadAddress : ∀ addressing : Addressing, Tame (loadAddress addressing)
  | .absolute => tame_fetch 2
  | .indexed => tame_indexedAddress
  | .frame => (tame_fetch 2).bind fun _ => tame_frameBase.bind fun _ => tame_pure _
  | .frameIndexed => tame_frameIndexedAddress

theorem tame_popPointer : Tame popPointer := by
  refine tame_pop.bind fun raw => (tame_check ?_).bind fun pointer =>
    tame_get.bind fun machine => (tame_check ?_).bind fun address => tame_pure _
  · intro fault refused
    unfold Pointer.decode at refused
    split at refused
    · cases refused
    · cases refused
      rfl
  · intro fault refused
    unfold Pointer.resolve at refused
    split at refused
    · split at refused
      · cases refused
      · cases refused
        rfl
    · cases refused

theorem tame_stepPointer (stepping : Stepping) : Tame (stepPointer stepping) := by
  refine tame_popPointer.bind fun (pointer, address) => ?_
  refine (tame_inRam _).bind fun value => ?_
  exact (tame_push _).bind fun _ => tame_onRam _

/-- All that division can meet is a zero. -/
theorem isMemory_quotient
    {left right : Word}
    {fault : Fault}
    (refused : left.quotient right = .error fault ∨ left.remainder right = .error fault) :
    fault.isMemory = false := by
  unfold Word.quotient Word.remainder at refused
  rcases refused with refused | refused
  · split at refused
    · cases refused
      rfl
    · cases refused
  · split at refused
    · cases refused
      rfl
    · cases refused

theorem tame_operate (operator : Operator) : Tame (execute (.operate operator)) := by
  refine tame_pop.bind fun right => tame_pop.bind fun left => (tame_check ?_).bind fun result =>
    tame_push result
  intro fault refused
  cases operator with
  | divide => exact isMemory_quotient (.inl refused)
  | remainder => exact isMemory_quotient (.inr refused)
  | _ => cases refused

theorem tame_operateImmediate (operator : ImmediateOperator) :
    Tame (execute (.operateImmediate operator)) := by
  refine tame_fetchSigned16.bind fun right => tame_pop.bind fun left =>
    (tame_check ?_).bind fun result => tame_push result
  intro fault refused
  cases operator with
  | divide => exact isMemory_quotient (.inl refused)
  | remainder => exact isMemory_quotient (.inr refused)
  | _ => cases refused

theorem tame_jumpWhen (test : Word → Bool) : Tame (jumpWhen test) := by
  refine (tame_fetch 3).bind fun target => tame_get.bind fun machine =>
    (tame_check ?_).bind fun value => .ofIte (tame_modify _) (tame_pure ())
  intro fault refused
  unfold DataStack.lastPopped at refused
  split at refused
  · cases refused
  · cases refused
    rfl

theorem tame_pushLiteral : Tame pushLiteral := by
  refine tame_get.bind fun first => (tame_push _).bind fun _ => tame_get.bind fun machine => ?_
  dsimp only
  refine (tame_onRam _).bind fun _ => (tame_modify _).bind fun _ => ?_
  exact .ofIte (.ofIte (tame_modify _) (tame_pure ())) (tame_throw rfl)

theorem tame_callInstruction : Tame (execute .call) := by
  refine (tame_fetch 3).bind fun target => tame_get.bind fun machine => ?_
  cases machine.frames with
  | none => exact tame_throw rfl
  | some frames =>
      exact tame_get.bind fun _ => (tame_onRam _).bind fun _ => tame_modify _

theorem tame_enterFrame (size arguments : Nat) : Tame (enterFrame size arguments) := by
  intro machine after fault ends
  rcases current : machine.frames with _ | frames
  · rw [outcome_enterFrame_of_none current] at ends
    cases ends
    rfl
  · rw [outcome_enterFrame current] at ends
    split at ends
    · cases ends
      rfl
    · rcases taken : machine.stack.take arguments with problem | ⟨values, rest⟩
      · rw [taken] at ends
        cases ends
        exact tame_take arguments (outcome_take_of_error taken)
      · rw [taken] at ends
        cases ends

theorem tame_leaveFrame : Tame leaveFrame := by
  refine tame_get.bind fun machine => ?_
  cases machine.frames with
  | none => exact tame_throw rfl
  | some frames =>
      exact (tame_inRam _).bind fun _ => (tame_inRam _).bind fun _ => tame_modify _

/-- No general instruction meets a memory fault: addresses beyond memory wrap around. -/
theorem tame_execute : ∀ instruction : Instruction, Tame (execute instruction)
  | .nothing => tame_pure ()
  | .loadAll => tame_pure ()
  | .pushImmediate .byte => (tame_fetch 1).bind fun _ => tame_push _
  | .pushImmediate .half => tame_fetchSigned16.bind fun _ => tame_push _
  | .pushImmediate .full => (tame_fetch 4).bind fun _ => tame_push _
  | .load addressing _ =>
      (tame_loadAddress addressing).bind fun _ => (tame_inRam _).bind fun value => tame_push value
  | .pointerIndexed _ => tame_indexedAddress.bind fun _ => tame_push _
  | .pointerFrameIndexed _ => tame_frameIndexedAddress.bind fun _ => tame_push _
  | .pushLiteral => tame_pushLiteral
  | .addressIndexed => tame_fetchWord.bind fun _ => tame_pop.bind fun _ => tame_push _
  | .addressFrameIndexed => tame_frameIndexedAddress.bind fun _ => tame_push _
  | .addressFrame => tame_fetchWord.bind fun _ => tame_frameBase.bind fun _ => tame_push _
  | .pushArea _ => tame_push _
  | .negate => tame_pop.bind fun _ => tame_push _
  | .complement => tame_pop.bind fun _ => tame_push _
  | .logicalNot => tame_pop.bind fun _ => tame_push _
  | .stepPointer stepping => tame_stepPointer stepping
  | .operate operator => tame_operate operator
  | .operateImmediate operator => tame_operateImmediate operator
  | .store =>
      tame_pop.bind fun value => tame_popPointer.bind fun (_, _) =>
        (tame_onRam _).bind fun _ => tame_push value
  | .loadByte => tame_popAddress.bind fun _ => (tame_inRam _).bind fun value => tame_push value
  | .bytePointer => tame_popAddress.bind fun _ => tame_push _
  | .pop => tame_pop.bind fun _ => tame_pure ()
  | .jumpIfZero => tame_jumpWhen _
  | .jumpIfNonzero => tame_jumpWhen _
  | .jump => (tame_fetch 3).bind fun _ => tame_modify _
  | .setFrameBase => (tame_fetch 2).bind fun _ => tame_modify _
  | .call => tame_callInstruction
  | .enter =>
      (tame_fetch 2).bind fun size => (tame_fetch 1).bind fun arguments =>
        tame_enterFrame size arguments
  | .leave => tame_leaveFrame
  | .halt => tame_modify _
  | .initData =>
      (tame_fetch 2).bind fun _ => (tame_fetch 2).bind fun length =>
        (tame_fetchBytes length).bind fun _ => tame_onRam _
  | .setXorFactor => (tame_fetch 1).bind fun _ => tame_modify _

end Instructions

theorem atomic_action
    {opcode : Opcode}
    (other : opcode ≠ .builtin .chooseFile) :
    Atomic opcode.action := by
  cases opcode with
  | general instruction => exact (tame_execute instruction).atomic
  | builtin function =>
      apply atomic_call function
      rintro rfl
      exact other rfl

end Machine

end Handheld
