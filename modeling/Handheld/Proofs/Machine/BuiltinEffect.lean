import Handheld.Proofs.Machine.Effect

namespace Handheld

/-!
# Effects of the built-in functions

Every built-in function takes its arguments from the stack before it gives a
result, so its effect is the sum of what it takes and what it gives. The two
printing functions take as many values as the top one says; for them it is the
part behind that value that has an effect.
-/

/-- How many values a built-in function takes. -/
def Builtin.demand : Builtin → Demand
  | .print | .printToString => .asTop
  | .getChar | .refresh | .clearScreen | .inKey | .exit | .random | .beep | .getTicks => .exactly 0
  | .putChar | .getWord | .stringLength | .toLower | .toUpper | .testChar _
  | .setScreen | .updateScreen | .transformBuffer | .checkKey | .releaseKey | .delay
  | .absolute | .seedRandom | .sine | .cosine | .getTime | .setTime | .fileClose
  | .fileTell | .fileAtEnd | .fileRewind | .fileGetByte | .makeDirectory | .deleteFile
  | .changeDirectory | .chooseFile => .exactly 1
  | .stringCopy | .stringAppend | .stringFindChar | .stringCompare | .stringFind
  | .checksum | .getPoint | .locate | .fileOpen | .filePutByte => .exactly 2
  | .memorySet | .memoryCopy | .memoryMove | .encrypt | .point | .fillArea | .fileSeek => .exactly 3
  | .textOut | .fileRead | .fileWrite => .exactly 4
  | .block | .rectangle | .line | .circle => .exactly 5
  | .writeBlock | .box | .ellipse | .getBlock => .exactly 6

/-- How many values a built-in function gives. -/
def Builtin.yield : Builtin → Nat
  | .getChar | .getWord | .stringLength | .stringFindChar | .stringCompare
  | .stringFind | .toLower | .toUpper | .testChar _ | .checksum | .getPoint | .inKey
  | .checkKey | .absolute | .random | .sine | .cosine | .getTicks | .fileOpen
  | .fileRead | .fileWrite | .fileSeek | .fileTell | .fileAtEnd | .fileGetByte
  | .filePutByte | .makeDirectory | .deleteFile | .changeDirectory | .chooseFile => 1
  | _ => 0

namespace Machine

section Memory

theorem effect_popFormatted (count : Nat) : Effect count 0 (popFormatted count) := by
  have formatted : Effect (0 + count) 0 (popFormatted count) :=
    (effect_take count).bind fun _ => effect_get.bind fun _ => effect_check _
  rwa [Nat.zero_add] at formatted

/-- Without a value there is no format. -/
theorem pos_of_outcome_popFormatted
    {machine after : Machine}
    {count : Nat}
    {text : List UInt8}
    (ends : machine.outcome (popFormatted count) = (.ok text, after)) :
    0 < count := by
  rcases Nat.eq_zero_or_pos count with nothing | positive
  · subst nothing
    obtain ⟨values, middle, -, formatted⟩ := outcome_bind_eq_ok.mp ends
    have empty : values.toList = [] := by
      apply List.eq_nil_of_length_eq_zero
      simp
    simp [outcome_bind, empty, Format.ofValues] at formatted
  · exact positive

/-- The top value says how many are taken with it. -/
theorem toList_of_outcome_popCount
    {machine after : Machine}
    {count : Nat}
    (ends : machine.outcome popCount = (.ok count, after)) :
    ∃ top : Word,
      machine.stack.toList = after.stack.toList ++ [top] ∧ count = top.bits := by
  obtain ⟨top, middle, popped, counted⟩ := outcome_bind_eq_ok.mp ends
  dsimp only at counted
  split at counted
  · cases counted
  · cases counted
    exact ⟨top, toList_of_outcome_pop popped, rfl⟩

theorem effect_popCount : Effect 1 0 popCount := by
  refine effect_pop.bind fun count => ?_
  exact .ofIte ((Effect.ofThrow _ 0 0).bind fun _ => .ofPure _) (.ofPure _)

/-- An action that takes as many values as the top one says. -/
theorem replaces_of_popCount
    {machine after : Machine}
    {produced : Nat}
    {rest : Nat → Action Unit}
    (effect :
      ∀ {count : Nat} {middle : Machine},
        middle.outcome (rest count) = (.ok (), after) →
        Replaces count produced middle.stack.toList after.stack.toList)
    (ends : machine.outcome (popCount >>= rest) = (.ok (), after)) :
    Replaces (Demand.asTop.count machine) produced
      machine.stack.toList after.stack.toList := by
  obtain ⟨count, middle, counted, taken⟩ := outcome_bind_eq_ok.mp ends
  obtain ⟨top, shape, rfl⟩ := toList_of_outcome_popCount counted
  have demand : Demand.asTop.count machine = top.bits + 1 := by
    simp [Demand.count, shape]
  rw [demand]
  exact (effect_popCount.stack counted).trans (effect taken)

theorem calm_print : Calm print :=
  effect_popCount.calm.bind fun count =>
    (effect_popFormatted count).calm.bind fun _ => (effect_onDevice _).calm

theorem replaces_of_print
    {machine after : Machine}
    (ends : machine.outcome print = (.ok (), after)) :
    Replaces (Demand.asTop.count machine) 0
      machine.stack.toList after.stack.toList := by
  refine replaces_of_popCount ?_ ends
  intro count middle taken
  exact ((effect_popFormatted count).followedBy fun _ => effect_onDevice _).stack taken

theorem calm_printToString : Calm printToString :=
  effect_popCount.calm.bind fun count =>
    (effect_popFormatted (count - 1)).calm.bind fun text =>
      effect_popAddress.calm.bind fun dest => (effect_storeString dest text).calm

theorem replaces_of_printToString
    {machine after : Machine}
    (ends : machine.outcome printToString = (.ok (), after)) :
    Replaces (Demand.asTop.count machine) 0
      machine.stack.toList after.stack.toList := by
  refine replaces_of_popCount ?_ ends
  intro count middle taken
  -- The destination is counted too, so a count of zero would leave no format.
  obtain ⟨text, later, formatted, stored⟩ := outcome_bind_eq_ok.mp taken
  have positive := pos_of_outcome_popFormatted formatted
  have all : 1 + (count - 1) = count := by omega
  have storing : Effect 1 0 (do
      let dest ← popAddress
      storeString dest text) :=
    effect_popAddress.bind fun dest => effect_storeString dest text
  have change := ((effect_popFormatted (count - 1)).stack formatted).trans (storing.stack stored)
  rwa [all] at change

theorem effect_stringCopy : Effect 2 0 stringCopy := by
  refine effect_popAddress.bind fun source => ?_
  refine effect_popAddress.bind fun dest => ?_
  exact (effect_stringAt source).bind fun text => effect_storeString dest text

theorem effect_stringLength : Effect 1 1 stringLength := by
  refine effect_popAddress.bind fun address => ?_
  exact (effect_stringAt address).bind fun text => effect_push _

theorem effect_stringAppend : Effect 2 0 stringAppend := by
  refine effect_popAddress.bind fun source => ?_
  refine effect_popAddress.bind fun dest => ?_
  refine (effect_stringAt dest).bind fun front => ?_
  exact (effect_stringAt source).bind fun text => effect_storeString _ text

theorem effect_stringFindChar : Effect 2 1 stringFindChar := by
  refine effect_pop.bind fun wanted => ?_
  refine effect_popAddress.bind fun address => ?_
  refine (effect_inRam _).bind fun place => ?_
  cases place with
  | none => exact .ofThrow _ 0 1
  | some found =>
      refine (effect_inRam _).bind fun byte => ?_
      exact .ofIte (effect_push _) (effect_push 0)

theorem effect_stringCompare : Effect 2 1 stringCompare := by
  refine effect_popAddress.bind fun right => ?_
  refine effect_popAddress.bind fun left => ?_
  refine (effect_stringAt left).bind fun leftText => ?_
  exact (effect_stringAt right).bind fun rightText => effect_push _

theorem effect_stringFind : Effect 2 1 stringFind := by
  refine effect_popAddress.bind fun wantedAddress => ?_
  refine effect_popAddress.bind fun address => ?_
  refine (effect_stringAt address).bind fun text => ?_
  refine (effect_stringAt wantedAddress).bind fun wanted => ?_
  cases occurrence? wanted 0 text with
  | some skipped => exact effect_push _
  | none => exact effect_push 0

theorem effect_memorySet : Effect 3 0 memorySet := by
  refine effect_takeThree.bind fun (address, value, count) => ?_
  exact (effect_checkRange _ _).bind fun _ => effect_onRam _

theorem effect_takeCopy : Effect 3 0 takeCopy := by
  refine effect_takeThree.bind fun (dest, source, count) => ?_
  refine (effect_checkRange _ _).bind fun _ => ?_
  exact (effect_checkRange _ _).bind fun _ => .ofPure _

theorem effect_memoryCopy : Effect 3 0 memoryCopy :=
  effect_takeCopy.bind fun (_, _, _) => effect_onRam _

theorem effect_memoryMove : Effect 3 0 memoryMove :=
  effect_takeCopy.bind fun (_, _, _) => effect_onRam _

theorem effect_checksum : Effect 2 1 checksum := by
  refine effect_popAddress.bind fun count => ?_
  refine effect_popAddress.bind fun address => ?_
  refine (effect_checkRange _ _).bind fun _ => ?_
  exact (effect_inRam _).bind fun _ => effect_push _

theorem effect_encrypt : Effect 3 0 encrypt := by
  refine effect_takeThree.bind fun (address, count, passwordAddress) => ?_
  refine (effect_stringAt _).bind fun password => ?_
  exact (effect_checkRange _ _).bind fun _ => effect_onRam _

theorem effect_getTime : Effect 1 0 getTime := by
  refine effect_popAddress.bind fun address => ?_
  exact effect_get.bind fun _ => effect_onRam _

end Memory

section Graphics

theorem effect_drawOn
    (target : Target)
    (drawing : Drawing) :
    Effect 0 0 (drawOn target drawing) :=
  effect_onDevice _

theorem effect_drawShape
    (target : Target)
    (mode : Word)
    (drawing : ShapeMode → Drawing) :
    Effect 0 0 (drawShape target mode drawing) := by
  refine (effect_onDevice _).bind fun _ => ?_
  exact (effect_check _).bind fun shape => effect_onDevice _

theorem effect_writeBlock : Effect 6 0 writeBlock :=
  effect_takeSix.bind fun (_, _, _, _, _, _) => effect_drawOn _ _

theorem effect_getBlock : Effect 6 0 getBlock :=
  effect_takeSix.bind fun (_, _, _, _, _, _) => effect_drawOn _ _

theorem effect_textOut : Effect 4 0 textOut := by
  refine effect_takeFour.bind fun (x, y, address, mode) => ?_
  exact (effect_stringAt _).bind fun text => effect_drawOn _ _

theorem effect_drawFrame (filled : Bool) : Effect 5 0 (drawFrame filled) :=
  effect_takeFive.bind fun (_, _, _, _, _) => effect_drawShape _ _ _

theorem effect_drawPoint : Effect 3 0 drawPoint :=
  effect_takeThree.bind fun (_, _, _) => effect_drawShape _ _ _

theorem effect_getPoint : Effect 2 1 getPoint := by
  refine effect_takeTwo.bind fun (x, y) => ?_
  exact (effect_askDevice _).bind fun seen => effect_push seen

theorem effect_drawLine : Effect 5 0 drawLine :=
  effect_takeFive.bind fun (_, _, _, _, _) => effect_drawShape _ _ _

theorem effect_drawBox : Effect 6 0 drawBox :=
  effect_takeSix.bind fun (_, _, _, _, _, _) => effect_drawShape _ _ _

theorem effect_drawCircle : Effect 5 0 drawCircle :=
  effect_takeFive.bind fun (_, _, _, _, _) => effect_drawShape _ _ _

theorem effect_drawEllipse : Effect 6 0 drawEllipse :=
  effect_takeSix.bind fun (_, _, _, _, _, _) => effect_drawShape _ _ _

theorem effect_transformBuffer : Effect 1 0 transformBuffer := by
  refine (effect_onDevice _).bind fun _ => ?_
  refine effect_pop.bind fun number => ?_
  cases bufferChange? number with
  | some drawing => exact effect_onDevice _
  | none => exact .ofPure ()

theorem effect_setScreen : Effect 1 0 setScreen :=
  effect_pop.bind fun _ => effect_onDevice _

theorem effect_updateScreen : Effect 1 0 updateScreen :=
  effect_pop.bind fun _ => effect_onDevice _

theorem effect_locate : Effect 2 0 locate :=
  effect_takeTwo.bind fun (_, _) => effect_onDevice _

theorem effect_putChar : Effect 1 0 putChar :=
  effect_pop.bind fun _ => effect_onDevice _

end Graphics

section Keys

theorem effect_readKey (waiting : Bool) : Effect 0 0 (readKey waiting) :=
  effect_askDevice _

theorem effect_checkKey : Effect 1 1 checkKey := by
  refine effect_pop.bind fun key => ?_
  refine .ofIte ?_ ?_
  · exact (effect_askDevice _).bind fun lowest => effect_push lowest
  · exact (effect_askDevice _).bind fun held => effect_pushBool held

theorem effect_releaseKey : Effect 1 0 releaseKey :=
  effect_pop.bind fun _ => .ofIte (effect_askDevice _) (effect_askDevice _)

end Keys

section Files

theorem effect_onFiles
    (operation : HandleTable → Except FileError α × HandleTable) :
    Effect 0 0 (onFiles operation) :=
  .ofModifyGet (fun _ => ⟨rfl, rfl, rfl, rfl, .inl rfl⟩) fun _ => rfl

theorem effect_updateFiles
    (operation : HandleTable → Except FileError (α × HandleTable)) :
    Effect 0 0 (updateFiles operation) :=
  effect_onFiles _

theorem effect_pathAt (address : Nat) : Effect 0 0 (pathAt address) :=
  (effect_stringAt address).bind fun _ => .ofPure _

theorem effect_popHandle : Effect 1 0 popHandle :=
  effect_pop.bind fun _ => .ofPure _

theorem effect_fileOpen : Effect 2 1 fileOpen := by
  refine effect_popAddress.bind fun modeAddress => ?_
  refine effect_popAddress.bind fun pathAddress => ?_
  refine (effect_pathAt pathAddress).bind fun path => ?_
  refine (effect_pathAt modeAddress).bind fun mode => ?_
  exact (effect_onFiles _).bind fun _ => effect_push _

theorem effect_fileClose : Effect 1 0 fileClose := by
  refine effect_popHandle.bind fun handle => ?_
  exact (effect_onFiles _).bind fun _ => .ofPure _

theorem effect_fileRead : Effect 4 1 fileRead := by
  refine effect_takeFour.bind fun (address, _, count, handle) => ?_
  refine (effect_checkRange _ _).bind fun _ => ?_
  refine (effect_updateFiles _).bind fun found => ?_
  exact (effect_onRam _).bind fun _ => effect_push _

theorem effect_writeTo
    (handle : Word)
    (bytes : List UInt8) :
    Effect 0 0 (writeTo handle bytes) :=
  (effect_updateFiles _).bind fun _ => .ofPure _

theorem effect_fileWrite : Effect 4 1 fileWrite := by
  refine effect_takeFour.bind fun (address, _, count, handle) => ?_
  refine (effect_checkRange _ _).bind fun _ => ?_
  refine (effect_inRam _).bind fun bytes => ?_
  exact (effect_writeTo _ bytes).bind fun _ => effect_push _

theorem effect_fileSeek : Effect 3 1 fileSeek := by
  refine effect_takeThree.bind fun (handleWord, offset, base) => ?_
  have seek (origin : HandleTable → Except FileError Nat) :
      Effect 0 1 (do
        let result ← updateFiles fun files =>
          seekFrom files (Word.ofByte handleWord.lowByte) (origin files) offset
        push (orElse (-1) (result.map Word.ofBits))) :=
    (effect_updateFiles _).bind fun _ => effect_push _
  dsimp only
  split
  · exact seek _
  · exact seek _
  · exact seek _
  · exact effect_push (-1)

theorem effect_fileTell : Effect 1 1 fileTell := by
  refine effect_popHandle.bind fun handle => ?_
  exact effect_get.bind fun _ => effect_push _

theorem effect_fileAtEnd : Effect 1 1 fileAtEnd := by
  refine effect_popHandle.bind fun handle => ?_
  exact effect_get.bind fun _ => effect_pushBool _

theorem effect_fileRewind : Effect 1 0 fileRewind := by
  refine effect_popHandle.bind fun handle => ?_
  exact (effect_updateFiles _).bind fun _ => .ofPure _

theorem effect_fileGetByte : Effect 1 1 fileGetByte := by
  refine effect_popHandle.bind fun handle => ?_
  refine (effect_updateFiles _).bind fun found => ?_
  cases orElse [] found with
  | cons byte rest => exact effect_push _
  | nil => exact effect_push (-1)

theorem effect_filePutByte : Effect 2 1 filePutByte := by
  refine effect_popHandle.bind fun handle => ?_
  refine effect_pop.bind fun byte => ?_
  exact (effect_writeTo handle _).bind fun _ => effect_push _

theorem effect_withPath
    (operation : String → HandleTable → Except FileError Bool × HandleTable) :
    Effect 1 1 (withPath operation) := by
  refine effect_popAddress.bind fun address => ?_
  refine (effect_pathAt address).bind fun path => ?_
  exact (effect_onFiles _).bind fun _ => effect_pushBool _

/-- However many turns a choice takes, it leaves the stack alone. -/
theorem effect_chooseFrom
    (names : List (List UInt8))
    (dest turns : Nat)
    (chooser : Chooser)
    (redraw : Bool) :
    Effect 0 0 (chooseFrom names dest turns chooser redraw) := by
  induction turns generalizing chooser redraw with
  | zero => exact .ofPure false
  | succ rest inductionHypothesis =>
      have turn : Effect 0 0 (chooseFrom names dest (rest + 1) chooser false) := by
        refine (effect_readKey true).bind fun key => ?_
        cases chooser.respond (names.length - 1) key with
        | choose => exact (effect_storeString dest _).bind fun _ => .ofPure true
        | cancel => exact .ofPure false
        | move moved => exact inductionHypothesis moved true
        | ignore => exact inductionHypothesis chooser false
      cases redraw with
      | false => exact turn
      | true => exact (effect_onDevice _).bind fun _ => turn

theorem effect_chooseFile : Effect 1 1 chooseFile := by
  refine effect_popAddress.bind fun dest => ?_
  refine effect_get.bind fun machine => ?_
  dsimp only
  cases machine.files.list with
  | error error => exact effect_pushBool false
  | ok found =>
      refine .ofIte (effect_pushBool false) ?_
      exact (effect_chooseFrom _ dest _ _ _).bind fun chosen => effect_pushBool chosen

end Files

theorem effect_mapTop (function : Word → Word) : Effect 1 1 (mapTop function) :=
  effect_pop.bind fun _ => effect_push _

theorem effect_random : Effect 0 1 (call .random) := by
  refine Effect.bind (.ofModifyGet ?_ ?_) fun value => effect_push value
  · intro machine
    rcases machine.random.next with ⟨value, random⟩
    exact ⟨rfl, rfl, rfl, rfl, .inl rfl⟩
  · intro machine
    rcases machine.random.next with ⟨value, random⟩
    rfl

/-- Every built-in function with a fixed demand exchanges that many values. -/
theorem effect_call :
    ∀ {count : Nat} (function : Builtin),
      function.demand = .exactly count →
      Effect count function.yield (call function)
  | _, .putChar, rfl => effect_putChar
  | _, .getChar, rfl => (effect_readKey true).bind fun key => effect_push key
  | _, .getWord, rfl =>
      effect_pop.bind fun _ => (effect_readKey true).bind fun key => effect_push key
  | _, .stringCopy, rfl => effect_stringCopy
  | _, .stringLength, rfl => effect_stringLength
  | _, .stringAppend, rfl => effect_stringAppend
  | _, .stringFindChar, rfl => effect_stringFindChar
  | _, .stringCompare, rfl => effect_stringCompare
  | _, .stringFind, rfl => effect_stringFind
  | _, .toLower, rfl => effect_mapTop _
  | _, .toUpper, rfl => effect_mapTop _
  | _, .testChar _, rfl => effect_mapTop _
  | _, .memorySet, rfl => effect_memorySet
  | _, .memoryCopy, rfl => effect_memoryCopy
  | _, .memoryMove, rfl => effect_memoryMove
  | _, .checksum, rfl => effect_checksum
  | _, .encrypt, rfl => effect_encrypt
  | _, .setScreen, rfl => effect_setScreen
  | _, .updateScreen, rfl => effect_updateScreen
  | _, .writeBlock, rfl => effect_writeBlock
  | _, .refresh, rfl => effect_onDevice (·.draw .refresh)
  | _, .textOut, rfl => effect_textOut
  | _, .block, rfl => effect_drawFrame true
  | _, .rectangle, rfl => effect_drawFrame false
  | _, .clearScreen, rfl => effect_drawOn .buffer .clear
  | _, .point, rfl => effect_drawPoint
  | _, .getPoint, rfl => effect_getPoint
  | _, .line, rfl => effect_drawLine
  | _, .box, rfl => effect_drawBox
  | _, .circle, rfl => effect_drawCircle
  | _, .ellipse, rfl => effect_drawEllipse
  | _, .transformBuffer, rfl => effect_transformBuffer
  | _, .getBlock, rfl => effect_getBlock
  | _, .fillArea, rfl => effect_takeThree.bind fun (_, _, _) => .ofPure ()
  | _, .locate, rfl => effect_locate
  | _, .inKey, rfl => (effect_readKey false).bind fun key => effect_push key
  | _, .checkKey, rfl => effect_checkKey
  | _, .releaseKey, rfl => effect_releaseKey
  | _, .delay, rfl => effect_pop.bind fun _ => .ofPure ()
  | _, .exit, rfl => .ofModify (fun _ => ⟨rfl, rfl, rfl, rfl, .inl rfl⟩) fun _ => rfl
  | _, .absolute, rfl => effect_mapTop _
  | _, .random, rfl => effect_random
  | _, .seedRandom, rfl =>
      effect_pop.bind fun _ =>
        .ofModify (fun _ => ⟨rfl, rfl, rfl, rfl, .inl rfl⟩) fun _ => rfl
  | _, .beep, rfl => .ofPure ()
  | _, .sine, rfl => effect_mapTop sine
  | _, .cosine, rfl => effect_mapTop cosine
  | _, .getTicks, rfl => effect_get.bind fun _ => effect_push _
  | _, .getTime, rfl => effect_getTime
  | _, .setTime, rfl => effect_pop.bind fun _ => .ofPure ()
  | _, .fileOpen, rfl => effect_fileOpen
  | _, .fileClose, rfl => effect_fileClose
  | _, .fileRead, rfl => effect_fileRead
  | _, .fileWrite, rfl => effect_fileWrite
  | _, .fileSeek, rfl => effect_fileSeek
  | _, .fileTell, rfl => effect_fileTell
  | _, .fileAtEnd, rfl => effect_fileAtEnd
  | _, .fileRewind, rfl => effect_fileRewind
  | _, .fileGetByte, rfl => effect_fileGetByte
  | _, .filePutByte, rfl => effect_filePutByte
  | _, .makeDirectory, rfl => effect_withPath _
  | _, .deleteFile, rfl => effect_withPath _
  | _, .changeDirectory, rfl => effect_withPath _
  | _, .chooseFile, rfl => effect_chooseFile

/-- Every built-in function is calm. -/
theorem calm_call (function : Builtin) : Calm (call function) := by
  rcases demand : function.demand with count | _ | _
  · exact (effect_call function demand).calm
  · cases function <;> cases demand
  · cases function <;> cases demand
    · exact calm_print
    · exact calm_printToString

/-- A built-in function that meets no fault exchanges what its tables say. -/
theorem replaces_of_call
    {machine after : Machine}
    {function : Builtin}
    (ends : machine.outcome (call function) = (.ok (), after)) :
    Replaces (function.demand.count machine) function.yield
      machine.stack.toList after.stack.toList := by
  rcases demand : function.demand with count | _ | _
  · exact (effect_call function demand).stack ends
  · cases function <;> cases demand
  · cases function <;> cases demand
    · exact replaces_of_print ends
    · exact replaces_of_printToString ends

end Machine

end Handheld
