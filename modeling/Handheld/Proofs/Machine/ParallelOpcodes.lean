import Handheld.Proofs.Machine.Parallel
import Handheld.Proofs.Machine.Step

namespace Handheld

/-!
# Opcodes in parallel

Every opcode but the conditional jumps is parallel: each drawing call chooses
its bitmap first, files answer by what the host has and not by its order, and no
other opcode looks above the top of the stack. A conditional jump tests the slot
right above the top, so it is parallel only where that slot is the same.
-/

namespace Chooser

/-- Names are shown in order, so it makes no difference in which order they come. -/
theorem shownNames_perm
    {names other : List String}
    (same : names.Perm other) :
    shownNames names = shownNames other := by
  have inOrder (left right : String) : (!decide (right < left)) = true ↔ left ≤ right := by
    rw [Bool.not_eq_true', decide_eq_false_iff_not, String.not_lt]
  have sorted (some : List String) :
      (some.mergeSort fun left right => !decide (right < left)).Pairwise (· ≤ ·) := by
    refine (List.pairwise_mergeSort ?_ ?_ some).imp fun ordered => (inOrder _ _).mp ordered
    · intro first second third
      rw [inOrder, inOrder, inOrder]
      exact String.le_trans
    · intro first second
      rw [Bool.or_eq_true, inOrder, inOrder]
      exact String.le_total first second
  have sameOrder :
      (names.mergeSort fun left right => !decide (right < left)) =
        other.mergeSort fun left right => !decide (right < left) := by
    refine List.Perm.eq_of_pairwise ?_ (sorted names) (sorted other) ?_
    · intro first second _ _
      exact String.le_antisymm
    · exact ((List.mergeSort_perm _ _).trans same).trans (List.mergeSort_perm _ _).symm
  unfold shownNames
  rw [sameOrder]

theorem entries_perm
    {names other : List String}
    (same : names.Perm other)
    (workingDir : String) :
    entries workingDir names = entries workingDir other := by
  unfold entries
  rw [shownNames_perm same]

end Chooser

/-- The opcodes that test the value removed last from the stack. -/
def Opcode.testsRemoved : Opcode → Bool
  | .general .jumpIfZero | .general .jumpIfNonzero => true
  | _ => false

namespace Machine

section Memory

theorem parallel_popCount : Parallel popCount := by
  refine parallel_pop.bind fun count => ?_
  exact .ofIte ((Parallel.ofThrow _).bind fun _ => .ofPure _) (.ofPure _)

theorem parallel_popFormatted (count : Nat) : Parallel (popFormatted count) := by
  refine (parallel_take count).bind fun values => ?_
  refine .bindGet ?_ fun _ => .ofCheck _
  rintro fonts depth machine _ ⟨devices, _, _⟩
  exact congrArg (fun ram => check (Format.ofValues ram values.toList)) devices.ram

theorem parallel_print : Parallel print := by
  refine parallel_popCount.bind fun count => ?_
  refine (parallel_popFormatted count).bind fun text => ?_
  exact parallel_onDevice fun alike => (alike.addBytes text).renderText 0

theorem parallel_printToString : Parallel printToString := by
  refine parallel_popCount.bind fun count => ?_
  refine (parallel_popFormatted (count - 1)).bind fun text => ?_
  exact parallel_popAddress.bind fun dest => parallel_storeString dest text

theorem parallel_stringCopy : Parallel stringCopy := by
  refine parallel_popAddress.bind fun source => ?_
  refine parallel_popAddress.bind fun dest => ?_
  exact (parallel_stringAt source).bind fun text => parallel_storeString dest text

theorem parallel_stringLength : Parallel stringLength := by
  refine parallel_popAddress.bind fun address => ?_
  exact (parallel_stringAt address).bind fun text => parallel_push _

theorem parallel_stringAppend : Parallel stringAppend := by
  refine parallel_popAddress.bind fun source => ?_
  refine parallel_popAddress.bind fun dest => ?_
  refine (parallel_stringAt dest).bind fun front => ?_
  exact (parallel_stringAt source).bind fun text => parallel_storeString _ text

theorem parallel_stringFindChar : Parallel stringFindChar := by
  refine parallel_pop.bind fun wanted => ?_
  refine parallel_popAddress.bind fun address => ?_
  refine (parallel_inRam _).bind fun place => ?_
  cases place with
  | none => exact .ofThrow _
  | some found =>
      refine (parallel_inRam _).bind fun byte => ?_
      exact .ofIte (parallel_push _) (parallel_push 0)

theorem parallel_stringCompare : Parallel stringCompare := by
  refine parallel_popAddress.bind fun right => ?_
  refine parallel_popAddress.bind fun left => ?_
  refine (parallel_stringAt left).bind fun leftText => ?_
  exact (parallel_stringAt right).bind fun rightText => parallel_push _

theorem parallel_stringFind : Parallel stringFind := by
  refine parallel_popAddress.bind fun wantedAddress => ?_
  refine parallel_popAddress.bind fun address => ?_
  refine (parallel_stringAt address).bind fun text => ?_
  refine (parallel_stringAt wantedAddress).bind fun wanted => ?_
  cases occurrence? wanted 0 text with
  | some skipped => exact parallel_push _
  | none => exact parallel_push 0

theorem parallel_memorySet : Parallel memorySet := by
  refine parallel_takeThree.bind fun (address, value, count) => ?_
  exact (parallel_checkRange _ _).bind fun _ => parallel_onRam _

theorem parallel_takeCopy : Parallel takeCopy := by
  refine parallel_takeThree.bind fun (dest, source, count) => ?_
  refine (parallel_checkRange _ _).bind fun _ => ?_
  exact (parallel_checkRange _ _).bind fun _ => .ofPure _

theorem parallel_memoryCopy : Parallel memoryCopy :=
  parallel_takeCopy.bind fun (_, _, _) => parallel_onRam _

theorem parallel_memoryMove : Parallel memoryMove :=
  parallel_takeCopy.bind fun (_, _, _) => parallel_onRam _

theorem parallel_checksum : Parallel checksum := by
  refine parallel_popAddress.bind fun count => ?_
  refine parallel_popAddress.bind fun address => ?_
  refine (parallel_checkRange _ _).bind fun _ => ?_
  exact (parallel_inRam _).bind fun _ => parallel_push _

theorem parallel_encrypt : Parallel encrypt := by
  refine parallel_takeThree.bind fun (address, count, passwordAddress) => ?_
  refine (parallel_stringAt _).bind fun password => ?_
  exact (parallel_checkRange _ _).bind fun _ => parallel_onRam _

theorem parallel_getTime : Parallel getTime := by
  refine parallel_popAddress.bind fun address => ?_
  exact .bindRegisters (fun _ _ _ _ => rfl) fun _ => parallel_onRam _

end Memory

section Graphics

theorem parallel_drawOn
    (target : Target)
    (drawing : Drawing) :
    Parallel (drawOn target drawing) :=
  parallel_onDevice fun alike => alike.drawOn target drawing

theorem parallel_drawShape
    (target : Target)
    (mode : Word)
    (drawing : ShapeMode → Drawing) :
    Parallel (drawShape target mode drawing) := by
  unfold drawShape
  cases ShapeMode.ofMode mode with
  | error fault =>
      exact (parallel_onDevice fun alike => alike.setTarget target).bind fun _ => .ofThrow fault
  | ok shape =>
      -- The bitmap that was chosen counts here, so both changes are taken together.
      exact parallel_drawOn target (drawing shape)

theorem parallel_writeBlock : Parallel writeBlock :=
  parallel_takeSix.bind fun (_, _, _, _, _, _) => parallel_drawOn _ _

theorem parallel_getBlock : Parallel getBlock :=
  parallel_takeSix.bind fun (_, _, _, _, _, _) => parallel_drawOn _ _

theorem parallel_textOut : Parallel textOut := by
  refine parallel_takeFour.bind fun (x, y, address, mode) => ?_
  exact (parallel_stringAt _).bind fun text => parallel_drawOn _ _

theorem parallel_drawFrame (filled : Bool) : Parallel (drawFrame filled) :=
  parallel_takeFive.bind fun (_, _, _, _, _) => parallel_drawShape _ _ _

theorem parallel_drawPoint : Parallel drawPoint :=
  parallel_takeThree.bind fun (_, _, _) => parallel_drawShape _ _ _

theorem parallel_getPoint : Parallel getPoint := by
  refine parallel_takeTwo.bind fun (x, y) => ?_
  refine (parallel_askDevice fun alike => ?_).bind fun seen => parallel_push seen
  exact alike.testPoint x.toInt y.toInt

theorem parallel_drawLine : Parallel drawLine :=
  parallel_takeFive.bind fun (_, _, _, _, _) => parallel_drawShape _ _ _

theorem parallel_drawBox : Parallel drawBox :=
  parallel_takeSix.bind fun (_, _, _, _, _, _) => parallel_drawShape _ _ _

theorem parallel_drawCircle : Parallel drawCircle :=
  parallel_takeFive.bind fun (_, _, _, _, _) => parallel_drawShape _ _ _

theorem parallel_drawEllipse : Parallel drawEllipse :=
  parallel_takeSix.bind fun (_, _, _, _, _, _) => parallel_drawShape _ _ _

/-- The machine with a bitmap chosen. -/
def aim
    (machine : Machine)
    (target : Target) :
    Machine :=
  { machine with device := machine.device.setTarget target }

theorem outcome_aim
    (machine : Machine)
    (target : Target) :
    machine.outcome (onDevice (·.setTarget target)) = (.ok (), machine.aim target) :=
  rfl

/-- The buffer is chosen before anything can go wrong. -/
theorem outcome_transformBuffer (machine : Machine) :
    machine.outcome transformBuffer =
      match machine.stack.pop with
      | .error fault => (.error fault, machine.aim .buffer)
      | .ok (number, rest) =>
          (.ok (), { machine with
            device :=
              (bufferChange? number).toList.foldl Device.draw (machine.device.setTarget .buffer)
            stack := rest }) := by
  unfold transformBuffer
  rw [outcome_bind_of_ok (outcome_aim machine .buffer),
    show machine.stack = (machine.aim .buffer).stack from rfl]
  rcases popped : (machine.aim .buffer).stack.pop with fault | ⟨number, rest⟩
  · rw [outcome_bind_of_error (outcome_pop_of_error popped)]
  · rw [outcome_bind_of_ok (outcome_pop popped)]
    dsimp only
    cases bufferChange? number with
    | none => rfl
    | some drawing => rfl

theorem parallel_transformBuffer : Parallel transformBuffer := by
  rintro fonts depth machine _ ⟨devices, tables, dataStacks⟩
  have aimed := devices.setTarget .buffer
  rw [outcome_transformBuffer, outcome_transformBuffer]
  obtain ⟨fault, refused, refusedToo⟩ | ⟨⟨_, rest⟩, ⟨number, restToo⟩, done, doneToo, rfl, same⟩ :=
    dataStacks.pop.cases
  · rw [refused, refusedToo]
    exact ⟨rfl, .intro (machine.aim .buffer) aimed tables dataStacks⟩
  · rw [done, doneToo]
    have drawn := aimed.drawAll rfl (bufferChange? number).toList
    exact ⟨rfl, .intro { machine with device := _, stack := rest } drawn tables same⟩

theorem parallel_setScreen : Parallel setScreen :=
  parallel_pop.bind fun _ => parallel_onDevice fun alike => (alike.setFontSize _).resetText

theorem parallel_updateScreen : Parallel updateScreen :=
  parallel_pop.bind fun _ => parallel_onDevice fun alike => alike.renderText _

theorem parallel_locate : Parallel locate :=
  parallel_takeTwo.bind fun (row, column) => parallel_onDevice fun alike => alike.locate row column

theorem parallel_putChar : Parallel putChar :=
  parallel_pop.bind fun _ => parallel_onDevice fun alike => (alike.addByte _).renderText 0

end Graphics

section Keys

/-- A live keyboard answers by its keys and stays live. -/
theorem parallel_heard
    (reply : Keyboard → Keyboard.Reply α)
    (live : ∀ board, ∃ after, (reply (.live board)).keyboard = .live after) :
    Parallel (askDevice fun device => device.heard (reply device.keyboard)) :=
  parallel_askDevice fun alike => alike.heard reply live

theorem parallel_readKey (waiting : Bool) : Parallel (readKey waiting) := by
  cases waiting with
  | false => exact parallel_heard (·.read false) fun _ => ⟨_, rfl⟩
  | true => exact parallel_heard (·.read true) fun _ => ⟨_, rfl⟩

theorem parallel_checkKey : Parallel checkKey := by
  refine parallel_pop.bind fun key => .ofIte ?_ ?_
  · exact (parallel_heard (·.lowest) fun _ => ⟨_, rfl⟩).bind parallel_push
  · exact (parallel_heard (·.isHeld key) fun _ => ⟨_, rfl⟩).bind parallel_pushBool

theorem parallel_releaseKey : Parallel releaseKey := by
  refine parallel_pop.bind fun key => .ofIte ?_ ?_
  · exact parallel_heard (·.relatchLowest) fun _ => ⟨_, rfl⟩
  · exact parallel_heard (·.relatch key) fun _ => ⟨_, rfl⟩

end Keys

section Files

theorem parallel_pathAt (address : Nat) : Parallel (pathAt address) :=
  (parallel_stringAt address).bind fun _ => .ofPure _

theorem parallel_popHandle : Parallel popHandle :=
  parallel_pop.bind fun _ => .ofPure _

theorem parallel_fileOpen : Parallel fileOpen := by
  refine parallel_popAddress.bind fun modeAddress => ?_
  refine parallel_popAddress.bind fun pathAddress => ?_
  refine (parallel_pathAt pathAddress).bind fun path => ?_
  refine (parallel_pathAt modeAddress).bind fun mode => ?_
  exact (parallel_onFiles fun alike => alike.openFile path mode).bind fun _ => parallel_push _

theorem parallel_fileClose : Parallel fileClose := by
  refine parallel_popHandle.bind fun handle => ?_
  exact (parallel_onFiles fun alike => alike.closeFile handle).bind fun _ => .ofPure _

theorem parallel_fileRead : Parallel fileRead := by
  refine parallel_takeFour.bind fun (address, _, count, handle) => ?_
  refine (parallel_checkRange _ _).bind fun _ => ?_
  refine (parallel_updateFiles fun alike => alike.read _ _).bind fun found => ?_
  exact (parallel_onRam _).bind fun _ => parallel_push _

theorem parallel_writeTo
    (handle : Word)
    (bytes : List UInt8) :
    Parallel (writeTo handle bytes) := by
  refine (parallel_updateFiles fun alike => ?_).bind fun _ => .ofPure _
  exact (alike.write handle bytes).map fun same => ⟨rfl, same⟩

theorem parallel_fileWrite : Parallel fileWrite := by
  refine parallel_takeFour.bind fun (address, _, count, handle) => ?_
  refine (parallel_checkRange _ _).bind fun _ => ?_
  refine (parallel_inRam _).bind fun bytes => ?_
  exact (parallel_writeTo _ bytes).bind fun _ => parallel_push _

/-- Moving a cursor counts from the same origin. -/
theorem agree_seekFrom
    {table other : HandleTable}
    (alike : table.Alike other)
    (handle : Word)
    {origin : HandleTable → Except FileError Nat}
    (same : origin other = origin table)
    (offset : Word) :
    Agree (SameAnswer HandleTable.Alike)
      (seekFrom table handle (origin table) offset)
      (seekFrom other handle (origin other) offset) := by
  unfold seekFrom
  rw [same]
  refine .bind _ fun start _ => ?_
  obtain ⟨reason, refused, refusedToo⟩ | ⟨moved, movedToo, done, doneToo, sameMoved⟩ :=
    (alike.seek handle (start + offset.toInt)).cases
  · rw [refused, refusedToo]
    exact .error reason
  · rw [done, doneToo]
    change Agree _ (moved.tell handle >>= _) (movedToo.tell handle >>= _)
    rw [sameMoved.tell]
    exact .bind _ fun place _ => .ok ⟨rfl, sameMoved⟩

theorem parallel_fileSeek : Parallel fileSeek := by
  refine parallel_takeThree.bind fun (handleWord, offset, base) => ?_
  have seek
      (origin : HandleTable → Except FileError Nat)
      (same : ∀ {table other}, HandleTable.Alike table other → origin other = origin table) :
      Parallel (do
        let result ← updateFiles fun files =>
          seekFrom files (Word.ofByte handleWord.lowByte) (origin files) offset
        push (orElse (-1) (result.map Word.ofBits))) :=
    (parallel_updateFiles fun alike => agree_seekFrom alike _ (same alike) offset).bind
      fun _ => parallel_push _
  dsimp only
  split
  · exact seek _ fun _ => rfl
  · exact seek _ fun alike => alike.tell _
  · exact seek _ fun alike => alike.size _
  · exact parallel_push (-1)

theorem parallel_fileTell : Parallel fileTell := by
  refine parallel_popHandle.bind fun handle => ?_
  refine .bindGet ?_ fun _ => parallel_push _
  rintro fonts depth machine _ ⟨_, tables, _⟩
  dsimp only
  rw [tables.tell]

theorem parallel_fileAtEnd : Parallel fileAtEnd := by
  refine parallel_popHandle.bind fun handle => ?_
  refine .bindGet ?_ fun _ => parallel_pushBool _
  rintro fonts depth machine _ ⟨_, tables, _⟩
  dsimp only
  rw [tables.atEnd]

theorem parallel_fileRewind : Parallel fileRewind := by
  refine parallel_popHandle.bind fun handle => ?_
  refine (parallel_updateFiles fun alike => ?_).bind fun _ => .ofPure _
  exact (alike.seek handle 0).map fun same => ⟨rfl, same⟩

theorem parallel_fileGetByte : Parallel fileGetByte := by
  refine parallel_popHandle.bind fun handle => ?_
  refine (parallel_updateFiles fun alike => alike.read handle 1).bind fun found => ?_
  cases orElse [] found with
  | cons byte rest => exact parallel_push _
  | nil => exact parallel_push (-1)

theorem parallel_filePutByte : Parallel filePutByte := by
  refine parallel_popHandle.bind fun handle => ?_
  refine parallel_pop.bind fun byte => ?_
  exact (parallel_writeTo handle _).bind fun _ => parallel_push _

theorem parallel_withPath
    {operation : String → HandleTable → Except FileError Bool × HandleTable}
    (respects :
      ∀ path {table other},
        HandleTable.Alike table other →
        SameAnswer HandleTable.Alike (operation path table) (operation path other)) :
    Parallel (withPath operation) := by
  refine parallel_popAddress.bind fun address => ?_
  refine (parallel_pathAt address).bind fun path => ?_
  exact (parallel_onFiles (respects path)).bind fun _ => parallel_pushBool _

theorem parallel_changeDirectory : Parallel changeDirectory := by
  refine parallel_withPath ?_
  intro path table other alike
  obtain ⟨reason, refused, refusedToo⟩ | ⟨changed, changedToo, done, doneToo, same⟩ :=
    (alike.changeDir path).cases
  · rw [refused, refusedToo]
    exact ⟨rfl, alike⟩
  · rw [done, doneToo]
    exact ⟨rfl, same⟩

theorem parallel_chooseFrom
    (names : List (List UInt8))
    (dest turns : Nat)
    (chooser : Chooser)
    (redraw : Bool) :
    Parallel (chooseFrom names dest turns chooser redraw) := by
  induction turns generalizing chooser redraw with
  | zero => exact .ofPure false
  | succ rest inductionHypothesis =>
      have turn : Parallel (chooseFrom names dest (rest + 1) chooser false) := by
        refine (parallel_readKey true).bind fun key => ?_
        cases chooser.respond (names.length - 1) key with
        | choose => exact (parallel_storeString dest _).bind fun _ => .ofPure true
        | cancel => exact .ofPure false
        | move moved => exact inductionHypothesis moved true
        | ignore => exact inductionHypothesis chooser false
      cases redraw with
      | false => exact turn
      | true =>
          exact (parallel_onDevice fun alike => alike.choose chooser names).bind fun _ => turn

theorem parallel_chooseFile : Parallel chooseFile := by
  refine parallel_popAddress.bind fun dest => ?_
  refine .bindGet ?_ fun machine => ?_
  · rintro fonts depth machine _ ⟨devices, tables, _⟩
    dsimp only
    rw [tables.workingDir, devices.keysLeft]
    obtain ⟨reason, refused, refusedToo⟩ | ⟨found, foundToo, done, doneToo, same⟩ :=
      tables.list.cases
    · rw [refused, refusedToo]
    · rw [done, doneToo]
      dsimp only
      rw [Chooser.entries_perm same]
  · dsimp only
    cases machine.files.list with
    | error error => exact parallel_pushBool false
    | ok found =>
        refine .ofIte (parallel_pushBool false) ?_
        exact (parallel_chooseFrom _ dest _ _ _).bind parallel_pushBool

end Files

theorem parallel_mapTop (function : Word → Word) : Parallel (mapTop function) :=
  parallel_pop.bind fun _ => parallel_push _

/-- Every built-in function is parallel. -/
theorem parallel_call : ∀ function : Builtin, Parallel (call function)
  | .putChar => parallel_putChar
  | .getChar => (parallel_readKey true).bind parallel_push
  | .getWord => parallel_pop.bind fun _ => (parallel_readKey true).bind parallel_push
  | .print => parallel_print
  | .printToString => parallel_printToString
  | .stringCopy => parallel_stringCopy
  | .stringLength => parallel_stringLength
  | .stringAppend => parallel_stringAppend
  | .stringFindChar => parallel_stringFindChar
  | .stringCompare => parallel_stringCompare
  | .stringFind => parallel_stringFind
  | .toLower => parallel_mapTop _
  | .toUpper => parallel_mapTop _
  | .testChar _ => parallel_mapTop _
  | .memorySet => parallel_memorySet
  | .memoryCopy => parallel_memoryCopy
  | .memoryMove => parallel_memoryMove
  | .checksum => parallel_checksum
  | .encrypt => parallel_encrypt
  | .setScreen => parallel_setScreen
  | .updateScreen => parallel_updateScreen
  | .writeBlock => parallel_writeBlock
  | .refresh => parallel_onDevice fun alike => alike.refresh
  | .textOut => parallel_textOut
  | .block => parallel_drawFrame true
  | .rectangle => parallel_drawFrame false
  | .clearScreen => parallel_drawOn .buffer .clear
  | .point => parallel_drawPoint
  | .getPoint => parallel_getPoint
  | .line => parallel_drawLine
  | .box => parallel_drawBox
  | .circle => parallel_drawCircle
  | .ellipse => parallel_drawEllipse
  | .transformBuffer => parallel_transformBuffer
  | .getBlock => parallel_getBlock
  | .fillArea => parallel_takeThree.bind fun (_, _, _) => .ofPure ()
  | .locate => parallel_locate
  | .inKey => (parallel_readKey false).bind parallel_push
  | .checkKey => parallel_checkKey
  | .releaseKey => parallel_releaseKey
  | .delay => parallel_pop.bind fun _ => .ofPure ()
  | .exit => .ofModify fun _ _ _ _ => rfl
  | .absolute => parallel_mapTop _
  | .random => (Parallel.ofModifyGet fun _ _ _ _ => rfl).bind parallel_push
  | .seedRandom => parallel_pop.bind fun _ => .ofModify fun _ _ _ _ => rfl
  | .beep => .ofPure ()
  | .sine => parallel_mapTop sine
  | .cosine => parallel_mapTop cosine
  | .getTicks => .bindRegisters (fun _ _ _ _ => rfl) fun _ => parallel_push _
  | .getTime => parallel_getTime
  | .setTime => parallel_pop.bind fun _ => .ofPure ()
  | .fileOpen => parallel_fileOpen
  | .fileClose => parallel_fileClose
  | .fileRead => parallel_fileRead
  | .fileWrite => parallel_fileWrite
  | .fileSeek => parallel_fileSeek
  | .fileTell => parallel_fileTell
  | .fileAtEnd => parallel_fileAtEnd
  | .fileRewind => parallel_fileRewind
  | .fileGetByte => parallel_fileGetByte
  | .filePutByte => parallel_filePutByte
  | .makeDirectory => parallel_withPath fun path _ _ alike => alike.makeDirectory path
  | .deleteFile => parallel_withPath fun path _ _ alike => alike.delete path
  | .changeDirectory => parallel_changeDirectory
  | .chooseFile => parallel_chooseFile

section Instructions

theorem parallel_indexedAddress : Parallel indexedAddress := by
  refine parallel_pop.bind fun index => ?_
  exact parallel_fetchWord.bind fun offset => .ofPure _

theorem parallel_frameIndexedAddress : Parallel frameIndexedAddress := by
  refine parallel_fetchWord.bind fun offset => ?_
  refine parallel_pop.bind fun index => ?_
  exact parallel_frameBase.bind fun base => .ofPure _

theorem parallel_loadAddress : ∀ addressing, Parallel (loadAddress addressing)
  | .absolute => parallel_fetch 2
  | .indexed => parallel_indexedAddress
  | .frame => (parallel_fetch 2).bind fun _ => parallel_frameBase.bind fun _ => .ofPure _
  | .frameIndexed => parallel_frameIndexedAddress

theorem parallel_pushPointer
    (address : Nat)
    (width : Width) :
    Parallel (pushPointer address width) :=
  parallel_push _

theorem parallel_popPointer : Parallel popPointer := by
  refine parallel_pop.bind fun raw => ?_
  refine (Parallel.ofCheck _).bind fun pointer => ?_
  refine .bindRegisters (fun _ _ _ _ => rfl) fun machine => ?_
  exact (Parallel.ofCheck _).bind fun address => .ofPure _

theorem parallel_stepPointer (stepping : Stepping) : Parallel (stepPointer stepping) := by
  refine parallel_popPointer.bind fun (pointer, address) => ?_
  refine (parallel_inRam _).bind fun value => ?_
  exact (parallel_push _).bind fun _ => parallel_onRam _

theorem parallel_pushLiteral : Parallel pushLiteral := by
  refine .bindRegisters (fun _ _ _ _ => rfl) fun machine => ?_
  refine (parallel_push _).bind fun _ => ?_
  refine .bindRegisters (fun _ _ _ _ => rfl) fun machine => ?_
  dsimp only
  rcases literalBytes machine.code machine.xorFactor machine.pc #[] with ⟨found, ended⟩
  refine (parallel_onRam _).bind fun _ => ?_
  refine (Parallel.ofModify fun _ _ _ _ => rfl).bind fun _ => ?_
  exact .ofIte (.ofIte (.ofModify fun _ _ _ _ => rfl) (.ofPure ())) (.ofThrow _)

theorem parallel_enterFrame (size arguments : Nat) : Parallel (enterFrame size arguments) := by
  refine .bindRegisters (fun _ _ _ _ => rfl) fun machine => ?_
  cases machine.frames with
  | none => exact .ofThrow _
  | some frames =>
      refine (parallel_onRam _).bind fun _ => ?_
      refine (Parallel.ofModify fun _ _ _ _ => rfl).bind fun _ => ?_
      have passed : Parallel (do
          let values ← take arguments
          onRam (storeWords · (frames.finish + frameHeaderSize) values.toList)) :=
        (parallel_take arguments).bind fun _ => parallel_onRam _
      exact .ofIte ((Parallel.ofThrow _).bind fun _ => passed) passed

theorem parallel_leaveFrame : Parallel leaveFrame := by
  refine .bindRegisters (fun _ _ _ _ => rfl) fun machine => ?_
  cases machine.frames with
  | none => exact .ofThrow _
  | some frames =>
      refine (parallel_inRam _).bind fun caller => ?_
      refine (parallel_inRam _).bind fun pc => ?_
      exact .ofModify fun _ _ _ _ => rfl

theorem parallel_callInstruction : Parallel (execute .call) := by
  refine (parallel_fetch 3).bind fun target => ?_
  refine .bindRegisters (fun _ _ _ _ => rfl) fun machine => ?_
  cases machine.frames with
  | none => exact .ofThrow _
  | some frames =>
      refine .bindRegisters (fun _ _ _ _ => rfl) fun machine => ?_
      exact (parallel_onRam _).bind fun _ => .ofModify fun _ _ _ _ => rfl

/-- Every general instruction but the conditional jumps is parallel. -/
theorem parallel_execute :
    ∀ instruction : Instruction,
      Opcode.testsRemoved (.general instruction) = false →
      Parallel (execute instruction)
  | .nothing, _ => .ofPure ()
  | .loadAll, _ => .ofPure ()
  | .pushImmediate .byte, _ => (parallel_fetch 1).bind fun _ => parallel_push _
  | .pushImmediate .half, _ => parallel_fetchSigned16.bind parallel_push
  | .pushImmediate .full, _ => (parallel_fetch 4).bind fun _ => parallel_push _
  | .load addressing _, _ =>
      (parallel_loadAddress addressing).bind fun _ => (parallel_inRam _).bind parallel_push
  | .pointerIndexed width, _ =>
      parallel_indexedAddress.bind fun address => parallel_pushPointer address width
  | .pointerFrameIndexed width, _ =>
      parallel_frameIndexedAddress.bind fun address => parallel_pushPointer address width
  | .pushLiteral, _ => parallel_pushLiteral
  | .addressIndexed, _ =>
      parallel_fetchWord.bind fun _ => parallel_pop.bind fun _ => parallel_push _
  | .addressFrameIndexed, _ => parallel_frameIndexedAddress.bind fun _ => parallel_push _
  | .addressFrame, _ =>
      parallel_fetchWord.bind fun _ => parallel_frameBase.bind fun _ => parallel_push _
  | .pushArea _, _ => parallel_push _
  | .negate, _ => parallel_pop.bind fun _ => parallel_push _
  | .complement, _ => parallel_pop.bind fun _ => parallel_push _
  | .logicalNot, _ => parallel_pop.bind fun _ => parallel_pushBool _
  | .stepPointer stepping, _ => parallel_stepPointer stepping
  | .operate _, _ =>
      parallel_pop.bind fun _ => parallel_pop.bind fun _ =>
        (Parallel.ofCheck _).bind parallel_push
  | .operateImmediate _, _ =>
      parallel_fetchSigned16.bind fun _ => parallel_pop.bind fun _ =>
        (Parallel.ofCheck _).bind parallel_push
  | .store, _ =>
      parallel_pop.bind fun value => parallel_popPointer.bind fun (_, _) =>
        (parallel_onRam _).bind fun _ => parallel_push value
  | .loadByte, _ => parallel_popAddress.bind fun _ => (parallel_inRam _).bind parallel_push
  | .bytePointer, _ => parallel_popAddress.bind fun address => parallel_pushPointer address .byte
  | .pop, _ => parallel_pop.bind fun _ => .ofPure ()
  | .jump, _ => (parallel_fetch 3).bind fun _ => .ofModify fun _ _ _ _ => rfl
  | .setFrameBase, _ => (parallel_fetch 2).bind fun _ => .ofModify fun _ _ _ _ => rfl
  | .call, _ => parallel_callInstruction
  | .enter, _ =>
      (parallel_fetch 2).bind fun size => (parallel_fetch 1).bind fun arguments =>
        parallel_enterFrame size arguments
  | .leave, _ => parallel_leaveFrame
  | .halt, _ => .ofModify fun _ _ _ _ => rfl
  | .initData, _ =>
      (parallel_fetch 2).bind fun _ => (parallel_fetch 2).bind fun length =>
        (parallel_fetchBytes length).bind fun _ => parallel_onRam _
  | .setXorFactor, _ => (parallel_fetch 1).bind fun _ => .ofModify fun _ _ _ _ => rfl

end Instructions

section Steps

/-- A conditional jump is parallel where the slot that it tests is the same. -/
theorem sameAnswer_jumpWhen
    {fonts : FontTable}
    {depth : Nat}
    {machine other : Machine}
    (alike : Alike fonts depth machine other)
    (covered :
      machine.pc + 3 ≤ machine.code.size →
      machine.stack.top < machine.stack.capacity →
      machine.stack.top < depth)
    (test : Word → Bool) :
    SameAnswer (Alike fonts depth)
      (machine.outcome (jumpWhen test))
      (other.outcome (jumpWhen test)) := by
  refine (parallel_fetch 3).bindAt alike fun target middle otherMiddle fetched middleAlike => ?_
  obtain ⟨inside, -, rfl⟩ := eq_of_outcome_fetch fetched
  have same := middleAlike.dataStacks.lastPopped (covered inside)
  have jump (removed : Except Fault Word) : Parallel (do
      let value ← check removed
      if test value then
        modify fun machine => { machine with pc := target }) :=
    (Parallel.ofCheck removed).bind fun _ =>
      .ofIte (.ofModify fun _ _ _ _ => rfl) (.ofPure ())
  rw [outcome_bind_of_ok (outcome_get _), outcome_bind_of_ok (outcome_get _), same]
  exact jump _ fonts depth _ _ middleAlike

theorem sameAnswer_action
    {fonts : FontTable}
    {depth : Nat}
    {machine other : Machine}
    (alike : Alike fonts depth machine other)
    (opcode : Opcode)
    (covered :
      opcode.testsRemoved = true →
      machine.pc + 3 ≤ machine.code.size →
      machine.stack.top < machine.stack.capacity →
      machine.stack.top < depth) :
    SameAnswer (Alike fonts depth)
      (machine.outcome opcode.action)
      (other.outcome opcode.action) := by
  rcases tests : opcode.testsRemoved with _ | _
  · cases opcode with
    | general instruction =>
        exact parallel_execute instruction tests fonts depth machine other alike
    | builtin function => exact parallel_call function fonts depth machine other alike
  · have near := covered tests
    match opcode, tests with
    | .general .jumpIfZero, _ => exact sameAnswer_jumpWhen alike near _
    | .general .jumpIfNonzero, _ => exact sameAnswer_jumpWhen alike near _

/-- The slot whose value the next step tests, if it is a conditional jump. -/
def testedSlot? (machine : Machine) : Option Nat :=
  if machine.finished = false ∧
      machine.opcode?.any Opcode.testsRemoved ∧
      machine.pc + 4 ≤ machine.code.size ∧
      machine.stack.top < machine.stack.capacity then
    some machine.stack.top
  else
    none

theorem sameAnswer_instruct
    {fonts : FontTable}
    {depth : Nat}
    {machine other : Machine}
    (alike : Alike fonts depth machine other)
    (running : machine.finished = false)
    (covered : ∀ slot ∈ machine.testedSlot?, slot < depth) :
    SameAnswer (Alike fonts depth) (machine.outcome instruct) (other.outcome instruct) := by
  have samePc : other.pc = machine.pc := by
    cases alike
    rfl
  unfold instruct
  rw [outcome_bind_of_ok (outcome_get machine), outcome_bind_of_ok (outcome_get other), samePc]
  refine (parallel_fetch 1).bindAt alike fun number middle otherMiddle fetched middleAlike => ?_
  obtain ⟨inside, rfl, rfl⟩ := eq_of_outcome_fetch fetched
  dsimp only
  have here : machine.code[machine.pc]? = some machine.code[machine.pc] :=
    Array.getElem?_eq_getElem inside
  rw [ofNat_codeNumber_one here]
  rcases known : Opcode.ofByte? machine.code[machine.pc] with _ | opcode
  · exact ⟨rfl, middleAlike⟩
  · have current : machine.opcode? = some opcode := by
      unfold opcode?
      rw [here]
      exact known
    have action := sameAnswer_action middleAlike opcode fun tests near room => covered _ <| by
      unfold testedSlot?
      rw [current, Option.any_some]
      exact if_pos ⟨running, tests, near, room⟩
    cases opcode with
    | general instruction => exact action
    | builtin function => exact action

/-- A step reports what the action reports. -/
theorem sameAnswer_conclude
    {fonts : FontTable}
    {depth : Nat}
    {first second : Except Fault Unit × Machine}
    (same : SameAnswer (Alike fonts depth) first second) :
    SameAnswer (Alike fonts depth) (conclude first) (conclude second) := by
  obtain ⟨result, after, otherAfter, rfl, rfl, alike⟩ := same.cases
  cases result with
  | ok _ => exact ⟨congrArg Except.ok alike.finished, alike⟩
  | error fault =>
      obtain ⟨devices, tables, dataStacks⟩ := alike
      exact ⟨rfl, .intro { after with finished := true } devices tables dataStacks⟩

/-- A step that tests no slot above the depth cannot tell machines that are alike apart. -/
theorem sameAnswer_step
    {fonts : FontTable}
    {depth : Nat}
    {machine other : Machine}
    (alike : Alike fonts depth machine other)
    (covered : ∀ slot ∈ machine.testedSlot?, slot < depth) :
    SameAnswer (Alike fonts depth) machine.step other.step := by
  have sameFinished := alike.finished
  rcases running : machine.finished with _ | _
  · rw [running] at sameFinished
    rw [step_eq_conclude running, step_eq_conclude sameFinished]
    exact sameAnswer_conclude (sameAnswer_instruct alike running covered)
  · rw [running] at sameFinished
    unfold step
    rw [if_pos running, if_pos sameFinished]
    exact ⟨rfl, alike⟩

end Steps

end Machine

end Handheld
