import Handheld.Machine.State
import Handheld.Text.Gbk.Codec

namespace Handheld

/-!
# Functions on files

A file operation that fails gives the program a value that stands for failure;
only what is wrong with memory or the stack is a fault. Handles are the low byte
of a word.
-/

namespace Machine

/-- Do something with the files that may change them whether or not it fails. -/
def onFiles
    (operation : HandleTable → Except FileError α × HandleTable) :
    Action (Except FileError α) :=
  modifyGet fun machine =>
    let (result, files) := operation machine.files
    (result, { machine with files := files })

/-- Do something with the files that changes them only if it does not fail. -/
def updateFiles
    (operation : HandleTable → Except FileError (α × HandleTable)) :
    Action (Except FileError α) :=
  onFiles fun files =>
    match operation files with
    | .ok (value, changed) => (.ok value, changed)
    | .error error => (.error error, files)

/-- A result, or the value that stands for failure. -/
def orElse
    (failure : α) :
    Except FileError α → α
  | .ok value => value
  | .error _ => failure

/-- The path in the string at an address. -/
def pathAt (address : Nat) : Action String :=
  return Gbk.decode (← stringAt address)

/-- Take a handle from the stack. -/
def popHandle : Action Word :=
  return Word.ofByte (← pop).lowByte

/-- Open a file. -/
def fileOpen : Action Unit := do
  let modeAddress ← popAddress
  let pathAddress ← popAddress
  let path ← pathAt pathAddress
  let mode ← pathAt modeAddress
  push (orElse 0 (← onFiles (·.openFile path mode)))

/-- Close a file. -/
def fileClose : Action Unit := do
  let handle ← popHandle
  let _ ← onFiles (·.closeFile handle)

/-- Read from a file into memory. -/
def fileRead : Action Unit := do
  let (address, _, count, handle) ← takeFour
  checkRange address.address count.address
  let bytes := orElse [] (← updateFiles (·.read (Word.ofByte handle.lowByte) count.address))
  onRam (·.write address.address bytes)
  push (Word.ofBits bytes.length)

/-- Write bytes to a file and give how many were written. -/
def writeTo
    (handle : Word)
    (bytes : List UInt8) :
    Action Nat :=
  return orElse 0 <| ← updateFiles fun files =>
    (files.write handle bytes).map fun changed => (bytes.length, changed)

/-- Write from memory to a file. -/
def fileWrite : Action Unit := do
  let (address, _, count, handle) ← takeFour
  checkRange address.address count.address
  let bytes ← inRam (·.bytes address.address count.address)
  let written ← writeTo (Word.ofByte handle.lowByte) bytes
  push (Word.ofBits written)

/-- Move the cursor of a file and give where it stands. -/
def seekFrom
    (files : HandleTable)
    (handle : Word)
    (origin : Except FileError Nat)
    (offset : Word) :
    Except FileError (Nat × HandleTable) := do
  let start ← origin
  let moved ← files.seek handle (start + offset.toInt)
  return (← moved.tell handle, moved)

/-- Move the cursor of a file, counting from its start, its cursor or its end. -/
def fileSeek : Action Unit := do
  let (handleWord, offset, base) ← takeThree
  let handle := Word.ofByte handleWord.lowByte
  let seek (origin : HandleTable → Except FileError Nat) : Action Unit := do
    let result ← updateFiles fun files => seekFrom files handle (origin files) offset
    push (orElse (-1) (result.map Word.ofBits))
  match base.lowByte with
  | 0 => seek fun _ => .ok 0
  | 1 => seek fun files => files.tell handle
  | 2 => seek fun files => files.size handle
  | _ => push (-1)

/-- Where the cursor of a file stands. -/
def fileTell : Action Unit := do
  let handle ← popHandle
  push (orElse (-1) (((← get).files.tell handle).map Word.ofBits))

/-- Whether the cursor of a file stands at its end. -/
def fileAtEnd : Action Unit := do
  let handle ← popHandle
  pushBool (orElse true ((← get).files.atEnd handle))

/-- Move the cursor of a file to its start. -/
def fileRewind : Action Unit := do
  let handle ← popHandle
  let _ ← updateFiles fun files => (files.seek handle 0).map fun moved => ((), moved)

/-- Read a byte from a file. -/
def fileGetByte : Action Unit := do
  let handle ← popHandle
  let bytes := orElse [] (← updateFiles (·.read handle 1))
  match bytes with
  | byte :: _ => push (Word.ofByte byte)
  | [] => push (-1)

/-- Write a byte to a file. -/
def filePutByte : Action Unit := do
  let handle ← popHandle
  let byte := (← pop).lowByte
  let written ← writeTo handle [byte]
  push (if written = 1 then Word.ofByte byte else -1)

/-- Do something with the path on the stack and push whether it worked. -/
def withPath
    (operation : String → HandleTable → Except FileError Bool × HandleTable) :
    Action Unit := do
  let path ← pathAt (← popAddress)
  pushBool (orElse false (← onFiles (operation path)))

/-- Make a directory. -/
def makeDirectory : Action Unit :=
  withPath fun path files => files.makeDirectory path

/-- Delete a file or an empty directory. -/
def deleteFile : Action Unit :=
  withPath fun path files => files.delete path

/-- Change the working directory. -/
def changeDirectory : Action Unit :=
  withPath fun path files =>
    match files.changeDir path with
    | .ok changed => (.ok true, changed)
    | .error error => (.error error, files)

end Machine

end Handheld
