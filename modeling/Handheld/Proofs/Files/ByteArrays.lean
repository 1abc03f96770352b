import Handheld.Proofs.Files.OpenFiles

namespace Handheld

/-!
# Open files as byte arrays

To a program an open file is an array of bytes with a cursor, filled from the
host when it is opened. What is asked of one file is answered by its own array,
whatever happens in between to others, and when it is closed the host has the
array.
-/

/-- An array of bytes with a cursor, and what may be done with it. -/
structure ByteFile where
  bytes : List UInt8
  cursor : Nat
  readable : Bool
  writable : Bool
  deriving DecidableEq, Repr

/-- What can be asked of an open file. -/
inductive FileRequest where
  | read (count : Nat)
  | write (bytes : List UInt8)
  | seek (offset : Int)
  | tell
  | size
  | atEnd
  deriving DecidableEq, Repr

/-- What a call on files answers. -/
inductive FileAnswer where
  | failed (error : FileError)
  | done
  | handle (handle : Word)
  | bytes (bytes : List UInt8)
  | number (value : Nat)
  | truth (value : Bool)
  deriving DecidableEq, Repr

namespace ByteFile

/--
The array of a file that is opened: empty where the mode starts with `w`, with
the cursor at the end where it starts with `a`. It may be read if the mode starts
with `r` and written if it does not, and both with a `+`.
-/
def opened
    (mode : String)
    (content : List UInt8) :
    ByteFile :=
  let first := mode.toList.head?
  let both := mode.toList.contains '+'
  let bytes := if first = some 'w' then [] else content
  {
    bytes := bytes
    cursor := if first = some 'a' then bytes.length else 0
    readable := first = some 'r' || both
    writable := first ≠ some 'r' || both
  }

/-- The bytes from the cursor on, as far as there are any, one for each index. -/
def read
    (file : ByteFile)
    (count : Nat) :
    List UInt8 × ByteFile :=
  let available := min count (file.bytes.length - file.cursor)
  ((List.range available).map fun index => file.bytes.getD (file.cursor + index) 0,
    { file with cursor := file.cursor + available })

/-- Every index from the cursor on that bytes are given for has its new byte, all others the old. -/
def write
    (file : ByteFile)
    (bytes : List UInt8) :
    ByteFile :=
  let stop := file.cursor + bytes.length
  { file with
    bytes := (List.range (max file.bytes.length stop)).map fun index =>
      if file.cursor ≤ index ∧ index < stop then
        bytes.getD (index - file.cursor) 0
      else
        file.bytes.getD index 0
    cursor := stop }

/-- Answer a request that comes with a handle. -/
def serve
    (file : ByteFile)
    (handle : Word) :
    FileRequest → FileAnswer × ByteFile
  | .read count =>
      if file.readable then
        (.bytes (file.read count).1, (file.read count).2)
      else
        (.failed (.accessDenied handle), file)
  | .write bytes =>
      if file.writable then
        (.number bytes.length, file.write bytes)
      else
        (.failed (.accessDenied handle), file)
  | .seek offset =>
      if 0 ≤ offset ∧ offset ≤ file.bytes.length then
        (.done, { file with cursor := offset.toNat })
      else
        (.failed (.offsetOutOfBounds offset file.bytes.length), file)
  | .tell => (.number file.cursor, file)
  | .size => (.number file.bytes.length, file)
  | .atEnd => (.truth (file.bytes.length ≤ file.cursor), file)

/-- Answer requests one after the other. -/
def serveAll
    (file : ByteFile) :
    List (Word × FileRequest) → List FileAnswer × ByteFile
  | [] => ([], file)
  | (handle, request) :: rest =>
      let first := file.serve handle request
      let others := first.2.serveAll rest
      (first.1 :: others.1, others.2)

end ByteFile

/-- A call on the files of a program. -/
inductive FileCall where
  | openFile (path mode : String)
  | closeFile (handle : Word)
  | request (handle : Word) (request : FileRequest)
  | makeDirectory (path : String)
  | delete (path : String)
  | changeDir (path : String)
  | reset
  deriving DecidableEq, Repr

/-- The answer that a result stands for. -/
def FileAnswer.ofResult
    (answer : α → FileAnswer) :
    Except FileError α → FileAnswer
  | .ok value => answer value
  | .error error => .failed error

namespace HandleTable

/-- The answer and the table after a call that changes nothing if it fails. -/
def conclude
    (table : HandleTable)
    (answer : α → FileAnswer × HandleTable) :
    Except FileError α → FileAnswer × HandleTable
  | .ok value => answer value
  | .error error => (.failed error, table)

/-- Answer a request for the file of a handle. -/
def serve
    (table : HandleTable)
    (handle : Word) :
    FileRequest → FileAnswer × HandleTable
  | .read count =>
      table.conclude (fun (bytes, next) => (.bytes bytes, next)) (table.read handle count)
  | .write bytes =>
      table.conclude (fun next => (.number bytes.length, next)) (table.write handle bytes)
  | .seek offset =>
      table.conclude (fun next => (.done, next)) (table.seek handle offset)
  | .tell =>
      table.conclude (fun offset => (.number offset, table)) (table.tell handle)
  | .size =>
      table.conclude (fun size => (.number size, table)) (table.size handle)
  | .atEnd =>
      table.conclude (fun atEnd => (.truth atEnd, table)) (table.atEnd handle)

/-- Make a call. -/
def perform
    (table : HandleTable) :
    FileCall → FileAnswer × HandleTable
  | .openFile path mode =>
      let outcome := table.openFile path mode
      (.ofResult .handle outcome.1, outcome.2)
  | .closeFile handle =>
      let outcome := table.closeFile handle
      (.ofResult (fun _ => .done) outcome.1, outcome.2)
  | .request handle request => table.serve handle request
  | .makeDirectory path =>
      let outcome := table.makeDirectory path
      (.ofResult .truth outcome.1, outcome.2)
  | .delete path =>
      let outcome := table.delete path
      (.ofResult .truth outcome.1, outcome.2)
  | .changeDir path => table.conclude (fun next => (.done, next)) (table.changeDir path)
  | .reset => (.done, table.reset)

/-- Make calls one after the other. -/
def performAll
    (table : HandleTable)
    (calls : List FileCall) :
    HandleTable :=
  calls.foldl (fun table call => (table.perform call).2) table

end HandleTable

namespace FileCall

/-- The handle and the request, if a call asks something of the file in a slot. -/
def requestOn?
    (slot : Fin 3) :
    FileCall → Option (Word × FileRequest)
  | .request handle asked =>
      if (HandleTable.slotOf handle).toOption = some slot then some (handle, asked) else none
  | _ => none

/-- Whether a call closes the file in a slot. -/
def closes
    (slot : Fin 3) :
    FileCall → Bool
  | .closeFile handle => (HandleTable.slotOf handle).toOption = some slot
  | .reset => true
  | _ => false

end FileCall

/-- The answers to what calls ask of the file in a slot, in order. -/
def HandleTable.answersOn
    (table : HandleTable)
    (slot : Fin 3) :
    List FileCall → List FileAnswer
  | [] => []
  | call :: rest =>
      let first := table.perform call
      match call.requestOn? slot with
      | some _ => first.1 :: first.2.answersOn slot rest
      | none => first.2.answersOn slot rest

namespace OpenFile

/-- An open file as an array. -/
def view (file : OpenFile) : ByteFile where
  bytes := file.content
  cursor := file.offset
  readable := file.canRead
  writable := file.canWrite

/-- Reading from the view of a file is reading from the file. -/
theorem view_read
    (file : OpenFile)
    (count : Nat) :
    (file.view.read count).1 = (file.read count).1 ∧
      (file.view.read count).2 = (file.read count).2.view := by
  have available :
      min count (file.content.length - file.offset) =
        ((file.content.drop file.offset).take count).length := by
    simp
  refine ⟨?_, ?_⟩
  · apply List.ext_getElem
    · simp [ByteFile.read, OpenFile.read, view]
    · intro index _ inside
      simp only [OpenFile.read, List.length_take, List.length_drop] at inside
      have inContent : file.offset + index < file.content.length := by omega
      simp [ByteFile.read, OpenFile.read, view, inContent]
  · simp only [ByteFile.read, OpenFile.read, view, available]

/-- Writing to the view of a file is writing to the file, as long as the cursor is in it. -/
theorem view_write
    {file : OpenFile}
    (cursor : file.offset ≤ file.size)
    (bytes : List UInt8) :
    file.view.write bytes = (file.write bytes).view := by
  by_cases nothing : bytes = []
  · subst nothing
    unfold size at cursor
    unfold ByteFile.write OpenFile.write
    simp only [view, if_true, List.length_nil, Nat.add_zero, Nat.max_eq_left cursor]
    congr 1
    apply List.ext_getElem
    · simp
    · intro index _ inside
      have notWritten : ¬ (file.offset ≤ index ∧ index < file.offset) := by omega
      simp [notWritten, inside]
  · rw [write_of_cursor_le cursor nothing]
    unfold size at cursor
    unfold ByteFile.write
    simp only [view]
    congr 1
    apply List.ext_getElem
    · simp only [List.length_map, List.length_range, List.length_append, List.length_take,
        List.length_drop]
      omega
    · intro index _ inside
      simp only [List.getElem_map, List.getElem_range, List.getElem_append, List.getElem_take,
        List.getElem_drop, List.length_append, List.length_take, Nat.min_eq_left cursor]
      by_cases before : index < file.offset
      · rw [if_neg (by omega), dif_pos (by omega), dif_pos before]
        exact (List.getElem_eq_getD 0).symm
      · by_cases written : index < file.offset + bytes.length
        · rw [if_pos (by omega), dif_pos written, dif_neg before]
          exact (List.getElem_eq_getD 0).symm
        · simp only [List.length_append, List.length_take, List.length_drop] at inside
          have same :
              file.offset + bytes.length + (index - (file.offset + bytes.length)) = index := by
            omega
          rw [if_neg (by omega), dif_neg written]
          simp only [same]
          exact (List.getElem_eq_getD 0).symm

/-- What a mode does to a file just opened is what its text says. -/
theorem view_applyMode
    {text : String}
    {mode : OpenMode}
    (parsed : OpenMode.parse text = .ok mode)
    (place : Place)
    (content : List UInt8) :
    (HandleTable.applyMode mode {
      place := place
      content := content
      canRead := mode.access.reads
      canWrite := mode.access.writes
    }).view = ByteFile.opened text content := by
  unfold OpenMode.parse at parsed
  repeat' split at parsed
  all_goals first
    | (rename_i text; rcases text with rfl | rfl <;> cases parsed <;> rfl)
    | cases parsed

end OpenFile

end Handheld
