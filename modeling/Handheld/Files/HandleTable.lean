import Handheld.Files.Store

namespace Handheld

/-!
# Handles

A program sees a working directory and at most three open files, each under a
handle: its slot with bit seven set.
-/

/-- The slots of a table, each with the file that is open in it. -/
structure HandleSlots where
  files : Vector (Option OpenFile) 3 := Vector.replicate 3 none
  deriving DecidableEq, Repr

/-- A slot is always there, so looking into it asks for no proof. -/
instance : GetElem HandleSlots (Fin 3) (Option OpenFile) fun _ _ => True where
  getElem slots slot _ := slots.files[slot]

/-- Put a file into a slot, or leave it free. -/
def HandleSlots.set
    (slots : HandleSlots)
    (slot : Fin 3)
    (file? : Option OpenFile) :
    HandleSlots :=
  { files := slots.files.set slot file? }

/-- The store, the working directory and the open files. -/
structure HandleTable where
  store : Store
  workingDir : String := "/"
  slots : HandleSlots := {}
  deriving DecidableEq, Repr

namespace HandleTable

/-- The path in the store of a path that may start at the working directory. -/
def absolute
    (table : HandleTable)
    (path : String) :
    String :=
  if Path.isAbsolute path then path else table.workingDir ++ path

/-- Change the working directory. -/
def changeDir
    (table : HandleTable)
    (path : String) :
    Except FileError HandleTable :=
  let dir := Path.normalize (table.absolute path)
  if table.store.isDirectory dir then
    .ok { table with workingDir := dir }
  else
    .error (.notADirectory path)

/-- The lowest free slot. -/
def freeSlot? (table : HandleTable) : Option (Fin 3) :=
  (List.finRange 3).find? fun slot => table.slots[slot].isNone

/-- The handle of a slot. -/
def handleOf (slot : Fin 3) : Word :=
  Word.ofBits (0x80 + slot.val)

/-- The slot of a handle. -/
def slotOf (handle : Word) : Except FileError (Fin 3) :=
  let index := handle.bits % 0x80
  if bound : index < 3 then
    if handle.bits / 0x80 % 2 = 1 then
      .ok ⟨index, bound⟩
    else
      .error (.invalidHandle handle)
  else
    .error (.invalidHandle handle)

/-- What a mode does to a file that was just opened. -/
def applyMode
    (mode : OpenMode)
    (file : OpenFile) :
    OpenFile :=
  let cut := if mode.truncate then file.truncate else file
  if mode.append then { cut with offset := cut.size } else cut

/-- Open a file under the lowest free handle. -/
def openFile
    (table : HandleTable)
    (path mode : String) :
    Except FileError Word × HandleTable :=
  match table.freeSlot? with
  | none => (.error .noFreeHandle, table)
  | some slot =>
      match OpenMode.parse mode with
      | .error error => (.error error, table)
      | .ok mode =>
          match table.store.openFile (table.absolute path) mode.access with
          | (.error error, store) => (.error error, { table with store := store })
          | (.ok file, store) =>
              (.ok (handleOf slot), { table with
                store := store
                slots := table.slots.set slot (some (applyMode mode file)) })

/-- The slot and the file of a handle. -/
def find
    (table : HandleTable)
    (handle : Word) :
    Except FileError (Fin 3 × OpenFile) := do
  let slot ← slotOf handle
  match table.slots[slot] with
  | some file => .ok (slot, file)
  | none => .error (.invalidHandle handle)

/-- Put a changed file back into its slot. -/
def update
    (table : HandleTable)
    (slot : Fin 3)
    (file : OpenFile) :
    HandleTable :=
  { table with slots := table.slots.set slot (some file) }

/-- Close the file of a handle. The handle is free afterwards even if writing back fails. -/
def closeFile
    (table : HandleTable)
    (handle : Word) :
    Except FileError Unit × HandleTable :=
  match table.find handle with
  | .error error => (.error error, table)
  | .ok (slot, file) =>
      let (result, store) := table.store.closeFile file
      (result, { table with store := store, slots := table.slots.set slot none })

/-- Close the file in a slot, if there is one. -/
def closeSlot
    (table : HandleTable)
    (slot : Fin 3) :
    HandleTable :=
  match table.slots[slot] with
  | some file =>
      { table with
        store := (table.store.closeFile file).2
        slots := table.slots.set slot none }
  | none => table

/-- Close all files; one that cannot be written back is given up. -/
def closeAll (table : HandleTable) : HandleTable :=
  (List.finRange 3).foldl closeSlot table

/-- Close all files and go back to the root. -/
def reset (table : HandleTable) : HandleTable :=
  { table.closeAll with workingDir := "/" }

/-- Move the cursor of a file. -/
def seek
    (table : HandleTable)
    (handle : Word)
    (offset : Int) :
    Except FileError HandleTable := do
  let (slot, file) ← table.find handle
  let moved ← file.seek offset
  return table.update slot moved

/-- The cursor of a file. -/
def tell
    (table : HandleTable)
    (handle : Word) :
    Except FileError Nat := do
  let (_, file) ← table.find handle
  return file.offset

/-- The size of a file. -/
def size
    (table : HandleTable)
    (handle : Word) :
    Except FileError Nat := do
  let (_, file) ← table.find handle
  return file.size

/-- Whether the cursor of a file stands at its end. -/
def atEnd
    (table : HandleTable)
    (handle : Word) :
    Except FileError Bool := do
  let (_, file) ← table.find handle
  return file.atEnd

/-- Read up to `count` bytes of a file. -/
def read
    (table : HandleTable)
    (handle : Word)
    (count : Nat) :
    Except FileError (List UInt8 × HandleTable) := do
  let (slot, file) ← table.find handle
  if file.canRead then
    let (bytes, moved) := file.read count
    return (bytes, table.update slot moved)
  else
    throw (.accessDenied handle)

/-- Write bytes to a file. -/
def write
    (table : HandleTable)
    (handle : Word)
    (bytes : List UInt8) :
    Except FileError HandleTable := do
  let (slot, file) ← table.find handle
  if file.canWrite then
    return table.update slot (file.write bytes)
  else
    throw (.accessDenied handle)

/-- Make a directory, and tell whether that worked. -/
def makeDirectory
    (table : HandleTable)
    (path : String) :
    Except FileError Bool × HandleTable :=
  let (result, store) := table.store.makeDirectory (table.absolute path)
  (result, { table with store := store })

/-- Delete a file or an empty directory, and tell whether that worked. -/
def delete
    (table : HandleTable)
    (path : String) :
    Except FileError Bool × HandleTable :=
  let (result, store) := table.store.delete (table.absolute path)
  (result, { table with store := store })

/-- The names in the working directory. -/
def list (table : HandleTable) : Except FileError (List String) :=
  table.store.list table.workingDir

/-- Whether a path leads to a directory. -/
def isDirectory
    (table : HandleTable)
    (path : String) :
    Bool :=
  table.store.isDirectory (table.absolute path)

end HandleTable

end Handheld
