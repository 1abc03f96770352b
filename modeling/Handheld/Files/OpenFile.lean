import Handheld.Files.FileError

namespace Handheld

/-!
# Open files

The whole content of an open file is held in memory next to a cursor. Reading
and writing happen at the cursor and move it; the host sees a change only when
the file is closed.
-/

/-- What a file is opened for, one bit for each of reading, writing and creating. -/
structure Access where
  bits : Nat
  deriving DecidableEq, Repr

namespace Access

/-- Bit zero asks for reading. -/
def reads (access : Access) : Bool :=
  access.bits % 2 = 1

/-- Bit one asks for writing. -/
def writes (access : Access) : Bool :=
  access.bits / 2 % 2 = 1

/-- Bit two asks for a missing file to be made. -/
def creates (access : Access) : Bool :=
  access.bits / 4 % 2 = 1

/-- Reading alone. -/
def toRead : Access := { bits := 1 }

/-- Reading and writing. -/
def toUpdate : Access := { bits := 3 }

/-- Writing to a file that may be new. -/
def toWrite : Access := { bits := 6 }

/-- Reading and writing to a file that may be new. -/
def toWriteAndRead : Access := { bits := 7 }

end Access

/-- How a file is opened. -/
structure OpenMode where
  access : Access
  truncate : Bool := false
  append : Bool := false
  deriving DecidableEq, Repr

/-- The mode of a text: read, write or append, then perhaps `b`, then perhaps `+`. -/
def OpenMode.parse (text : String) : Except FileError OpenMode :=
  if text = "r" ∨ text = "rb" then
    .ok { access := .toRead }
  else if text = "r+" ∨ text = "rb+" then
    .ok { access := .toUpdate }
  else if text = "w" ∨ text = "wb" then
    .ok { access := .toWrite, truncate := true }
  else if text = "w+" ∨ text = "wb+" then
    .ok { access := .toWriteAndRead, truncate := true }
  else if text = "a" ∨ text = "ab" then
    .ok { access := .toWrite, append := true }
  else if text = "a+" ∨ text = "ab+" then
    .ok { access := .toWriteAndRead, append := true }
  else
    .error (.invalidMode text)

/-- A file that is open, and where on the host it belongs. -/
structure OpenFile where
  place : Place
  content : List UInt8
  offset : Nat := 0
  canRead : Bool
  canWrite : Bool
  dirty : Bool := false
  deriving DecidableEq, Repr

namespace OpenFile

/-- Number of bytes. -/
def size (file : OpenFile) : Nat :=
  file.content.length

/-- Whether the cursor stands at the end. -/
def atEnd (file : OpenFile) : Bool :=
  file.size ≤ file.offset

/-- Move the cursor to an offset between zero and the size. -/
def seek
    (file : OpenFile)
    (offset : Int) :
    Except FileError OpenFile :=
  if 0 ≤ offset ∧ offset ≤ file.size then
    .ok { file with offset := offset.toNat }
  else
    .error (.offsetOutOfBounds offset file.size)

/-- Read up to `count` bytes. -/
def read
    (file : OpenFile)
    (count : Nat) :
    List UInt8 × OpenFile :=
  let bytes := (file.content.drop file.offset).take count
  (bytes, { file with offset := file.offset + bytes.length })

/--
Write bytes over what is there, or past the end. Nothing written is no change.

A file that is too short for the bytes is first filled up with zeros.
-/
def write
    (file : OpenFile)
    (bytes : List UInt8) :
    OpenFile :=
  if bytes = [] then
    file
  else
    let stop := file.offset + bytes.length
    let room := file.content ++ List.replicate (stop - file.size) 0
    { file with
      content := room.take file.offset ++ bytes ++ room.drop stop
      offset := stop
      dirty := true }

/-- With the cursor inside the file all zeros are written over. -/
theorem write_of_cursor_le
    {file : OpenFile}
    (cursor : file.offset ≤ file.size)
    {bytes : List UInt8}
    (something : bytes ≠ []) :
    file.write bytes =
      { file with
        content :=
          file.content.take file.offset ++ bytes ++ file.content.drop (file.offset + bytes.length)
        offset := file.offset + bytes.length
        dirty := true } := by
  unfold size at cursor
  have filled :
      (List.replicate (file.offset + bytes.length - file.size) (0 : UInt8)).drop
        (file.offset + bytes.length - file.content.length) = [] := by
    simp [size]
  unfold write
  rw [if_neg something]
  dsimp only
  rw [List.take_append_of_le_length cursor, List.drop_append, filled, List.append_nil]

/-- Drop all content. -/
def truncate (file : OpenFile) : OpenFile :=
  { file with content := [], offset := 0, dirty := true }

end OpenFile

end Handheld
