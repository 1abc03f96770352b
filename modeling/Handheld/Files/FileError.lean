import Handheld.Files.Host
import Handheld.Text.Quoted

namespace Handheld

/-!
# File errors

A program survives these: the function that met one gives it a value that stands
for failure.
-/

/-- Why a file operation failed. -/
inductive FileError where
  /-- The host failed. -/
  | host (error : HostError)
  /-- The path leads out of the store. -/
  | outsideRoot (place : Place)
  /-- The path does not start at the root of the store. -/
  | relativePath (path : String)
  /-- All handles are in use. -/
  | noFreeHandle
  /-- The file is open under another handle. -/
  | alreadyOpen (path : String)
  /-- The mode text or the access is not a known one. -/
  | invalidMode (mode : String)
  /-- The handle does not name an open file. -/
  | invalidHandle (handle : Word)
  /-- The file was not opened for this. -/
  | accessDenied (handle : Word)
  /-- The path does not lead to a directory. -/
  | notADirectory (path : String)
  /-- The offset lies outside the file. -/
  | offsetOutOfBounds (offset : Int) (size : Nat)
  deriving DecidableEq, Repr

/-- The text that reports a file error. -/
def FileError.message : FileError → String
  | .host error =>
      "I/O error: " ++ error.message
  | .outsideRoot place =>
      "Path escapes the file store root: /" ++ "/".intercalate place
  | .relativePath path =>
      "Path must be absolute: " ++ path
  | .noFreeHandle =>
      "Too many open files"
  | .alreadyOpen path =>
      "File is already open: " ++ path
  | .invalidMode mode =>
      "Invalid open mode: " ++ Quoted.quote mode
  | .invalidHandle handle =>
      "Invalid file handle 0x" ++ hexadecimal 2 handle.bits
  | .accessDenied handle =>
      "File handle 0x" ++ hexadecimal 2 handle.bits ++ " does not permit this access"
  | .notADirectory path =>
      "Not a directory: " ++ path
  | .offsetOutOfBounds offset size =>
      "Offset " ++ toString offset ++ " outside file of " ++ toString size ++ " bytes"

end Handheld
