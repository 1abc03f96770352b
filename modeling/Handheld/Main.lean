import Handheld.CommandLine.Session
import Std.Time.DateTime.Timestamp

namespace Handheld

/-!
# The command

The outer layer: it reads what a session can see of the host's files, runs the
session, writes back what has changed and prints.
-/

namespace Command

/-- The directory entry of a place on the host. -/
def directoryEntry (place : Place) : IO.FS.DirEntry :=
  { root := "/", fileName := "/".intercalate place }

/-- What the host has at a place. A link is taken to lead to where it really leads. -/
def readEntry? (place : Place) : IO (Option Entry) := do
  let path := (directoryEntry place).path
  try
    match (← path.symlinkMetadata).type with
    | .dir => return some .directory
    | .file => return some (.file (← IO.FS.readBinFile path).toList)
    | .symlink =>
        return some (.link (LinkTarget.ofText (← IO.FS.realPath path).toString))
    | .other => return none
  catch _ =>
    return none

/-- Add what the host has along names, and along the links among them. -/
partial def addAlong
    (host : Host)
    (place : Place) :
    List String → IO Host
  | [] => return host
  | "." :: rest => addAlong host place rest
  | ".." :: rest => addAlong host place.dropLast rest
  | name :: rest => do
      let here := place ++ [name]
      match ← readEntry? here with
      | none => return host
      | some (.link target) =>
          addAlong (host.insert here (.link target))
            (if target.fromTop then [] else place) (target.names ++ rest)
      | some entry => addAlong (host.insert here entry) here rest

/-- Add everything below a place of the host. -/
partial def addBelow
    (host : Host)
    (place : Place) :
    IO Host := do
  let mut below := host
  for child in ← (directoryEntry place).path.readDir do
    let here := place ++ [child.fileName]
    if let some entry ← readEntry? here then
      below := below.insert here entry
      if entry = .directory then
        below ← addBelow below here
  return below

/-- The part of the host's files that a session can see. -/
def readHost
    (directory : Place)
    (options : Options) :
    IO Host := do
  let root := Route.ofText directory options.settings.root
  let fonts := options.settings.fontDir.toList.flatMap fun path =>
    FontTable.fileNames.map (Route.ofText directory path).child
  let files := (options.keys.toList ++ [options.program]).map (Route.ofText directory)
  let mut host : Host := {}
  for route in files ++ fonts ++ [root] do
    host ← addAlong host [] route.names
  match host.locate root with
  | .ok place => addBelow host place
  | .error _ => return host

/-- Remove what is gone, the deepest places first. -/
def removeGone
    (before after : Host) :
    IO Unit := do
  let gone := before.entries.filter fun item => (after.entry? item.1).isNone
  let deepestFirst := gone.mergeSort fun left right => right.1.length ≤ left.1.length
  for (place, entry) in deepestFirst do
    let path := (directoryEntry place).path
    match entry with
    | .directory => IO.FS.removeDir path
    | _ => IO.FS.removeFile path

/-- Write what is new or changed, directories before what they hold. -/
def writeChanged
    (before after : Host) :
    IO Unit := do
  let changed := after.entries.filter fun item => before.entry? item.1 ≠ some item.2
  let topFirst := changed.mergeSort fun left right => left.1.length ≤ right.1.length
  for (place, entry) in topFirst do
    let path := (directoryEntry place).path
    match entry with
    | .directory => IO.FS.createDirAll path
    | .file content => IO.FS.writeBinFile path (ByteArray.mk content.toArray)
    | .link _ => pure ()

/-- The host's clock, in universal time. -/
def readClock : IO Clock := do
  let now ← Std.Time.Timestamp.now
  return { seconds := now.val.second.val, nanoseconds := now.val.nano.val.toNat }

end Command

end Handheld

/-- Run a program from the command line. -/
def main (arguments : List String) : IO UInt32 := do
  let directory := Handheld.Path.names (← IO.currentDir).toString
  let host ← match Handheld.Options.parse arguments with
    | .ok options => Handheld.Command.readHost directory options
    | .error _ => pure {}
  let clock ← Handheld.Command.readClock
  let outcome := Handheld.Session.command arguments host directory clock
  Handheld.Command.removeGone host outcome.host
  Handheld.Command.writeChanged host outcome.host
  IO.print outcome.output
  for line in outcome.errors do
    IO.eprintln line
  return UInt32.ofNat outcome.exit
