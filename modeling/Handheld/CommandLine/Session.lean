import Handheld.CommandLine.KeyScript
import Handheld.CommandLine.Options
import Handheld.Machine.Run

namespace Handheld

/-!
# Running from the command line

A session runs one program without a user: keys come from a script, and the
screen can be printed when the program ends. The exit code tells what went wrong
first: one for an image that cannot be loaded, two for arguments or a key script,
three for the host's files, four for a fault of the program.
-/

/-- How a session ended, what it printed, and the host's files afterwards. -/
structure Outcome where
  exit : Nat
  output : String := ""
  errors : List String := []
  host : Host

namespace Session

/-- End a session with an error. -/
def fail
    (host : Host)
    (exit : Nat)
    (message : String) :
    Outcome :=
  { exit := exit, errors := ["Error: " ++ message], host := host }

/-- Read the key script of a session, if it has one. -/
def readKeys
    (host : Host)
    (directory : Place) :
    Option String → Except Outcome (List Word)
  | none => .ok []
  | some path =>
      match host.readFile (.ofText directory path) with
      | .error error =>
          .error (fail host 3 ("Cannot read " ++ path ++ ": " ++ error.message))
      | .ok content =>
          match String.fromUTF8? (ByteArray.mk content.toArray) with
          | none =>
              .error <| fail host 3
                ("Cannot read " ++ path ++ ": stream did not contain valid UTF-8")
          | some text =>
              match KeyScript.parse text with
              | .ok keys => .ok keys
              | .error refusal =>
                  .error <| fail host 2
                    ("Invalid key script " ++ path ++ ": " ++ refusal.message)

/-- The fonts in a directory of the host. -/
def readFonts
    (host : Host)
    (directory : Place) :
    Option String → FontTable
  | none => FontTable.blank
  | some path =>
      FontTable.ofFiles fun name =>
        (host.readFile ((Route.ofText directory path).child name)).toOption.map List.toArray

/-- The bytes of an image. A directory can be opened like a file but not read. -/
def readImage
    (host : Host)
    (directory : Place)
    (path : String) :
    Except Outcome (Array UInt8) :=
  match host.readFile (.ofText directory path) with
  | .ok content => .ok content.toArray
  | .error .isADirectory =>
      let refusal := ImageRefusal.unreadable HostError.isADirectory.message
      .error (fail host 1 ("Cannot load " ++ path ++ ": " ++ refusal.message))
  | .error error =>
      .error (fail host 3 ("Cannot read " ++ path ++ ": " ++ error.message))

/-- A machine with the given settings, fonts, keys and store. -/
def machine
    (settings : Settings)
    (fonts : FontTable)
    (keyboard : Keyboard)
    (store : Store)
    (clock : Clock) :
    Machine where
  device := { screen := .painted fonts, keyboard := keyboard }
  files := { store := store }
  clock := clock
  ramPolicy := settings.ramPolicy

/-- How far a session has come. -/
structure Progress where
  machine : Machine
  /-- The steps after which the program went on. -/
  steps : Nat := 0
  /-- How long the session has paused, in nanoseconds. -/
  paused : Nat := 0

/-- A step is counted, and followed by a pause if one is due. -/
def Progress.count
    (progress : Progress)
    (settings : Settings)
    (after : Machine) :
    Progress :=
  let steps := progress.steps + 1
  { machine := after, steps := steps, paused := progress.paused + (settings.pause? steps).getD 0 }

/--
Execute instructions until the program is over or at fault, or the step limit is
reached. A step is executed and counted before the limit is looked at.
-/
def advance
    (options : Options)
    (progress : Progress)
    (rounds : Nat) :
    Except Fault Unit × Progress :=
  match rounds with
  | 0 => (.ok (), progress)
  | rest + 1 =>
      match progress.machine.step with
      | (.ok true, after) => (.ok (), { progress with machine := after })
      | (.error fault, after) => (.error fault, { progress with machine := after })
      | (.ok false, after) =>
          let counted := progress.count options.settings after
          if options.maxSteps.any (· ≤ counted.steps) then
            (.ok (), counted)
          else
            advance options counted rest

/-- Rounds enough to reach the limit, and without a limit more than can ever be made. -/
def rounds : Option Nat → Nat
  | some limit => max limit 1
  | none => 0x7fffffffffffffff

/-- Execute a prepared machine's program as far as the options let it run. -/
def play
    (options : Options)
    (machine : Machine) :
    Except Fault Unit × Progress :=
  advance options { machine := machine } (rounds options.maxSteps)

/-- Run a prepared machine to its end and report. -/
def finish
    (options : Options)
    (machine : Machine) :
    Outcome :=
  let (result, progress) := play options machine
  let closed := progress.machine.cleanUp
  let output := if options.dumpScreen then Picture.ofBytes closed.device.snapshot else ""
  let host := closed.files.store.host
  match result with
  | .ok () => { exit := 0, output := output, host := host }
  | .error fault =>
      { exit := 4, output := output, errors := ["Error: " ++ fault.message], host := host }

/-- Carry out what the options ask, in a directory of the host. -/
def run
    (options : Options)
    (host : Host)
    (directory : Place)
    (clock : Clock) :
    Outcome :=
  match readKeys host directory options.keys with
  | .error outcome => outcome
  | .ok keys =>
      let root := options.settings.root
      match Store.create host (.ofText directory root) with
      | (.error error, left) =>
          fail left 3 ("Cannot use sandbox root " ++ root ++ ": " ++ error.message)
      | (.ok store, _) =>
          match readImage store.host directory options.program with
          | .error outcome => outcome
          | .ok code =>
              let fonts := readFonts host directory options.settings.fontDir
              let fresh := machine options.settings fonts (.scripted keys) store clock
              match fresh.load code with
              | (.error refusal, _) =>
                  fail store.host 1
                    ("Cannot load " ++ options.program ++ ": " ++ refusal.message)
              | (.ok (), loaded) =>
                  match loaded.prepare with
                  | (.error fault, _) => fail store.host 4 fault.message
                  | (.ok (), ready) => finish options ready

/-- How the command is called. -/
def usage : String :=
  "Usage: " ++ commandName ++ " [OPTIONS] <PROGRAM>"

/-- What the command is for. -/
def help : String :=
  emulatorName ++ " " ++ emulatorVersion ++ "\n\n" ++ usage

/-- Carry out the command with its arguments. -/
def command
    (arguments : List String)
    (host : Host)
    (directory : Place)
    (clock : Clock) :
    Outcome :=
  match Options.parse arguments with
  | .ok options => run options host directory clock
  | .error .version =>
      { exit := 0, output := commandName ++ " " ++ emulatorVersion ++ "\n", host := host }
  | .error .help =>
      { exit := 0, output := help ++ "\n", host := host }
  | .error .usage =>
      { exit := 2, errors := [usage], host := host }

end Session

end Handheld
