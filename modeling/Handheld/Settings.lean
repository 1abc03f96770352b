namespace Handheld

/-!
# Settings

What the host of a machine chooses once, before it runs a program.
-/

/-- What preparing a run does to memory outside the frame region. -/
inductive RamPolicy where
  /-- It stays as the run before left it. -/
  | keep
  /-- It is set to zero. -/
  | clear
  deriving DecidableEq, Repr

/-- The settings of the host. -/
structure Settings where
  /-- The host directory that is the root of the file store. -/
  root : String := "GvmFiles"
  /-- The host directory that holds the fonts. Without it text is blank. -/
  fontDir : Option String := none
  /-- Instructions between two pauses. -/
  stepsPerTick : Nat := 1000
  /-- Length of a pause in nanoseconds. -/
  tickNanoseconds : Nat := 500
  /-- Whether there are pauses at all. -/
  throttled : Bool := false
  ramPolicy : RamPolicy := .keep
  deriving DecidableEq, Repr

/-- The pause in nanoseconds to make after a number of instructions, if any. -/
def Settings.pause?
    (settings : Settings)
    (steps : Nat) :
    Option Nat :=
  if settings.throttled ∧ steps % max settings.stepsPerTick 1 = 0 then
    some settings.tickNanoseconds
  else
    none

/-- The name of the emulator. -/
def emulatorName : String := "Lava GVM"

/-- The name of the emulator's command. -/
def commandName : String := "lava-gvm"

/-- The version of the emulator. -/
def emulatorVersion : String := "0.1.0"

end Handheld
