import Handheld.Machine.Builtins
import Handheld.Machine.Execution

namespace Handheld

/-!
# Running programs

The life of a program: an image is loaded, a run is prepared, instructions are
executed until the program is over, and the files it left open are closed. A
fault ends the program; after its end further steps do nothing.
-/

namespace Machine

/-- Load an image. -/
def load
    (machine : Machine)
    (code : Array UInt8) :
    Except ImageRefusal Unit × Machine :=
  match Image.check code with
  | .ok () => (.ok (), { machine with code := code, finished := true })
  | .error refusal => (.error refusal, machine)

/-- Memory as a run finds it. -/
def preparedRam
    (policy : RamPolicy)
    (ram : Ram) :
    Ram :=
  match policy with
  | .keep => ram
  | .clear => ram.fill 0 Ram.capacity 0

/-- The device as a run finds it. -/
def preparedDevice
    (policy : RamPolicy)
    (device : Device) :
    Device :=
  let cleared := { device with ram := preparedRam policy device.ram }.resetText
  { cleared with
    ram := cleared.ram.fill frameRegion frameRegionSize 0
    keyboard := cleared.keyboard.reset }

/-- Make everything ready for a run of the loaded image. -/
def prepare (machine : Machine) : Except Fault Unit × Machine :=
  if machine.code.isEmpty then
    (.error .noCode, machine)
  else
    (.ok (), { machine with
      device := preparedDevice machine.ramPolicy machine.device
      files := machine.files.reset
      pc := Image.codeStart
      stack := machine.stack.clear
      frames := none
      stringPointer := stringRegion
      xorFactor := 0
      finished := false })

/-- Fetch an opcode and carry it out. -/
def instruct : Action Unit := do
  let start := (← get).pc
  let byte := UInt8.ofNat (← fetch 1)
  match Opcode.ofByte? byte with
  | some (.general instruction) => execute instruction
  | some (.builtin function) => call function
  | none => throw (.illegalOpcode byte start)

/-- Execute one instruction and tell whether the program is over. -/
def step (machine : Machine) : Except Fault Bool × Machine :=
  if machine.finished then
    (.ok true, machine)
  else
    match instruct.run.run machine with
    | (.ok (), after) => (.ok after.finished, after)
    | (.error fault, after) => (.error fault, { after with finished := true })

/-- Execute up to `limit` instructions, counting them from `steps` on. -/
def runFrom
    (machine : Machine)
    (steps limit : Nat) :
    Except Fault Nat × Machine :=
  match limit with
  | 0 => (.ok steps, machine)
  | rest + 1 =>
      if machine.finished then
        (.ok steps, machine)
      else
        match machine.step with
        | (.ok _, after) => after.runFrom (steps + 1) rest
        | (.error fault, after) => (.error fault, after)

/-- Execute up to `limit` instructions and tell how many there were. -/
def run
    (machine : Machine)
    (limit : Nat) :
    Except Fault Nat × Machine :=
  machine.runFrom 0 limit

/-- Close the files that the program left open. -/
def cleanUp (machine : Machine) : Machine :=
  { machine with files := machine.files.closeAll }

end Machine

end Handheld
