import Handheld.Arithmetic.Random
import Handheld.Clock
import Handheld.DataStack
import Handheld.Device
import Handheld.Files.HandleTable
import Handheld.Image.Header
import Handheld.Settings

namespace Handheld

/-!
# The machine

The state of the machine and the actions that everything it does is made of. An
action that meets a fault keeps what it has changed so far, since memory, stack
and program counter can be looked at after a fault.
-/

/-- Where the current call frame lies. -/
structure Frames where
  base : Nat
  /-- Where the next frame starts. -/
  finish : Nat
  /-- The base set first. -/
  initial : Nat
  deriving DecidableEq, Repr

/-- The layout of memory that the machine relies on. -/
def stringRegion : Nat := 0x1000

/-- Past this address the next string literal starts over. -/
def stringRegionTurn : Nat := 0x1300

/-- Start of the frame region. -/
def frameRegion : Nat := 0x2000

/-- Bytes of the frame region. -/
def frameRegionSize : Nat := 0x5000

/-- The state of the machine. -/
structure Machine where
  device : Device
  files : HandleTable
  clock : Clock := { seconds := 0 }
  ramPolicy : RamPolicy := .keep
  code : Array UInt8 := #[]
  pc : Nat := Image.codeStart
  stack : DataStack := DataStack.empty DataStack.standardCapacity
  frames : Option Frames := none
  stringPointer : Nat := stringRegion
  xorFactor : UInt8 := 0
  random : Random := {}
  finished : Bool := true

/-- Something the machine does, with a result or a fault. -/
abbrev Action := ExceptT Fault (StateM Machine)

namespace Machine

/-- Main memory. -/
def ram (machine : Machine) : Ram :=
  machine.device.ram

/-- The base of the current frame, if there is one. -/
def frameBase? (machine : Machine) : Option Nat :=
  machine.frames.map (·.base)

/-- Go on with a result, or fail with its fault. -/
def check : Except Fault α → Action α
  | .ok value => pure value
  | .error fault => throw fault

/-- Change the device. -/
def onDevice (change : Device → Device) : Action Unit :=
  modify fun machine => { machine with device := change machine.device }

/-- Ask the device something that may change it. -/
def askDevice (question : Device → α × Device) : Action α :=
  modifyGet fun machine =>
    let (answer, device) := question machine.device
    (answer, { machine with device := device })

/-- Change memory. -/
def onRam (change : Ram → Ram) : Action Unit :=
  onDevice fun device => { device with ram := change device.ram }

/-- Look something up in memory. -/
def inRam (look : Ram → α) : Action α :=
  return look (← get).ram

/-- Put a value on the stack. -/
def push (value : Word) : Action Unit := do
  let stack ← check ((← get).stack.push value)
  modify fun machine => { machine with stack := stack }

/-- Put a truth value on the stack. -/
def pushBool (value : Bool) : Action Unit :=
  push (Word.ofBool value)

/-- Take the top value from the stack. -/
def pop : Action Word := do
  let (value, stack) ← check (← get).stack.pop
  modify fun machine => { machine with stack := stack }
  return value

/-- Take several values from the stack, deepest first. -/
def take (count : Nat) : Action (Vector Word count) := do
  let (values, stack) ← check ((← get).stack.take count)
  modify fun machine => { machine with stack := stack }
  return values

/-- Take two values from the stack, deepest first. -/
def takeTwo : Action (Word × Word) := do
  let values ← take 2
  return (values[0], values[1])

/-- Take three values from the stack, deepest first. -/
def takeThree : Action (Word × Word × Word) := do
  let values ← take 3
  return (values[0], values[1], values[2])

/-- Take four values from the stack, deepest first. -/
def takeFour : Action (Word × Word × Word × Word) := do
  let values ← take 4
  return (values[0], values[1], values[2], values[3])

/-- Take five values from the stack, deepest first. -/
def takeFive : Action (Word × Word × Word × Word × Word) := do
  let values ← take 5
  return (values[0], values[1], values[2], values[3], values[4])

/-- Take six values from the stack, deepest first. -/
def takeSix : Action (Word × Word × Word × Word × Word × Word) := do
  let values ← take 6
  return (values[0], values[1], values[2], values[3], values[4], values[5])

/-- Take an address from the stack. -/
def popAddress : Action Nat :=
  return (← pop).address

/-- Refuse a range of memory that ends past the address space. -/
def checkRange
    (address length : Nat) :
    Action Unit :=
  check (Ram.checkRange address length)

/-- The string at an address. -/
def stringAt (address : Nat) : Action (List UInt8) := do
  match ← inRam (·.string? address) with
  | some text => return text
  | none => throw (.unterminatedString address)

/-- Store a string and its NUL, if they fit into memory. -/
def storeString
    (address : Nat)
    (text : List UInt8) :
    Action Unit := do
  checkRange address (text.length + 1)
  onRam (·.writeString address text)

/-- The number in `count` bytes of code from an index on, least significant first. -/
def codeNumber
    (code : Array UInt8)
    (count index : Nat) :
    Nat :=
  match count with
  | 0 => 0
  | rest + 1 => (code.getD index 0).toNat + 256 * codeNumber code rest (index + 1)

/-- Advance the program counter over `count` bytes of code and give where they start. -/
def advance (count : Nat) : Action Nat := do
  let machine ← get
  let start := machine.pc
  if start + count ≤ machine.code.size then
    modify fun machine => { machine with pc := start + count }
    return start
  else
    throw (.codeOutOfBounds start)

/-- Fetch a number of `count` bytes. -/
def fetch (count : Nat) : Action Nat := do
  let start ← advance count
  return codeNumber (← get).code count start

/-- Fetch an unsigned number of two bytes as a word. -/
def fetchWord : Action Word :=
  return Word.ofBits (← fetch 2)

/-- Fetch a signed number of two bytes. -/
def fetchSigned16 : Action Word :=
  return Word.ofSigned16 (← fetch 2)

/-- Fetch `count` bytes as they are. -/
def fetchBytes (count : Nat) : Action (List UInt8) := do
  let start ← advance count
  return ((← get).code.extract start (start + count)).toList

/-- The base of the current frame. -/
def frameBase : Action Nat := do
  match (← get).frameBase? with
  | some base => return base
  | none => throw .noFrame

end Machine

end Handheld
