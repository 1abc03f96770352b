import Handheld.Instruction.Opcode
import Handheld.Machine.State
import Handheld.Pointer

namespace Handheld

/-!
# General instructions

What each general instruction does. Operands are fetched and popped in a fixed
order, which decides the fault when several things are wrong.
-/

namespace Machine

/-- The address that a popped index and an operand name together. -/
def indexedAddress : Action Nat := do
  let index ← pop
  let offset ← fetchWord
  return Word.sumAddress index offset

/-- The address that an operand, a popped index and the frame base name together. -/
def frameIndexedAddress : Action Nat := do
  let offset ← fetchWord
  let index ← pop
  let base ← frameBase
  return Word.sumAddress index (offset + Word.ofBits base)

/-- The address at which a load finds its value. -/
def loadAddress : Addressing → Action Nat
  | .absolute => fetch 2
  | .indexed => indexedAddress
  | .frame => do
      let offset ← fetch 2
      return offset + (← frameBase)
  | .frameIndexed => frameIndexedAddress

/-- Push the pointer to a value of a width. -/
def pushPointer
    (address : Nat)
    (width : Width) :
    Action Unit :=
  push (Word.ofBits address ||| width.tag)

/-- Take a pointer from the stack, with the address that it names. -/
def popPointer : Action (Pointer × Nat) := do
  let pointer ← check (Pointer.decode (← pop))
  let address ← check (pointer.resolve (← get).frameBase?)
  return (pointer, address)

/-- The decoded bytes of a string literal before its NUL, and whether there is a NUL. -/
def literalBytes
    (code : Array UInt8)
    (factor : UInt8)
    (index : Nat)
    (found : Array UInt8) :
    Array UInt8 × Bool :=
  if bound : index < code.size then
    let byte := code[index] ^^^ factor
    if byte = 0 then
      (found, true)
    else
      literalBytes code factor (index + 1) (found.push byte)
  else
    (found, false)
termination_by code.size - index

/--
Push the address of a string literal and store the literal there.

Literals follow one another in their region of memory, which starts over after a
literal that reaches its last quarter. Bytes of a literal without an end are
stored before the fault.
-/
def pushLiteral : Action Unit := do
  push (Word.ofBits (← get).stringPointer)
  let machine ← get
  let (found, ended) := literalBytes machine.code machine.xorFactor machine.pc #[]
  let text := found.toList ++ if ended then [0] else []
  let start := machine.stringPointer
  let stop := start + text.length
  let pc := machine.pc + text.length
  onRam (·.write start text)
  modify fun machine => { machine with pc := pc, stringPointer := stop }
  if ended then
    if stringRegionTurn ≤ stop then
      modify fun machine => { machine with stringPointer := stringRegion }
  else
    throw (.codeOutOfBounds pc)

/-- The value that stepping pushes and the one that it stores. -/
def stepped
    (stepping : Stepping)
    (value : Word) :
    Word × Word :=
  match stepping with
  | .incrementFirst => (value + 1, value + 1)
  | .decrementFirst => (value - 1, value - 1)
  | .incrementAfter => (value, value + 1)
  | .decrementAfter => (value, value - 1)

/-- Step the value behind a pointer. -/
def stepPointer (stepping : Stepping) : Action Unit := do
  let (pointer, address) ← popPointer
  let value ← inRam (pointer.width.load · address)
  let (result, stored) := stepped stepping value
  push result
  onRam (pointer.width.store · address stored)

/-- Jump when the value popped last passes a test. -/
def jumpWhen (test : Word → Bool) : Action Unit := do
  let target ← fetch 3
  let value ← check (← get).stack.lastPopped
  if test value then
    modify fun machine => { machine with pc := target }

/-- Bytes of a frame in front of its arguments: return address and base of the caller. -/
def frameHeaderSize : Nat := 5

/-- Store words one after the other. -/
def storeWords
    (ram : Ram)
    (address : Nat) :
    List Word → Ram
  | [] => ram
  | word :: rest => storeWords (ram.setWord 4 address word) (address + 4) rest

/-- Open a frame of the given size and move arguments from the stack into it. -/
def enterFrame
    (size arguments : Nat) :
    Action Unit := do
  match (← get).frames with
  | none => throw .noFrame
  | some frames =>
      onRam (·.setNumber 2 (frames.finish + 3) frames.base)
      let base := frames.finish
      let opened := { frames with base := base, finish := base + size }
      modify fun machine => { machine with frames := some opened }
      if opened.finish > frameRegion + frameRegionSize then
        throw (.frameOverflow base)
      let values ← take arguments
      onRam (storeWords · (base + frameHeaderSize) values.toList)

/-- Close the current frame and go back to the caller. -/
def leaveFrame : Action Unit := do
  match (← get).frames with
  | none => throw .noFrame
  | some frames =>
      let caller ← inRam (·.number 2 (frames.base + 3))
      let pc ← inRam (·.number 3 frames.base)
      let closed := { frames with base := caller, finish := frames.base }
      modify fun machine => { machine with frames := some closed, pc := pc }

/-- Address of an area of memory. -/
def areaAddress : Area → Nat
  | .text => TextGrid.window.start
  | .graphics => Target.graphics.base
  | .buffer => Target.buffer.base

/-- Carry out a general instruction. -/
def execute : Instruction → Action Unit
  | .nothing =>
      return
  | .loadAll =>
      return
  | .pushImmediate .byte => do
      push (Word.ofBits (← fetch 1))
  | .pushImmediate .half => do
      push (← fetchSigned16)
  | .pushImmediate .full => do
      push (Word.ofBits (← fetch 4))
  | .load addressing width => do
      let address ← loadAddress addressing
      push (← inRam (width.load · address))
  | .pointerIndexed width => do
      pushPointer (← indexedAddress) width
  | .pointerFrameIndexed width => do
      pushPointer (← frameIndexedAddress) width
  | .pushLiteral =>
      pushLiteral
  | .addressIndexed => do
      let offset ← fetchWord
      let index ← pop
      push (Word.ofBits (Word.sumAddress index offset))
  | .addressFrameIndexed => do
      push (Word.ofBits (← frameIndexedAddress))
  | .addressFrame => do
      let offset ← fetchWord
      push (Word.ofBits (Word.sumAddress offset (Word.ofBits (← frameBase))))
  | .pushArea area =>
      push (Word.ofBits (areaAddress area))
  | .negate => do
      push (-(← pop))
  | .complement => do
      push (~~~(← pop))
  | .logicalNot => do
      pushBool ((← pop) == 0)
  | .stepPointer stepping =>
      stepPointer stepping
  | .operate operator => do
      let right ← pop
      let left ← pop
      push (← check (operator.apply left right))
  | .operateImmediate operator => do
      let right ← fetchSigned16
      let left ← pop
      push (← check (operator.apply left right))
  | .store => do
      let value ← pop
      let (pointer, address) ← popPointer
      onRam (pointer.width.store · address value)
      push value
  | .loadByte => do
      let address ← popAddress
      push (← inRam (Width.byte.load · address))
  | .bytePointer => do
      pushPointer (← popAddress) .byte
  | .pop => do
      let _ ← pop
  | .jumpIfZero =>
      jumpWhen (· == 0)
  | .jumpIfNonzero =>
      jumpWhen (· != 0)
  | .jump => do
      let target ← fetch 3
      modify fun machine => { machine with pc := target }
  | .setFrameBase => do
      let base ← fetch 2
      modify fun machine =>
        { machine with frames := some { base := base, finish := base, initial := base } }
  | .call => do
      let target ← fetch 3
      match (← get).frames with
      | none => throw .noFrame
      | some frames =>
          let back := (← get).pc
          onRam (·.setNumber 3 frames.finish back)
          modify fun machine => { machine with pc := target }
  | .enter => do
      let size ← fetch 2
      let arguments ← fetch 1
      enterFrame size arguments
  | .leave =>
      leaveFrame
  | .halt =>
      modify fun machine => { machine with finished := true }
  | .initData => do
      let address ← fetch 2
      let length ← fetch 2
      let bytes ← fetchBytes length
      onRam (·.write address bytes)
  | .setXorFactor => do
      let factor ← fetch 1
      modify fun machine => { machine with xorFactor := UInt8.ofNat factor }

end Machine

end Handheld
