import Handheld.Arithmetic.Sine
import Handheld.Instruction.Opcode
import Handheld.Machine.Chooser
import Handheld.Machine.Graphics
import Handheld.Machine.Memory
import Handheld.Text.Character

namespace Handheld

/-!
# Built-in functions

The function behind each built-in opcode. Arguments come from the stack, results
go there.
-/

namespace Machine

/-- Replace the top of the stack by a function of it. -/
def mapTop (function : Word → Word) : Action Unit := do
  push (function (← pop))

/-- Carry out a built-in function. -/
def call : Builtin → Action Unit
  | .putChar => putChar
  | .getChar => do
      push (← readKey true)
  | .getWord => do
      -- The input method that the argument chooses makes no difference.
      let _ ← pop
      push (← readKey true)
  | .print => print
  | .printToString => printToString
  | .stringCopy => stringCopy
  | .stringLength => stringLength
  | .stringAppend => stringAppend
  | .stringFindChar => stringFindChar
  | .stringCompare => stringCompare
  | .stringFind => stringFind
  | .toLower => mapTop fun word => Word.ofByte (CharacterClass.toLower word.lowByte)
  | .toUpper => mapTop fun word => Word.ofByte (CharacterClass.toUpper word.lowByte)
  | .testChar characterClass =>
      mapTop fun word => Word.ofBool (characterClass.contains word.lowByte)
  | .memorySet => memorySet
  | .memoryCopy => memoryCopy
  | .memoryMove => memoryMove
  | .checksum => checksum
  | .encrypt => encrypt
  | .setScreen => setScreen
  | .updateScreen => updateScreen
  | .writeBlock => writeBlock
  | .refresh => onDevice (·.draw .refresh)
  | .textOut => textOut
  | .block => drawFrame true
  | .rectangle => drawFrame false
  | .clearScreen => drawOn .buffer .clear
  | .point => drawPoint
  | .getPoint => getPoint
  | .line => drawLine
  | .box => drawBox
  | .circle => drawCircle
  | .ellipse => drawEllipse
  | .transformBuffer => transformBuffer
  | .getBlock => getBlock
  | .fillArea => do
      let _ ← takeThree
  | .locate => locate
  | .inKey => do
      push (← readKey false)
  | .checkKey => checkKey
  | .releaseKey => releaseKey
  | .delay => do
      -- Time passes outside the machine.
      let _ ← pop
  | .exit => modify fun machine => { machine with finished := true }
  | .absolute => mapTop fun word => if word < 0 then -word else word
  | .random => do
      let value ← modifyGet fun machine =>
        let (value, random) := machine.random.next
        (value, { machine with random := random })
      push value
  | .seedRandom => do
      let seed ← pop
      modify fun machine => { machine with random := { seed := seed } }
  | .beep => return
  | .sine => mapTop sine
  | .cosine => mapTop cosine
  | .getTicks => do
      push (Word.ofBits (← get).clock.ticks)
  | .getTime => getTime
  | .setTime => do
      let _ ← pop
  | .fileOpen => fileOpen
  | .fileClose => fileClose
  | .fileRead => fileRead
  | .fileWrite => fileWrite
  | .fileSeek => fileSeek
  | .fileTell => fileTell
  | .fileAtEnd => fileAtEnd
  | .fileRewind => fileRewind
  | .fileGetByte => fileGetByte
  | .filePutByte => filePutByte
  | .makeDirectory => makeDirectory
  | .deleteFile => deleteFile
  | .changeDirectory => changeDirectory
  | .chooseFile => chooseFile

end Machine

end Handheld
