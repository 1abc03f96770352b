import Handheld.Memory.Access
import Handheld.Instruction.Operator

namespace Handheld

/-!
# The instruction set

An instruction is one byte, followed by its operands in the code. General
instructions take the bytes from `0x00` on and built-in functions those from
`0x80` on, each range in the order of its list here. All other bytes are
illegal.
-/

/-- Where an instruction finds its address. -/
inductive Addressing where
  /-- The address is in the code. -/
  | absolute
  /-- A popped index is added to the address in the code. -/
  | indexed
  /-- The frame base is added to the offset in the code. -/
  | frame
  /-- A popped index and the frame base are added to the offset in the code. -/
  | frameIndexed
  deriving DecidableEq, Repr

/-- The parts of memory whose address an instruction can push. -/
inductive Area where
  | text
  | graphics
  | buffer
  deriving DecidableEq, Repr

/-- The four ways to step the value behind a pointer. -/
inductive Stepping where
  | incrementFirst
  | decrementFirst
  | incrementAfter
  | decrementAfter
  deriving DecidableEq, Repr

/-- A general instruction. Operands are fetched when it is executed. -/
inductive Instruction where
  | nothing
  | pushImmediate (width : Width)
  | load (addressing : Addressing) (width : Width)
  | pointerIndexed (width : Width)
  | pointerFrameIndexed (width : Width)
  | pushLiteral
  | addressIndexed
  | addressFrameIndexed
  | addressFrame
  | pushArea (area : Area)
  | negate
  | stepPointer (stepping : Stepping)
  | operate (operator : Operator)
  | complement
  | logicalNot
  | store
  | loadByte
  | bytePointer
  | pop
  | jumpIfZero
  | jumpIfNonzero
  | jump
  | setFrameBase
  | call
  | enter
  | leave
  | halt
  | initData
  | setXorFactor
  | loadAll
  | operateImmediate (operator : ImmediateOperator)
  deriving DecidableEq, Repr

/-- The general instructions in the order of their bytes. -/
def Instruction.table : Array Instruction :=
  #[
    .nothing,
    .pushImmediate .byte, .pushImmediate .half, .pushImmediate .full,
    .load .absolute .byte, .load .absolute .half, .load .absolute .full,
    .load .indexed .byte, .load .indexed .half, .load .indexed .full,
    .pointerIndexed .byte, .pointerIndexed .half, .pointerIndexed .full,
    .pushLiteral,
    .load .frame .byte, .load .frame .half, .load .frame .full,
    .load .frameIndexed .byte, .load .frameIndexed .half, .load .frameIndexed .full,
    .pointerFrameIndexed .byte, .pointerFrameIndexed .half, .pointerFrameIndexed .full,
    .addressIndexed, .addressFrameIndexed, .addressFrame,
    .pushArea .text, .pushArea .graphics,
    .negate,
    .stepPointer .incrementFirst, .stepPointer .decrementFirst,
    .stepPointer .incrementAfter, .stepPointer .decrementAfter,
    .operate .add, .operate .subtract, .operate .bitAnd, .operate .bitOr,
    .complement,
    .operate .bitXor, .operate .logicalAnd, .operate .logicalOr,
    .logicalNot,
    .operate .multiply, .operate .divide, .operate .remainder,
    .operate .shiftLeft, .operate .shiftRight,
    .operate .equal, .operate .notEqual, .operate .lessEqual,
    .operate .greaterEqual, .operate .greater, .operate .less,
    .store, .loadByte, .bytePointer, .pop,
    .jumpIfZero, .jumpIfNonzero, .jump,
    .setFrameBase, .call, .enter, .leave, .halt,
    .initData, .pushArea .buffer, .setXorFactor, .loadAll,
    .operateImmediate .add, .operateImmediate .subtract, .operateImmediate .multiply,
    .operateImmediate .divide, .operateImmediate .remainder,
    .operateImmediate .shiftLeft, .operateImmediate .shiftRight,
    .operateImmediate .equal, .operateImmediate .notEqual,
    .operateImmediate .greater, .operateImmediate .less,
    .operateImmediate .greaterEqual, .operateImmediate .lessEqual
  ]

/-- The byte of a general instruction. -/
def Instruction.byte (instruction : Instruction) : UInt8 :=
  UInt8.ofNat (Instruction.table.idxOf instruction)

/-- The classes of characters that programs can test for. -/
inductive CharacterClass where
  | alphanumeric
  | alphabetic
  | control
  | digit
  | graphic
  | lower
  | printable
  | punctuation
  | space
  | upper
  | hexDigit
  deriving DecidableEq, Repr

/-- A built-in function. -/
inductive Builtin where
  | putChar
  | getChar
  | print
  | stringCopy
  | stringLength
  | setScreen
  | updateScreen
  | delay
  | writeBlock
  | refresh
  | textOut
  | block
  | rectangle
  | exit
  | clearScreen
  | absolute
  | random
  | seedRandom
  | locate
  | inKey
  | point
  | getPoint
  | line
  | box
  | circle
  | ellipse
  | beep
  | testChar (characterClass : CharacterClass)
  | stringAppend
  | stringFindChar
  | stringCompare
  | stringFind
  | toLower
  | toUpper
  | memorySet
  | memoryCopy
  | fileOpen
  | fileClose
  | fileRead
  | fileWrite
  | fileSeek
  | fileTell
  | fileAtEnd
  | fileRewind
  | fileGetByte
  | filePutByte
  | printToString
  | makeDirectory
  | deleteFile
  | getTicks
  | checkKey
  | memoryMove
  | checksum
  | encrypt
  | changeDirectory
  | chooseFile
  | getTime
  | setTime
  | getWord
  | transformBuffer
  | releaseKey
  | getBlock
  | sine
  | cosine
  | fillArea
  deriving DecidableEq, Repr

/-- The built-in functions in the order of their bytes. -/
def Builtin.table : Array Builtin :=
  #[
    .putChar, .getChar, .print, .stringCopy, .stringLength, .setScreen, .updateScreen, .delay,
    .writeBlock, .refresh, .textOut, .block, .rectangle, .exit, .clearScreen, .absolute,
    .random, .seedRandom, .locate, .inKey, .point, .getPoint, .line, .box, .circle, .ellipse,
    .beep,
    .testChar .alphanumeric, .testChar .alphabetic, .testChar .control, .testChar .digit,
    .testChar .graphic, .testChar .lower, .testChar .printable, .testChar .punctuation,
    .testChar .space, .testChar .upper, .testChar .hexDigit,
    .stringAppend, .stringFindChar, .stringCompare, .stringFind, .toLower, .toUpper,
    .memorySet, .memoryCopy,
    .fileOpen, .fileClose, .fileRead, .fileWrite, .fileSeek, .fileTell, .fileAtEnd,
    .fileRewind, .fileGetByte, .filePutByte, .printToString, .makeDirectory, .deleteFile,
    .getTicks, .checkKey, .memoryMove, .checksum, .encrypt, .changeDirectory, .chooseFile,
    .getTime, .setTime, .getWord, .transformBuffer, .releaseKey, .getBlock, .sine, .cosine,
    .fillArea
  ]

/-- What an opcode byte stands for. -/
inductive Opcode where
  | general (instruction : Instruction)
  | builtin (function : Builtin)
  deriving DecidableEq, Repr

/-- The meaning of an opcode byte, unless it is illegal. -/
def Opcode.ofByte? (byte : UInt8) : Option Opcode :=
  if byte < 0x80 then
    Instruction.table[byte.toNat]?.map .general
  else
    Builtin.table[byte.toNat - 0x80]?.map .builtin

end Handheld
