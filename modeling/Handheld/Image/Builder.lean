import Handheld.Image.Header
import Handheld.Instruction.Opcode

namespace Handheld

/-!
# Building images

A program is written as a list of directives. Each appends bytes to the image,
places a label at the current position, or leaves three bytes for the address of
a label. The addresses are filled in at the end, so a label may be placed before
or after the jumps that name it; placed twice, its last place counts.
-/

/-- The instructions that name a label. -/
inductive LabelUse where
  | jump
  | jumpIfZero
  | jumpIfNonzero
  | call
  deriving DecidableEq, Repr

/-- The instruction in front of a label's address. -/
def LabelUse.instruction : LabelUse → Instruction
  | .jump => .jump
  | .jumpIfZero => .jumpIfZero
  | .jumpIfNonzero => .jumpIfNonzero
  | .call => .call

/-- One line of a program. -/
inductive Directive where
  /-- Bytes as they are. -/
  | bytes (content : List UInt8)
  /-- The low bytes of a number, least significant first. -/
  | number (size value : Nat)
  /-- An opcode byte and the low bytes of its operand. -/
  | opcode (byte : UInt8) (size operand : Nat)
  /-- Push a byte. -/
  | pushByte (value : UInt8)
  /-- Push a signed 16 bit value, given by its bits. -/
  | pushHalf (value : Nat)
  /-- Push a word. -/
  | pushFull (value : Word)
  /-- Push a word in the shortest form that holds it. -/
  | push (value : Word)
  /-- Push the address of a string, which must not contain NUL. -/
  | literal (text : List UInt8)
  /-- Combine the string literals from here on with a factor. -/
  | xorFactor (factor : UInt8)
  /-- Copy bytes into memory, at most 65535 of them. -/
  | data (address : Nat) (content : List UInt8)
  /-- Set the frame base. -/
  | frameBase (base : Nat)
  /-- Reserve a frame and take arguments from the stack. -/
  | enter (size : Nat) (arguments : UInt8)
  /-- Return from a call. -/
  | leave
  /-- End the program. -/
  | halt
  /-- Place a label at the current position. -/
  | label (name : String)
  /-- Jump to or call a label. -/
  | toLabel (kind : LabelUse) (name : String)
  deriving DecidableEq, Repr

/-- The low `size` bytes of a number, least significant first. -/
def littleEndian
    (size value : Nat) :
    List UInt8 :=
  match size with
  | 0 => []
  | rest + 1 => UInt8.ofNat value :: littleEndian rest (value / 256)

/-- Push a word in the shortest form that holds it. -/
def shortestPush (value : Word) : List UInt8 :=
  let number := value.toInt
  if 0 ≤ number ∧ number ≤ 255 then
    (Instruction.pushImmediate .byte).byte :: littleEndian 1 value.bits
  else if -32768 ≤ number ∧ number ≤ 32767 then
    (Instruction.pushImmediate .half).byte :: littleEndian 2 value.bits
  else
    (Instruction.pushImmediate .full).byte :: littleEndian 4 value.bits

/-- An image in the making. -/
structure Builder where
  /-- The bytes so far. -/
  code : Array UInt8 := Image.header
  /-- The labels placed so far, the latest first. -/
  labels : List (String × Nat) := []
  /-- The addresses to fill in and the labels they stand for, the latest first. -/
  pending : List (Nat × String) := []
  /-- What string literals are combined with. -/
  factor : UInt8 := 0

namespace Builder

/-- Address of the next byte. -/
def position (builder : Builder) : Nat :=
  builder.code.size

/-- Append bytes. -/
def append
    (builder : Builder)
    (bytes : List UInt8) :
    Builder :=
  { builder with code := builder.code ++ bytes }

/-- The bytes of a directive, under the factor in force. -/
def encode
    (factor : UInt8) :
    Directive → List UInt8
  | .bytes content =>
      content
  | .number size value =>
      littleEndian size value
  | .opcode byte size operand =>
      byte :: littleEndian size operand
  | .pushByte value =>
      [(Instruction.pushImmediate .byte).byte, value]
  | .pushHalf value =>
      (Instruction.pushImmediate .half).byte :: littleEndian 2 value
  | .pushFull value =>
      (Instruction.pushImmediate .full).byte :: littleEndian 4 value.bits
  | .push value =>
      shortestPush value
  | .literal text =>
      Instruction.pushLiteral.byte :: (text ++ [0]).map (· ^^^ factor)
  | .xorFactor newFactor =>
      [Instruction.setXorFactor.byte, newFactor]
  | .data address content =>
      let kept := content.take 0xffff
      Instruction.initData.byte ::
        littleEndian 2 address ++ littleEndian 2 kept.length ++ kept
  | .frameBase base =>
      Instruction.setFrameBase.byte :: littleEndian 2 base
  | .enter size arguments =>
      Instruction.enter.byte :: littleEndian 2 size ++ [arguments]
  | .leave =>
      [Instruction.leave.byte]
  | .halt =>
      [Instruction.halt.byte]
  | .label _ =>
      []
  | .toLabel kind _ =>
      kind.instruction.byte :: littleEndian 3 0

/-- Carry out one directive. -/
def add
    (builder : Builder)
    (directive : Directive) :
    Builder :=
  let next := builder.append (encode builder.factor directive)
  match directive with
  | .xorFactor factor =>
      { next with factor := factor }
  | .label name =>
      { next with labels := (name, builder.position) :: builder.labels }
  | .toLabel _ name =>
      { next with pending := (builder.position + 1, name) :: builder.pending }
  | _ =>
      next

/-- Store the three bytes of an address in the code. -/
def patch
    (code : Array UInt8)
    (offset target : Nat) :
    Array UInt8 :=
  ((code.setIfInBounds offset (UInt8.ofNat target)).setIfInBounds
      (offset + 1) (UInt8.ofNat (target / 0x100))).setIfInBounds
    (offset + 2) (UInt8.ofNat (target / 0x10000))

/-- Fill in addresses in the order in which the jumps were written. -/
def resolve
    (labels : List (String × Nat)) :
    Array UInt8 →
    List (Nat × String) →
    Except ImageRefusal (Array UInt8)
  | code, [] => .ok code
  | code, (offset, name) :: rest =>
      match labels.lookup name with
      | some target => resolve labels (patch code offset target) rest
      | none => .error (.undefinedLabel name)

/-- The finished image, unless a label is missing. -/
def build (builder : Builder) : Except ImageRefusal (Array UInt8) :=
  resolve builder.labels builder.code builder.pending.reverse

/-- The image of a program. -/
def assemble (program : List Directive) : Except ImageRefusal (Array UInt8) :=
  (program.foldl add {}).build

end Builder

end Handheld
