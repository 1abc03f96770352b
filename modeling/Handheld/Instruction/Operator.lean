import Handheld.Fault

namespace Handheld

/-!
# Operators

The binary operators of the machine. An instruction takes the right operand
either from the stack or from the code. The two forms agree except in shifts by
a negative count: from the stack such a count shifts by nothing, in the code it
counts modulo 32 like any other.
-/

/-- A binary operator. -/
inductive Operator where
  | add
  | subtract
  | bitAnd
  | bitOr
  | bitXor
  | logicalAnd
  | logicalOr
  | multiply
  | divide
  | remainder
  | shiftLeft
  | shiftRight
  | equal
  | notEqual
  | lessEqual
  | greaterEqual
  | greater
  | less
  deriving DecidableEq, Repr

/-- The operators that also take their right operand from the code. -/
inductive ImmediateOperator where
  | add
  | subtract
  | multiply
  | divide
  | remainder
  | shiftLeft
  | shiftRight
  | equal
  | notEqual
  | greater
  | less
  | greaterEqual
  | lessEqual
  deriving DecidableEq, Repr

/-- Shift to the left by a count modulo 32. -/
def Word.shiftedLeft
    (word : Word)
    (count : Nat) :
    Word :=
  (word.toUInt32 <<< UInt32.ofNat (count % 32)).toInt32

/-- Shift to the right by a count modulo 32, filling with zeros. -/
def Word.shiftedRight
    (word : Word)
    (count : Nat) :
    Word :=
  (word.toUInt32 >>> UInt32.ofNat (count % 32)).toInt32

/-- The quotient rounded toward zero; the least word divided by minus one is itself. -/
def Word.quotient
    (left right : Word) :
    Except Fault Word :=
  if right = 0 then
    .error .divisionByZero
  else
    .ok (left / right)

/-- The remainder with the sign of the left operand. -/
def Word.remainder
    (left right : Word) :
    Except Fault Word :=
  if right = 0 then
    .error .divisionByZero
  else
    .ok (left % right)

/-- Apply an operator to two operands from the stack. -/
def Operator.apply
    (operator : Operator)
    (left right : Word) :
    Except Fault Word :=
  match operator with
  | .add => .ok (left + right)
  | .subtract => .ok (left - right)
  | .bitAnd => .ok (left &&& right)
  | .bitOr => .ok (left ||| right)
  | .bitXor => .ok (left ^^^ right)
  | .logicalAnd => .ok (Word.ofBool (left != 0 && right != 0))
  | .logicalOr => .ok (Word.ofBool (left != 0 || right != 0))
  | .multiply => .ok (left * right)
  | .divide => left.quotient right
  | .remainder => left.remainder right
  | .shiftLeft => .ok (left.shiftedLeft right.toInt.toNat)
  | .shiftRight => .ok (left.shiftedRight right.toInt.toNat)
  | .equal => .ok (Word.ofBool (left == right))
  | .notEqual => .ok (Word.ofBool (left != right))
  | .lessEqual => .ok (Word.ofBool (left ≤ right))
  | .greaterEqual => .ok (Word.ofBool (left ≥ right))
  | .greater => .ok (Word.ofBool (left > right))
  | .less => .ok (Word.ofBool (left < right))

/-- Apply an operator to an operand from the stack and one from the code. -/
def ImmediateOperator.apply
    (operator : ImmediateOperator)
    (left right : Word) :
    Except Fault Word :=
  match operator with
  | .add => .ok (left + right)
  | .subtract => .ok (left - right)
  | .multiply => .ok (left * right)
  | .divide => left.quotient right
  | .remainder => left.remainder right
  | .shiftLeft => .ok (left.shiftedLeft right.bits)
  | .shiftRight => .ok (left.shiftedRight right.bits)
  | .equal => .ok (Word.ofBool (left == right))
  | .notEqual => .ok (Word.ofBool (left != right))
  | .greater => .ok (Word.ofBool (left > right))
  | .less => .ok (Word.ofBool (left < right))
  | .greaterEqual => .ok (Word.ofBool (left ≥ right))
  | .lessEqual => .ok (Word.ofBool (left ≤ right))

end Handheld
