import Handheld.Memory.Ram

namespace Handheld

/-!
# Formatted text

A format is text in which `%d`, `%c` and `%s` take one argument each: a number in
decimal, a byte, or the address of a string. A percent sign in front of any
other byte stands for that byte, and one at the very end for nothing. Missing
arguments are zero, further ones are not looked at.
-/

namespace Format

/-- The text of one directive, and whether it takes an argument. -/
def directive
    (ram : Ram)
    (letter : UInt8)
    (argument : Word) :
    Except Fault (List UInt8 × Bool) :=
  match letter with
  -- d
  | 0x64 => .ok (argument.decimal.toUTF8.toList, true)
  -- c
  | 0x63 => .ok ([argument.lowByte], true)
  -- s
  | 0x73 =>
      match ram.string? argument.address with
      | some text => .ok (text, true)
      | none => .error (.unterminatedString argument.address)
  | _ => .ok ([letter], false)

/-- Expand a format, behind the text so far. -/
def expandOnto
    (ram : Ram)
    (done : Array UInt8) :
    List UInt8 →
    List Word →
    Except Fault (Array UInt8)
  | [], _ => .ok done
  | [byte], _ => .ok (if byte = 0x25 then done else done.push byte)
  | byte :: letter :: rest, arguments =>
      if byte = 0x25 then
        match directive ram letter (arguments.headD 0) with
        | .ok (text, takes) =>
            expandOnto ram (done ++ text) rest (if takes then arguments.tail else arguments)
        | .error fault => .error fault
      else
        expandOnto ram (done.push byte) (letter :: rest) arguments

/-- The text of a format with its arguments. -/
def expand
    (ram : Ram)
    (format : List UInt8)
    (arguments : List Word) :
    Except Fault (List UInt8) :=
  (expandOnto ram #[] format arguments).map Array.toList

/-- The text of values of which the first is the address of a format. -/
def ofValues
    (ram : Ram) :
    List Word → Except Fault (List UInt8)
  | [] => .error .stackUnderflow
  | format :: arguments =>
      match ram.string? format.address with
      | some text => expand ram text arguments
      | none => .error (.unterminatedString format.address)

end Format

end Handheld
