import Handheld.Memory.Access
import Handheld.Memory.Checksum
import Handheld.Machine.State
import Handheld.Text.Format

namespace Handheld

/-!
# Functions on strings and memory

Strings end with NUL. Every function checks all it reads and writes before it
changes anything. Addresses and lengths are the low sixteen bits of a word.
-/

namespace Machine

/-- Take the number of values to take from the stack. -/
def popCount : Action Nat := do
  let count ← pop
  if count < 0 then
    throw .stackUnderflow
  return count.bits

/-- The text of a format and `count` values in all. -/
def popFormatted (count : Nat) : Action (List UInt8) := do
  let values ← take count
  check (Format.ofValues (← get).ram values.toList)

/-- Format and add to the text. -/
def print : Action Unit := do
  let text ← popFormatted (← popCount)
  onDevice fun device => (device.addBytes text).renderText 0

/-- Format into memory. -/
def printToString : Action Unit := do
  let text ← popFormatted ((← popCount) - 1)
  let dest ← popAddress
  storeString dest text

/-- Copy a string. -/
def stringCopy : Action Unit := do
  let source ← popAddress
  let dest ← popAddress
  storeString dest (← stringAt source)

/-- The length of a string. -/
def stringLength : Action Unit := do
  let text ← stringAt (← popAddress)
  push (Word.ofBits text.length)

/-- Copy a string behind another. -/
def stringAppend : Action Unit := do
  let source ← popAddress
  let dest ← popAddress
  let front ← stringAt dest
  storeString (dest + front.length) (← stringAt source)

/-- The address of a byte in a string, its NUL included, or zero. -/
def stringFindChar : Action Unit := do
  let wanted := (← pop).lowByte
  let address ← popAddress
  match ← inRam (·.find? wanted address (Ram.capacity - address)) with
  | none => throw (.unterminatedString address)
  | some found =>
      if (← inRam (·.byte found)) = wanted then
        push (Word.ofBits found)
      else
        push 0

/-- The difference of the first bytes that differ, where a string ends with NUL. -/
def compareStrings : List UInt8 → List UInt8 → Word
  | [], [] => 0
  | [], right :: _ => 0 - Word.ofByte right
  | left :: _, [] => Word.ofByte left
  | left :: lefts, right :: rights =>
      if left = right then
        compareStrings lefts rights
      else
        Word.ofByte left - Word.ofByte right

/-- Compare two strings. -/
def stringCompare : Action Unit := do
  let right ← popAddress
  let left ← popAddress
  let leftText ← stringAt left
  let rightText ← stringAt right
  push (compareStrings leftText rightText)

/-- How far into a text another text first occurs. -/
def occurrence?
    (wanted : List UInt8)
    (skipped : Nat) :
    List UInt8 → Option Nat
  | [] => if wanted = [] then some skipped else none
  | byte :: rest =>
      if wanted.isPrefixOf (byte :: rest) then
        some skipped
      else
        occurrence? wanted (skipped + 1) rest

/-- The address at which a string occurs in another, or zero. -/
def stringFind : Action Unit := do
  let wantedAddress ← popAddress
  let address ← popAddress
  let text ← stringAt address
  let wanted ← stringAt wantedAddress
  match occurrence? wanted 0 text with
  | some skipped => push (Word.ofBits (address + skipped))
  | none => push 0

/-- Set a range of memory to a byte. -/
def memorySet : Action Unit := do
  let (address, value, count) ← takeThree
  checkRange address.address count.address
  onRam (·.fill address.address count.address value.lowByte)

/-- Take the arguments of a copy and check both ranges. -/
def takeCopy : Action (Nat × Nat × Nat) := do
  let (dest, source, count) ← takeThree
  checkRange dest.address count.address
  checkRange source.address count.address
  return (dest.address, source.address, count.address)

/-- Copy a range, lowest address first. -/
def memoryCopy : Action Unit := do
  let (dest, source, count) ← takeCopy
  onRam (·.copyForward dest source count)

/-- Copy a range that may overlap its destination. -/
def memoryMove : Action Unit := do
  let (dest, source, count) ← takeCopy
  onRam (·.copy dest source count)

/-- The checksum of a range. -/
def checksum : Action Unit := do
  let count ← popAddress
  let address ← popAddress
  checkRange address count
  push (Word.ofBits (← inRam (·.checksum address count)).toNat)

/-- Combine a range with a password. -/
def encrypt : Action Unit := do
  let (address, count, passwordAddress) ← takeThree
  let password ← stringAt passwordAddress.address
  checkRange address.address count.address
  onRam (·.encrypt address.address count.address password)

/-- Store the date and time in eight bytes. -/
def storeTime
    (ram : Ram)
    (address : Nat)
    (time : Calendar) :
    Ram :=
  let day := [time.month - 1, time.day, time.hour, time.minute, time.second, time.weekday]
  (ram.setWord 2 address (Int32.ofInt time.year)).write (address + 2) (day.map UInt8.ofNat)

/-- Store what the clock shows. -/
def getTime : Action Unit := do
  let address ← popAddress
  let time := (← get).clock.calendar
  onRam (storeTime · address time)

end Machine

end Handheld
