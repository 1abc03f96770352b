namespace Handheld

/-!
# Rows of bits

A list of bytes read as one row of bits, the most significant bit of each byte
leftmost. Shifting moves the whole row by fewer than eight places; bits that
leave it are lost and zeros come in.
-/

namespace Bits

/-- The leftmost `count` bits of a byte, for a count below eight. -/
def leftmost (count : Nat) : UInt8 :=
  ~~~(0xff >>> UInt8.ofNat count)

/-- The rightmost `count` bits of a byte, for a count below eight. -/
def rightmost (count : Nat) : UInt8 :=
  ~~~(0xff <<< UInt8.ofNat count)

/-- The bits that a row hands over to a byte before it when it moves left. -/
def handedLeft
    (count : Nat) :
    List UInt8 → UInt8
  | [] => 0
  | byte :: _ => (byte &&& leftmost count) >>> UInt8.ofNat (8 - count)

/-- Move a row to the left by one to seven places. -/
def shiftLeft
    (count : Nat) :
    List UInt8 → List UInt8
  | [] => []
  | byte :: rest =>
      (byte <<< UInt8.ofNat count ||| handedLeft count rest) :: shiftLeft count rest

/-- Move a row to the right by one to seven places, taking in the given bits. -/
def shiftRight
    (count : Nat)
    (incoming : UInt8) :
    List UInt8 → List UInt8
  | [] => []
  | byte :: rest =>
      let outgoing := (byte &&& rightmost count) <<< UInt8.ofNat (8 - count)
      (byte >>> UInt8.ofNat count ||| incoming) :: shiftRight count outgoing rest

/-- Move a row to the left by a positive and to the right by a negative count. -/
def shift
    (count : Int)
    (row : List UInt8) :
    List UInt8 :=
  if 0 < count then
    shiftLeft count.toNat row
  else if count < 0 then
    shiftRight (-count).toNat 0 row
  else
    row

/-- Exchange neighbouring groups of bits, the right one of each two given by a mask. -/
def exchange
    (mask count byte : UInt8) :
    UInt8 :=
  ((byte >>> count) &&& mask) ||| ((byte &&& mask) <<< count)

/-- A byte with its bits in the opposite order. -/
def reverseByte (byte : UInt8) : UInt8 :=
  exchange 0x55 1 (exchange 0x33 2 (exchange 0x0f 4 byte))

end Bits

end Handheld
