import Handheld.Proofs.Machine.Step

namespace Handheld

/-!
# The checksum as a remainder

The checksum of some bytes is what is left of their bits, the most significant
first, after they have gone through a register of sixteen bits one by one. A bit
that falls out of the register takes the polynomial off the others. Both this
register and the step that takes it through a whole nibble by a table only
combine bits by exclusive or, so a table of the remainders of single nibbles is
enough, and the bits that the accumulator keeps above the sixteenth never come
back.
-/

namespace Remainder

/-- The polynomial, without its leading term. -/
def polynomial : BitVec 16 :=
  0x1021

/--
The register after one more bit.

It moves up by one place, and the polynomial is taken off when the bit that falls
out is not the one that comes.
-/
def shift
    (register : BitVec 16)
    (bit : Bool) :
    BitVec 16 :=
  if register.msb ^^ bit then
    register <<< 1 ^^^ polynomial
  else
    register <<< 1

/-- The bits of a number, the most significant first. -/
def bits (number : BitVec width) : List Bool :=
  (List.range width).map number.getMsbD

/-- The bits of some bytes, the most significant of each byte first. -/
def message (bytes : List UInt8) : List Bool :=
  bytes.flatMap fun byte => bits byte.toBitVec

/-- The remainder of some bytes, bit by bit. -/
def ofBytes (bytes : List UInt8) : BitVec 16 :=
  (message bytes).foldl shift 0

section Linear

/-- What is taken off the register when a bit falls out of it. -/
def feedback (out : Bool) : BitVec 16 :=
  if out then polynomial else 0#16

/-- What is fed back is linear in the bit that falls out. -/
theorem feedback_xor (left right : Bool) :
    feedback (left ^^ right) = feedback left ^^^ feedback right := by
  cases left <;> cases right <;> decide

/-- A shift takes in zero, and what the bit that falls out feeds back. -/
theorem shift_eq
    (register : BitVec 16)
    (bit : Bool) :
    shift register bit = register <<< 1 ^^^ feedback (register.msb ^^ bit) := by
  unfold shift feedback
  split
  case isTrue => rfl
  case isFalse => rw [BitVec.xor_zero]

/-- Taking in a bit combines registers and bits by exclusive or. -/
theorem shift_xor
    (left right : BitVec 16)
    (leftBit rightBit : Bool) :
    shift (left ^^^ right) (leftBit ^^ rightBit) = shift left leftBit ^^^ shift right rightBit := by
  have out :
      ((left ^^^ right).msb ^^ (leftBit ^^ rightBit)) =
        ((left.msb ^^ leftBit) ^^ (right.msb ^^ rightBit)) := by
    rw [BitVec.msb_xor, Bool.xor_assoc, Bool.xor_left_comm right.msb, ← Bool.xor_assoc]
  rw [shift_eq, shift_eq, shift_eq, out, feedback_xor, BitVec.shiftLeft_xor_distrib]
  ac_rfl

/-- Shifting is linear: registers and messages may be combined before or after. -/
theorem foldl_shift_xor
    {leftBits rightBits : List Bool}
    (same : leftBits.length = rightBits.length)
    (left right : BitVec 16) :
    (List.zipWith (· ^^ ·) leftBits rightBits).foldl shift (left ^^^ right) =
      leftBits.foldl shift left ^^^ rightBits.foldl shift right := by
  induction leftBits generalizing rightBits left right with
  | nil =>
      cases rightBits with
      | nil => rfl
      | cons => cases same
  | cons leftBit leftRest inductionHypothesis =>
      cases rightBits with
      | nil => cases same
      | cons rightBit rightRest =>
          rw [List.zipWith_cons_cons, List.foldl_cons, shift_xor,
            inductionHypothesis (Nat.succ.inj same)]
          rfl

/-- As long as only clear bits fall out, the register just moves up. -/
theorem foldl_shift_replicate
    {count : Nat}
    {register : BitVec 16}
    (clear : ∀ place < count, register.getMsbD place = false) :
    (List.replicate count false).foldl shift register = register <<< count := by
  induction count generalizing register with
  | zero => exact (BitVec.shiftLeft_zero register).symm
  | succ fewer inductionHypothesis =>
      have falls : register.msb = false := clear 0 (Nat.zero_lt_succ fewer)
      have moves : shift register false = register <<< 1 := by
        rw [shift_eq, falls]
        exact BitVec.xor_zero
      have clearLater : ∀ place < fewer, (register <<< 1).getMsbD place = false := by
        intro place near
        rw [BitVec.getMsbD_shiftLeft]
        exact clear (place + 1) (by omega)
      rw [List.replicate_succ, List.foldl_cons, moves, inductionHypothesis clearLater,
        ← BitVec.shiftLeft_add, Nat.add_comm]

end Linear

section Nibbles

/-- A number has as many bits as its width. -/
theorem length_bits (number : BitVec width) : (bits number).length = width := by
  rw [bits, List.length_map, List.length_range]

/-- Clear bits change nothing. -/
theorem zipWith_replicate_false (list : List Bool) :
    List.zipWith (· ^^ ·) list (List.replicate list.length false) = list := by
  induction list with
  | nil => rfl
  | cons first rest inductionHypothesis =>
      rw [List.length_cons, List.replicate_succ, List.zipWith_cons_cons, inductionHypothesis,
        Bool.xor_false]

/-- What the table holds for a nibble. -/
def entry (nibble : BitVec 4) : BitVec 16 :=
  (Checksum.table[nibble.toNat]).toBitVec.setWidth 16

/-- The table holds what the register becomes after a nibble that meets its upper four bits. -/
theorem foldl_shift_high :
    ∀ high nibble : BitVec 4,
      (bits nibble).foldl shift (high.setWidth 16 <<< 12) = entry (high ^^^ nibble) := by
  decide +kernel

/-- Four bits take the register up by four places and one entry of the table off it. -/
theorem foldl_shift_bits
    (register : BitVec 16)
    (nibble : BitVec 4) :
    (bits nibble).foldl shift register =
      register <<< 4 ^^^ entry (register.extractLsb' 12 4 ^^^ nibble) := by
  have parts :
      register =
        (register.extractLsb' 12 4).setWidth 16 <<< 12 ^^^ (register.setWidth 12).setWidth 16 := by
    apply BitVec.eq_of_getLsbD_eq
    intro place inside
    by_cases low : place < 12
    · simp [inside, low]
    · have upper : place - 12 < 4 := by omega
      have same : 12 + (place - 12) = place := by omega
      simp [inside, low, upper, same]
  have clear :
      ∀ place < 4, ((register.setWidth 12).setWidth 16).getMsbD place = false := by
    intro place near
    simp [BitVec.getMsbD_setWidth, Nat.not_le_of_lt near]
  have moved : ((register.setWidth 12).setWidth 16) <<< 4 = register <<< 4 := by
    apply BitVec.eq_of_getLsbD_eq
    intro place inside
    have below : place - 4 < 12 := by omega
    have belowLonger : place - 4 < 16 := by omega
    simp [below, belowLonger]
  have zeros : List.zipWith (· ^^ ·) (bits nibble) (List.replicate 4 false) = bits nibble := by
    have unchanged := zipWith_replicate_false (bits nibble)
    rwa [length_bits] at unchanged
  have lengths : (bits nibble).length = (List.replicate 4 false).length := length_bits nibble
  have split := foldl_shift_xor lengths
    ((register.extractLsb' 12 4).setWidth 16 <<< 12) ((register.setWidth 12).setWidth 16)
  rw [← parts, zeros, foldl_shift_high, foldl_shift_replicate clear, moved] at split
  rw [split, BitVec.xor_comm]

/-- The accumulator as the register sees it. -/
def register (accumulator : UInt32) : BitVec 16 :=
  accumulator.toBitVec.setWidth 16

/-- The nibble that is about to fall out of the accumulator. -/
theorem setWidth_upper (accumulator : UInt32) :
    (accumulator >>> 12 &&& 0xf).toBitVec.setWidth 4 =
      (register accumulator).extractLsb' 12 4 := by
  rw [UInt32.toBitVec_and, BitVec.setWidth_and]
  change _ &&& BitVec.allOnes 4 = _
  rw [BitVec.and_allOnes]
  apply BitVec.eq_of_getLsbD_eq
  intro place inside
  have near : 12 + place < 16 := by omega
  simp [register, inside, near]

/-- Looking a nibble up takes its four bits into the register. -/
theorem register_nibble
    (accumulator : UInt32)
    (nibble : BitVec 4) :
    register (Checksum.nibble accumulator (.ofBitVec (nibble.setWidth 32))) =
      (bits nibble).foldl shift (register accumulator) := by
  let looked : UInt32 := (accumulator >>> 12 &&& 0xf) ^^^ .ofBitVec (nibble.setWidth 32)
  have index : looked.toNat % 16 = ((register accumulator).extractLsb' 12 4 ^^^ nibble).toNat := by
    have narrow : looked.toBitVec.setWidth 4 =
        (register accumulator).extractLsb' 12 4 ^^^ nibble := by
      rw [UInt32.toBitVec_xor, BitVec.setWidth_xor, setWidth_upper]
      simp
    rw [← narrow, BitVec.toNat_setWidth, UInt32.toNat_toBitVec]
  have found :
      (Checksum.table[looked.toNat % 16]).toBitVec.setWidth 16 =
        entry ((register accumulator).extractLsb' 12 4 ^^^ nibble) := by
    unfold entry
    simp only [index]
  rw [foldl_shift_bits, ← found]
  change
    (accumulator.toBitVec <<< 4 ^^^ (Checksum.table[looked.toNat % 16]).toBitVec).setWidth 16 = _
  rw [BitVec.setWidth_xor, BitVec.setWidth_shiftLeft_of_le (by decide)]
  rfl

/-- The bits of a byte are those of its two nibbles. -/
theorem bits_byte :
    ∀ byte : BitVec 8, bits byte = bits (byte.extractLsb' 4 4) ++ bits (byte.setWidth 4) := by
  decide +kernel

/-- The upper half of a byte, as a word. -/
theorem toUInt32_high :
    ∀ byte : BitVec 8,
      (UInt8.ofBitVec byte >>> 4).toUInt32 = .ofBitVec ((byte.extractLsb' 4 4).setWidth 32) := by
  decide +kernel

/-- The lower half of a byte, as a word. -/
theorem toUInt32_low :
    ∀ byte : BitVec 8,
      (UInt8.ofBitVec byte &&& 0xf).toUInt32 = .ofBitVec ((byte.setWidth 4).setWidth 32) := by
  decide +kernel

/-- Two steps of the table, one for each half of a byte, shift its eight bits into the register. -/
theorem register_byte
    (accumulator : UInt32)
    (byte : UInt8) :
    register (Checksum.byte accumulator byte) =
      (bits byte.toBitVec).foldl shift (register accumulator) := by
  unfold Checksum.byte
  rw [toUInt32_high byte.toBitVec, toUInt32_low byte.toBitVec, register_nibble, register_nibble,
    bits_byte, List.foldl_append]

/-- Taking bytes into the accumulator takes their bits into the register. -/
theorem register_foldl
    (accumulator : UInt32)
    (bytes : List UInt8) :
    register (bytes.foldl Checksum.byte accumulator) =
      (message bytes).foldl shift (register accumulator) := by
  induction bytes generalizing accumulator with
  | nil => rfl
  | cons byte rest inductionHypothesis =>
      rw [List.foldl_cons, inductionHypothesis, register_byte]
      change _ = (bits byte.toBitVec ++ message rest).foldl shift _
      rw [List.foldl_append]

/-- The register is the low half of the accumulator. -/
theorem toNat_and_eq_register (accumulator : UInt32) :
    (accumulator &&& 0xffff).toNat = (register accumulator).toNat := by
  rw [UInt32.toNat_and, register, BitVec.toNat_setWidth, UInt32.toNat_toBitVec]
  exact Nat.and_two_pow_sub_one_eq_mod _ 16

end Nibbles

section Bytes

/-- The checksum by table is the remainder by shifts. -/
theorem toNat_checksum (bytes : List UInt8) :
    (Checksum.ofBytes bytes).toNat = (ofBytes bytes).toNat := by
  rw [Checksum.ofBytes, toNat_and_eq_register, register_foldl]
  rfl

/-- Only the lower sixteen bits of the accumulator go on into the result. -/
theorem checksum_congr
    {accumulator other : UInt32}
    (same : accumulator &&& 0xffff = other &&& 0xffff)
    (bytes : List UInt8) :
    bytes.foldl Checksum.byte accumulator &&& 0xffff =
      bytes.foldl Checksum.byte other &&& 0xffff := by
  have sameRegister : register accumulator = register other := by
    apply BitVec.eq_of_toNat_eq
    rw [← toNat_and_eq_register, ← toNat_and_eq_register, same]
  apply UInt32.toNat_inj.mp
  rw [toNat_and_eq_register, toNat_and_eq_register, register_foldl, register_foldl, sameRegister]

/-- Numbers are combined bit by bit. -/
theorem bits_xor (left right : BitVec width) :
    bits (left ^^^ right) = List.zipWith (· ^^ ·) (bits left) (bits right) := by
  unfold bits
  rw [List.zipWith_map, List.zipWith_self]
  exact List.map_congr_left fun _ _ => BitVec.getMsbD_xor

/-- A message has eight bits for each byte. -/
theorem length_message (bytes : List UInt8) : (message bytes).length = 8 * bytes.length := by
  induction bytes with
  | nil => rfl
  | cons byte rest inductionHypothesis =>
      change (bits byte.toBitVec ++ message rest).length = _
      rw [List.length_append, length_bits, inductionHypothesis, List.length_cons, Nat.mul_succ,
        Nat.add_comm]

/-- The message of combined bytes is the combined message. -/
theorem message_zipWith
    {left right : List UInt8}
    (same : left.length = right.length) :
    message (List.zipWith (· ^^^ ·) left right) =
      List.zipWith (· ^^ ·) (message left) (message right) := by
  induction left generalizing right with
  | nil => rfl
  | cons first rest inductionHypothesis =>
      cases right with
      | nil => cases same
      | cons other others =>
          change bits (first.toBitVec ^^^ other.toBitVec) ++ message (List.zipWith _ rest others) =
            List.zipWith _ (bits first.toBitVec ++ message rest)
              (bits other.toBitVec ++ message others)
          have lengths : (bits first.toBitVec).length = (bits other.toBitVec).length := by
            rw [length_bits, length_bits]
          rw [inductionHypothesis (Nat.succ.inj same), List.zipWith_append lengths, bits_xor]

/-- The remainder of combined bytes is the combined remainder. -/
theorem ofBytes_zipWith
    {left right : List UInt8}
    (same : left.length = right.length) :
    ofBytes (List.zipWith (· ^^^ ·) left right) = ofBytes left ^^^ ofBytes right := by
  have lengths : (message left).length = (message right).length := by
    rw [length_message, length_message, same]
  have linear := foldl_shift_xor lengths 0 0
  rwa [← message_zipWith same] at linear

/-- The checksum of combined bytes is the combined checksum. -/
theorem checksum_zipWith
    {left right : List UInt8}
    (same : left.length = right.length) :
    Checksum.ofBytes (List.zipWith (· ^^^ ·) left right) =
      Checksum.ofBytes left ^^^ Checksum.ofBytes right := by
  apply UInt32.toNat_inj.mp
  rw [toNat_checksum, ofBytes_zipWith same, UInt32.toNat_xor, toNat_checksum, toNat_checksum,
    BitVec.toNat_xor]

end Bytes

end Remainder

namespace Machine

/-- The checksum that a program asks for is the remainder of the bytes that it names. -/
theorem step_checksum
    {machine : Machine}
    {values : List Word}
    {place count : Word}
    (running : machine.finished = false)
    (current : machine.opcode? = some (.builtin .checksum))
    (shown : machine.stack.toList = values ++ [place, count])
    (fits : place.address + count.address ≤ Ram.capacity) :
    ∃ after,
      machine.step = (.ok false, after) ∧
        after.stack.toList =
          values ++ [Word.ofBits
            (Remainder.ofBytes (machine.ram.bytes place.address count.address)).toNat] := by
  have shownLater : (machine.skip 1).stack.toList = values ++ [place, count] := shown
  obtain ⟨middle, stack, popped, poppedNext, kept⟩ := DataStack.exists_popTwo shownLater
  have room := DataStack.length_lt_of_pop poppedNext
  obtain ⟨final, pushed, values⟩ := DataStack.exists_push room
    (Word.ofBits (machine.ram.checksum place.address count.address).toNat)
  have ends :
      (machine.skip 1).outcome (call .checksum) =
        (.ok (), { machine.skip 1 with stack := final }) := by
    change (machine.skip 1).outcome (popAddress >>= fun count => popAddress >>= fun address =>
      checkRange address count >>= fun _ => inRam (·.checksum address count) >>= fun sum =>
        push (Word.ofBits sum.toNat)) = _
    rw [outcome_popAddresses popped poppedNext, outcome_bind_of_ok (outcome_checkRange _ fits),
      outcome_bind_of_ok (outcome_inRam _ _)]
    exact outcome_push pushed
  refine ⟨_, step_eq_ok running current ends running, ?_⟩
  rw [← Remainder.toNat_checksum]
  rw [kept] at values
  exact values

end Machine

/--
The checksum of memory is a cyclic redundancy check.

Whatever memory holds, the checksum of a range is the remainder that its bits
leave in a register of sixteen bits, started at zero, and a program gets just
this remainder. What the accumulator keeps above its lower sixteen bits has no
effect on the result. Bytes combined by exclusive or have the combined checksum.
-/
theorem checksum_is_remainder
    (ram : Ram)
    (address length : Nat) :
    (ram.checksum address length).toNat = (Remainder.ofBytes (ram.bytes address length)).toNat ∧
      (∀ (accumulator other : UInt32) (bytes : List UInt8),
        accumulator &&& 0xffff = other &&& 0xffff →
        bytes.foldl Checksum.byte accumulator &&& 0xffff =
          bytes.foldl Checksum.byte other &&& 0xffff) ∧
      (∀ left right : List UInt8,
        left.length = right.length →
        Checksum.ofBytes (List.zipWith (· ^^^ ·) left right) =
          Checksum.ofBytes left ^^^ Checksum.ofBytes right) ∧
      ∀ (machine : Machine) (values : List Word) (place count : Word),
        machine.finished = false →
        machine.opcode? = some (.builtin .checksum) →
        machine.stack.toList = values ++ [place, count] →
        place.address + count.address ≤ Ram.capacity →
        ∃ after,
          machine.step = (.ok false, after) ∧
            after.stack.toList =
              values ++ [Word.ofBits
                (Remainder.ofBytes (machine.ram.bytes place.address count.address)).toNat] := by
  refine ⟨Remainder.toNat_checksum _, ?_, ?_, ?_⟩
  · intro accumulator other bytes same
    exact Remainder.checksum_congr same bytes
  · intro left right same
    exact Remainder.checksum_zipWith same
  · intro machine values place count running current shown fits
    exact Machine.step_checksum running current shown fits

/-- The digits from one to nine. -/
def Checksum.sample : List UInt8 :=
  [0x31, 0x32, 0x33, 0x34, 0x35, 0x36, 0x37, 0x38, 0x39]

/-- A machine about to find the checksum of digits in its memory. -/
def Machine.checking : Machine where
  device := { ram := Ram.blank.write 0x3000 Checksum.sample }
  files := { store := { host := {}, root := [] } }
  code := #[0xbe]
  pc := 0
  stack := { slots := #[0x3000, 9], top := 2, top_le := by decide }
  finished := false

theorem sample_checked :
    (Machine.checking.ram.checksum 0x3000 9).toNat = 0x31c3 ∧
      [7, 8].foldl Checksum.byte 0xabcd0001 &&& 0xffff =
        [7, 8].foldl Checksum.byte 1 &&& 0xffff ∧
      Checksum.ofBytes [2, 6] = Checksum.ofBytes [1, 2] ^^^ Checksum.ofBytes [3, 4] ∧
      ∃ after,
        Machine.checking.step = (.ok false, after) ∧ after.stack.toList = [0x31c3] := by
  obtain ⟨sum, upper, linear, step⟩ := checksum_is_remainder Machine.checking.ram 0x3000 9
  have written :
      (Ram.blank.write 0x3000 Checksum.sample).bytes 0x3000 Checksum.sample.length =
        Checksum.sample :=
    Ram.bytes_write (by decide)
  have remainder : (Remainder.ofBytes (Machine.checking.ram.bytes 0x3000 9)).toNat = 0x31c3 := by
    have sampled : (Remainder.ofBytes Checksum.sample).toNat = 0x31c3 := by decide +kernel
    exact (congrArg (fun bytes => (Remainder.ofBytes bytes).toNat) written).trans sampled
  refine ⟨sum.trans remainder, upper _ _ _ (by decide), linear [1, 2] [3, 4] rfl, ?_⟩
  obtain ⟨after, stepped, shown⟩ :=
    step Machine.checking [] 0x3000 9 rfl (by decide) rfl (by decide)
  have place : Word.address 0x3000 = 0x3000 := by decide
  have count : Word.address 9 = 9 := by decide
  rw [place, count, remainder] at shown
  exact ⟨after, stepped, shown⟩

end Handheld
