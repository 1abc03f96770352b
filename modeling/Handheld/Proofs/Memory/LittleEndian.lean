import Handheld.Image.Builder
import Handheld.Machine.Execution

namespace Handheld

/-!
# Numbers as bytes

Numbers stand in memory and in code with their least significant byte first.
`ofLittleEndian` is the number that bytes stand for, and `littleEndian` the bytes
of a number; reading back what was written gives the number modulo what its
bytes can hold. Storing a number, or several words, is writing their bytes.
-/

/-- How many numbers a number of bytes can hold. -/
def numberBound : Nat → Nat
  | 0 => 1
  | rest + 1 => 256 * numberBound rest

/-- The number that bytes stand for, least significant first. -/
def ofLittleEndian : List UInt8 → Nat
  | [] => 0
  | byte :: rest => byte.toNat + 256 * ofLittleEndian rest

/-- A number is written in as many bytes as are asked for. -/
@[simp] theorem length_littleEndian
    (size value : Nat) :
    (littleEndian size value).length = size := by
  induction size generalizing value with
  | zero => rfl
  | succ rest inductionHypothesis =>
      rw [littleEndian, List.length_cons, inductionHypothesis]

/-- Bytes stand for a number that as many bytes can hold. -/
theorem ofLittleEndian_lt (bytes : List UInt8) :
    ofLittleEndian bytes < numberBound bytes.length := by
  induction bytes with
  | nil => exact Nat.one_pos
  | cons byte rest inductionHypothesis =>
      have byteBound := byte.toNat_lt
      rw [ofLittleEndian, List.length_cons, numberBound]
      omega

/-- The bytes of a number stand for its low part. -/
theorem ofLittleEndian_littleEndian
    (size value : Nat) :
    ofLittleEndian (littleEndian size value) = value % numberBound size := by
  induction size generalizing value with
  | zero =>
      rw [littleEndian, ofLittleEndian, numberBound, Nat.mod_one]
  | succ rest inductionHypothesis =>
      rw [littleEndian, ofLittleEndian, inductionHypothesis, numberBound, Nat.mod_mul]
      simp

/-- A word is made of its bits. -/
theorem Word.ofBits_bits (word : Word) : Word.ofBits word.bits = word := by
  apply Int32.toBitVec_inj.mp
  simp [Word.ofBits, Word.bits]

/-- A word is known by its bits. -/
theorem Word.eq_of_bits
    {left right : Word}
    (same : left.bits = right.bits) :
    left = right := by
  rw [← Word.ofBits_bits left, same, Word.ofBits_bits]

/-- Bits from the sign bit on count as negative. -/
theorem Word.toInt_eq_bits (word : Word) :
    word.toInt =
      if word.bits < 0x80000000 then (word.bits : Int) else word.bits - 0x100000000 := by
  have value := BitVec.toInt_eq_toNat_cond word.toBitVec
  change word.toInt =
    if 2 * word.bits < 0x100000000 then (word.bits : Int) else word.bits - (0x100000000 : Nat)
    at value
  split at value
  · rw [if_pos (by omega)]
    exact value
  · rw [if_neg (by omega)]
    exact value

/-- Sixteen bits are read around zero. -/
theorem Word.toInt_ofSigned16 (bits : Nat) :
    (Word.ofSigned16 bits).toInt = (bits : Int).bmod 0x10000 := by
  have half : (UInt16.ofNat bits).toBitVec.toInt = (bits : Int).bmod 0x10000 := by
    rw [BitVec.toInt_eq_toNat_bmod]
    simp only [UInt16.toNat_toBitVec, UInt16.toNat_ofNat', Int.natCast_emod]
    exact Int.emod_bmod _ 0x10000
  rw [Word.ofSigned16, Int16.toInt_toInt32]
  exact half

/-- Only the low sixteen bits matter for a signed value of sixteen bits. -/
theorem Word.ofSigned16_mod (bits : Nat) :
    Word.ofSigned16 (bits % 0x10000) = Word.ofSigned16 bits := by
  apply Int32.toInt_inj.mp
  rw [Word.toInt_ofSigned16, Word.toInt_ofSigned16, Int.natCast_emod]
  exact Int.emod_bmod _ 0x10000

namespace Ram

/-- As many bytes are read as are asked for. -/
@[simp] theorem length_bytes
    (ram : Ram)
    (address length : Nat) :
    (ram.bytes address length).length = length := by
  simp [bytes]

/-- The bytes of a range are its first one and those behind it. -/
theorem bytes_succ
    (ram : Ram)
    (address length : Nat) :
    ram.bytes address (length + 1) = ram.byte address :: ram.bytes (address + 1) length := by
  simp [bytes, List.range'_succ]

/-- A number in memory is what its bytes stand for. -/
theorem number_eq_ofLittleEndian
    (ram : Ram)
    (count address : Nat) :
    ram.number count address = ofLittleEndian (ram.bytes address count) := by
  induction count generalizing address with
  | zero => rfl
  | succ rest inductionHypothesis =>
      rw [number, bytes_succ, ofLittleEndian, inductionHypothesis]

/-- A number in memory is no larger than its bytes can hold. -/
theorem number_lt
    (ram : Ram)
    (count address : Nat) :
    ram.number count address < numberBound count := by
  have bound := ofLittleEndian_lt (ram.bytes address count)
  rwa [length_bytes, ← number_eq_ofLittleEndian] at bound

/-- Storing a number is writing its bytes. -/
theorem setNumber_eq_write
    (ram : Ram)
    (count address value : Nat) :
    ram.setNumber count address value = ram.write address (littleEndian count value) := by
  induction count generalizing ram address value with
  | zero => rfl
  | succ rest inductionHypothesis =>
      rw [setNumber, littleEndian, write, inductionHypothesis]

/-- A list is written one part after the other. -/
theorem write_append
    (ram : Ram)
    (address : Nat)
    (first second : List UInt8) :
    ram.write address (first ++ second) =
      (ram.write address first).write (address + first.length) second := by
  induction first generalizing ram address with
  | nil => rfl
  | cons byte rest inductionHypothesis =>
      rw [List.cons_append, write, inductionHypothesis, write, List.length_cons]
      congr 1
      omega

/-- Addresses that name the same cell are written alike. -/
theorem write_congr
    {ram : Ram}
    {address other : Nat}
    {bytes : List UInt8}
    (same : address % 0x10000 = other % 0x10000) :
    ram.write address bytes = ram.write other bytes := by
  induction bytes generalizing ram address other with
  | nil => rfl
  | cons byte rest inductionHypothesis =>
      have next : (address + 1) % 0x10000 = (other + 1) % 0x10000 := by
        rw [Nat.add_mod, same, ← Nat.add_mod]
      have here : ram.setByte address byte = ram.setByte other byte := by
        simp only [setByte, same]
      rw [write, write, here, inductionHypothesis next]

/-- Bytes that all lie on one side of a write stay. -/
theorem byte_write_of_outside
    {ram : Ram}
    {address read : Nat}
    {bytes : List UInt8}
    (inside : read < capacity)
    (fits : address + bytes.length ≤ capacity)
    (outside : read < address ∨ address + bytes.length ≤ read) :
    (ram.write address bytes).byte read = ram.byte read := by
  have short : bytes.length ≤ capacity := by omega
  have far : bytes.length ≤ distance address read := by
    unfold distance capacity at *
    omega
  rw [byte_write ram address read bytes short, List.getElem?_eq_none far]
  rfl

/-- The bytes just written are read back. -/
theorem bytes_write
    {ram : Ram}
    {address : Nat}
    {bytes : List UInt8}
    (fits : bytes.length ≤ capacity) :
    (ram.write address bytes).bytes address bytes.length = bytes := by
  apply List.ext_getElem
  · exact length_bytes _ _ _
  · intro index _ inside
    have place : distance address (address + index) = index := by
      unfold distance capacity at *
      omega
    simp [Ram.bytes, byte_write _ _ _ _ fits, place, inside]

/-- A number depends on its own bytes only. -/
theorem number_congr
    {left right : Ram}
    {count address : Nat}
    (agree : ∀ offset, offset < count → left.byte (address + offset) = right.byte (address + offset)) :
    left.number count address = right.number count address := by
  induction count generalizing address with
  | zero => rfl
  | succ rest inductionHypothesis =>
      have here := agree 0 (Nat.zero_lt_succ rest)
      have later : left.number rest (address + 1) = right.number rest (address + 1) := by
        apply inductionHypothesis
        intro offset bound
        have same := agree (offset + 1) (Nat.succ_lt_succ bound)
        rwa [Nat.add_comm offset 1, ← Nat.add_assoc] at same
      rw [number, number, later]
      rw [Nat.add_zero] at here
      rw [here]

/-- A number that ends before a write is not changed by it. -/
theorem number_write_of_le
    {ram : Ram}
    {address count read : Nat}
    {bytes : List UInt8}
    (fits : address + bytes.length ≤ capacity)
    (below : read + count ≤ address) :
    (ram.write address bytes).number count read = ram.number count read := by
  apply number_congr
  intro offset near
  exact byte_write_of_outside (by omega) fits (by omega)

/-- A byte before a number that is stored stays. -/
theorem byte_setNumber_of_lt
    {ram : Ram}
    {count address value read : Nat}
    (fits : address + count ≤ capacity)
    (below : read < address) :
    (ram.setNumber count address value).byte read = ram.byte read := by
  rw [← length_littleEndian count value] at fits
  rw [setNumber_eq_write]
  exact byte_write_of_outside (by omega) fits (.inl below)

/-- A number that ends before another one that is stored stays. -/
theorem number_setNumber_of_le
    {ram : Ram}
    {count address value size read : Nat}
    (fits : address + count ≤ capacity)
    (below : read + size ≤ address) :
    (ram.setNumber count address value).number size read = ram.number size read := by
  apply number_congr
  intro offset near
  exact byte_setNumber_of_lt fits (by omega)

/-- A number just stored is read back, as far as its bytes hold it. -/
theorem number_setNumber
    {ram : Ram}
    {count address value : Nat}
    (fits : count ≤ capacity) :
    (ram.setNumber count address value).number count address = value % numberBound count := by
  have written :
      (ram.write address (littleEndian count value)).bytes address count =
        littleEndian count value := by
    have short : (littleEndian count value).length ≤ capacity := by
      rwa [length_littleEndian]
    have all :
        (ram.write address (littleEndian count value)).bytes address
            (littleEndian count value).length =
          littleEndian count value :=
      bytes_write short
    rwa [length_littleEndian] at all
  rw [setNumber_eq_write, number_eq_ofLittleEndian, written, ofLittleEndian_littleEndian]

end Ram

namespace Machine

/-- A number in the code is no larger than its bytes can hold. -/
theorem codeNumber_lt
    (code : Array UInt8)
    (count index : Nat) :
    codeNumber code count index < numberBound count := by
  induction count generalizing index with
  | zero => exact Nat.one_pos
  | succ rest inductionHypothesis =>
      have byteBound := (code.getD index 0).toNat_lt
      have restBound := inductionHypothesis (index + 1)
      rw [codeNumber, numberBound]
      omega

/-- The first byte of what follows an index in the code is the byte there. -/
theorem code_of_drop
    {code : Array UInt8}
    {index : Nat}
    {byte : UInt8}
    {rest : List UInt8}
    (here : code.toList.drop index = byte :: rest) :
    code[index]? = some byte ∧ code.toList.drop (index + 1) = rest := by
  have first : (code.toList.drop index)[0]? = some byte := by
    rw [here]
    rfl
  refine ⟨by simpa using first, ?_⟩
  rw [← List.drop_drop, here]
  rfl

/-- A number in the code is what its bytes stand for. -/
theorem codeNumber_eq_ofLittleEndian
    {code : Array UInt8}
    {bytes rest : List UInt8}
    {index : Nat}
    (ahead : code.toList.drop index = bytes ++ rest) :
    codeNumber code bytes.length index = ofLittleEndian bytes := by
  induction bytes generalizing index with
  | nil => rfl
  | cons byte others inductionHypothesis =>
      obtain ⟨here, later⟩ := code_of_drop ahead
      rw [List.length_cons, codeNumber, ofLittleEndian, inductionHypothesis later,
        Array.getD_eq_getD_getElem?, here]
      rfl

/-- Storing words is writing the bytes of all of them. -/
theorem storeWords_eq_write
    (ram : Ram)
    (address : Nat)
    (words : List Word) :
    storeWords ram address words =
      ram.write address (words.flatMap fun word => littleEndian 4 word.bits) := by
  induction words generalizing ram address with
  | nil => rfl
  | cons word rest inductionHypothesis =>
      rw [storeWords, inductionHypothesis, List.flatMap_cons, Ram.write_append,
        length_littleEndian, Ram.setWord, Ram.setNumber_eq_write]

/-- Words take four bytes each. -/
theorem length_flatMap_littleEndian (words : List Word) :
    (words.flatMap fun word => littleEndian 4 word.bits).length = 4 * words.length := by
  induction words with
  | nil => rfl
  | cons word rest inductionHypothesis =>
      rw [List.flatMap_cons, List.length_append, length_littleEndian, inductionHypothesis,
        List.length_cons]
      omega

/-- A byte before the stored words stays. -/
theorem byte_storeWords_of_lt
    {ram : Ram}
    {address read : Nat}
    {words : List Word}
    (fits : address + 4 * words.length ≤ Ram.capacity)
    (below : read < address) :
    (storeWords ram address words).byte read = ram.byte read := by
  rw [← length_flatMap_littleEndian words] at fits
  rw [storeWords_eq_write]
  exact Ram.byte_write_of_outside (by omega) fits (.inl below)

/-- A number that ends before the stored words stays. -/
theorem number_storeWords_of_le
    {ram : Ram}
    {address count read : Nat}
    {words : List Word}
    (fits : address + 4 * words.length ≤ Ram.capacity)
    (below : read + count ≤ address) :
    (storeWords ram address words).number count read = ram.number count read := by
  rw [← length_flatMap_littleEndian words] at fits
  rw [storeWords_eq_write]
  exact Ram.number_write_of_le fits below

/-- Stored words are read back. -/
theorem number_storeWords
    {ram : Ram}
    {address index : Nat}
    {words : List Word}
    {word : Word}
    (fits : address + 4 * words.length ≤ Ram.capacity)
    (here : words[index]? = some word) :
    (storeWords ram address words).number 4 (address + 4 * index) = word.bits := by
  induction words generalizing ram address index with
  | nil => cases here
  | cons first rest inductionHypothesis =>
      rw [List.length_cons] at fits
      rw [storeWords]
      have restFits : address + 4 + 4 * rest.length ≤ Ram.capacity := by omega
      cases index with
      | zero =>
          cases here
          rw [number_storeWords_of_le restFits (by omega), Ram.setWord, Nat.mul_zero, Nat.add_zero,
            Ram.number_setNumber (by decide)]
          exact Nat.mod_eq_of_lt word.toUInt32.toNat_lt
      | succ later =>
          have place : address + 4 * (later + 1) = address + 4 + 4 * later := by omega
          rw [place]
          exact inductionHypothesis restFits here

end Machine

end Handheld
