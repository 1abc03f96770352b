import Handheld.Memory.Window
import Handheld.Proofs.Memory.LittleEndian

namespace Handheld

/-!
# Typed access

Words are stored in one to four bytes, low byte first, and read back with zeros
or with their sign in front. Every address is taken around the address space, so
a value may stand across its end. This module says what such an access does: the
value that comes back is what the bytes hold of the word, cells that the value
does not stand in are left alone, and stores that share no cell commute.
-/

section Words

/-- The low bytes of the bits are those of the signed value. -/
theorem Word.bits_emod (word : Word) :
    (word.bits : Int) % 0x1000000 = word.toInt % 0x1000000 := by
  have value := word.toInt_eq_bits
  split at value
  · rw [value]
  · omega

/-- The low half of the bits, read with its sign, is the low half of the signed value. -/
theorem Word.bits_bmod (word : Word) :
    (word.bits : Int).bmod 0x10000 = word.toInt.bmod 0x10000 := by
  have low := word.bits_emod
  have half : (word.bits : Int) % (0x10000 : Nat) = word.toInt % (0x10000 : Nat) := by omega
  rw [Int.bmod_def, Int.bmod_def, half]

/-- Bits below the sign bit are a word's value. -/
theorem Word.toInt_ofBits
    {bits : Nat}
    (small : bits < 0x80000000) :
    (Word.ofBits bits).toInt = bits :=
  Int32.toInt_ofNat_of_lt small

/-- A word is shifted by whole bytes with its sign. -/
theorem Word.toBitVec_shiftRight
    (word : Word)
    {place : Nat}
    (inside : place < 4) :
    (word >>> Int32.ofNat (8 * place)).toBitVec = word.toBitVec.sshiftRight (8 * place) := by
  have amount : ((Int32.ofNat (8 * place)).toBitVec.smod 32).toNat = 8 * place := by
    have places : place = 0 ∨ place = 1 ∨ place = 2 ∨ place = 3 := by omega
    rcases places with rfl | rfl | rfl | rfl <;> decide
  rw [Int32.toBitVec_shiftRight, BitVec.sshiftRight_eq', amount]

/-- Shifting a word right by whole bytes brings one of its bytes down, whatever its sign. -/
theorem Word.lowByte_shiftRight
    (word : Word)
    {place : Nat}
    (inside : place < 4) :
    (word >>> Int32.ofNat (8 * place)).lowByte = UInt8.ofNat (word.bits / numberBound place) := by
  have power : numberBound place = 2 ^ (8 * place) := by
    have places : place = 0 ∨ place = 1 ∨ place = 2 ∨ place = 3 := by omega
    rcases places with rfl | rfl | rfl | rfl <;> rfl
  rw [power]
  apply UInt8.toBitVec_inj.mp
  apply BitVec.eq_of_getLsbD_eq
  intro bit near
  have low : 8 * place + bit < 32 := by omega
  have notSign : ¬ 32 ≤ bit := by omega
  change ((word >>> Int32.ofNat (8 * place)).toBitVec.setWidth 8).getLsbD bit =
    (BitVec.ofNat 8 (word.toBitVec.toNat / 2 ^ (8 * place))).getLsbD bit
  rw [word.toBitVec_shiftRight inside, BitVec.getLsbD_setWidth, BitVec.getLsbD_sshiftRight,
    BitVec.getLsbD_ofNat, Nat.testBit_div_two_pow, if_pos low, decide_eq_false notSign,
    Nat.add_comm bit]
  rfl

end Words

/-- Each byte of a number is a digit of it. -/
theorem getElem?_littleEndian
    {size place : Nat}
    (value : Nat)
    (inside : place < size) :
    (littleEndian size value)[place]? = some (UInt8.ofNat (value / numberBound place)) := by
  induction size generalizing value place with
  | zero => exact absurd inside (Nat.not_lt_zero place)
  | succ rest inductionHypothesis =>
      rw [littleEndian]
      cases place with
      | zero => rw [List.getElem?_cons_zero, numberBound, Nat.div_one]
      | succ earlier =>
          rw [List.getElem?_cons_succ, inductionHypothesis _ (Nat.lt_of_succ_lt_succ inside),
            Nat.div_div_eq_div_mul, numberBound]

namespace Ram

section Writes

variable
  {ram : Ram}
  {address other : Nat}
  {bytes : List UInt8}

/-- A byte whose cell is not written to stays. -/
theorem byte_write_of_apart
    (apart : ∀ offset < bytes.length, (address + offset) % 0x10000 ≠ other % 0x10000) :
    (ram.write address bytes).byte other = ram.byte other := by
  induction bytes generalizing ram address with
  | nil => rfl
  | cons byte rest inductionHypothesis =>
      have here : address % 0x10000 ≠ other % 0x10000 := apart 0 (Nat.zero_lt_succ _)
      rw [write, inductionHypothesis, byte_setByte, if_neg here]
      intro offset near
      rw [Nat.add_assoc, Nat.add_comm 1]
      exact apart (offset + 1) (Nat.succ_lt_succ near)

/-- Bytes in different cells can be stored in either order. -/
theorem setByte_comm
    {byte otherByte : UInt8}
    (apart : address % 0x10000 ≠ other % 0x10000) :
    (ram.setByte address byte).setByte other otherByte =
      (ram.setByte other otherByte).setByte address byte := by
  unfold setByte
  rw [Vector.set_comm _ _ apart]

/-- A byte apart from a list can be stored before or after it. -/
theorem setByte_write_comm
    {byte : UInt8}
    (apart : ∀ offset < bytes.length, (address + offset) % 0x10000 ≠ other % 0x10000) :
    (ram.write address bytes).setByte other byte =
      (ram.setByte other byte).write address bytes := by
  induction bytes generalizing ram address with
  | nil => rfl
  | cons first rest inductionHypothesis =>
      have here : address % 0x10000 ≠ other % 0x10000 := apart 0 (Nat.zero_lt_succ _)
      rw [write, write, inductionHypothesis, setByte_comm here]
      intro offset near
      rw [Nat.add_assoc, Nat.add_comm 1]
      exact apart (offset + 1) (Nat.succ_lt_succ near)

/-- Lists that share no cell can be written in either order. -/
theorem write_comm
    {otherBytes : List UInt8}
    (apart :
      ∀ offset < bytes.length,
        ∀ otherOffset < otherBytes.length,
          (address + offset) % 0x10000 ≠ (other + otherOffset) % 0x10000) :
    (ram.write address bytes).write other otherBytes =
      (ram.write other otherBytes).write address bytes := by
  induction otherBytes generalizing ram other with
  | nil => rfl
  | cons first rest inductionHypothesis =>
      rw [write, write, setByte_write_comm, inductionHypothesis]
      · intro offset near otherOffset otherNear
        rw [Nat.add_assoc, Nat.add_comm 1]
        exact apart offset near (otherOffset + 1) (Nat.succ_lt_succ otherNear)
      · intro offset near
        exact apart offset near 0 (Nat.zero_lt_succ _)

end Writes

/-- What a typed access to a word does at an address. -/
structure Accesses
    (ram : Ram)
    (address : Nat)
    (value : Word) : Prop where
  unsigned8 :
    (Word.ofByte ((ram.setWord 1 address value).byte address)).toInt = value.toInt % 0x100
  unsigned16 :
    ((ram.setWord 2 address value).number 2 address : Int) = value.toInt % 0x10000
  signed16 :
    ((ram.setWord 2 address value).signed16 address).toInt = value.toInt.bmod 0x10000
  unsigned24 :
    ((ram.setWord 3 address value).number 3 address : Int) = value.toInt % 0x1000000
  signed32 :
    (ram.setWord 4 address value).signed32 address = value
  /-- The bytes stand in order, the lowest first. -/
  stored :
    ∀ count ≤ 4,
      ∀ place < count,
        (ram.setWord count address value).byte (address + place) =
          (value >>> Int32.ofNat (8 * place)).lowByte
  untouched :
    ∀ count other,
      (∀ offset < count, (address + offset) % 0x10000 ≠ other % 0x10000) →
      (ram.setWord count address value).byte other = ram.byte other
  commutes :
    ∀ count other otherCount otherValue,
      (∀ offset < count,
        ∀ otherOffset < otherCount,
          (address + offset) % 0x10000 ≠ (other + otherOffset) % 0x10000) →
      (ram.setWord count address value).setWord otherCount other otherValue =
        (ram.setWord otherCount other otherValue).setWord count address value

section Access

variable
  (ram : Ram)
  (address : Nat)
  (value : Word)

/-- The number read back is what its bytes hold of the word. -/
theorem number_setWord
    {count : Nat}
    (short : count ≤ 4) :
    (ram.setWord count address value).number count address = value.bits % numberBound count :=
  number_setNumber (Nat.le_trans short (by decide))

/-- A byte is a number of one byte. -/
theorem byte_eq_number : (ram.byte address).toNat = ram.number 1 address :=
  (Nat.add_zero _).symm

/-- A byte read back is the low byte of the word. -/
theorem toInt_byte_setWord :
    (Word.ofByte ((ram.setWord 1 address value).byte address)).toInt = value.toInt % 0x100 := by
  have low := value.bits_emod
  have bound : value.bits % 0x100 < 0x80000000 := by omega
  rw [Word.ofByte, byte_eq_number, number_setWord ram address value (by decide)]
  change (Word.ofBits (value.bits % 0x100)).toInt = _
  rw [Word.toInt_ofBits bound]
  omega

/-- Two bytes read back are the low half of the word, with its sign. -/
theorem toInt_signed16_setWord :
    ((ram.setWord 2 address value).signed16 address).toInt = value.toInt.bmod 0x10000 := by
  unfold signed16
  rw [number_setWord ram address value (by decide)]
  change (Word.ofSigned16 (value.bits % 0x10000)).toInt = _
  rw [Word.ofSigned16_mod, Word.toInt_ofSigned16, value.bits_bmod]

/-- Four bytes read back are the word. -/
theorem signed32_setWord : (ram.setWord 4 address value).signed32 address = value := by
  have bound : value.bits < 0x100000000 := value.toUInt32.toNat_lt
  unfold signed32
  rw [number_setWord ram address value (Nat.le_refl 4)]
  change Word.ofBits (value.bits % 0x100000000) = value
  rw [Nat.mod_eq_of_lt bound, Word.ofBits_bits]

/-- The bytes of a stored word are those that shifting brings down. -/
theorem byte_setWord
    {count place : Nat}
    (short : count ≤ 4)
    (inside : place < count) :
    (ram.setWord count address value).byte (address + place) =
      (value >>> Int32.ofNat (8 * place)).lowByte := by
  have fits : (littleEndian count value.bits).length ≤ capacity := by
    rw [length_littleEndian]
    exact Nat.le_trans short (by decide)
  have here : distance address (address + place) = place := by
    unfold distance
    omega
  unfold setWord
  rw [setNumber_eq_write, byte_write _ _ _ _ fits, here, getElem?_littleEndian _ inside,
    value.lowByte_shiftRight (Nat.lt_of_lt_of_le inside short)]
  rfl

/-- Typed access is exact at every address. -/
theorem accesses : ram.Accesses address value := by
  have low := value.bits_emod
  refine ⟨ram.toInt_byte_setWord address value, ?_, ram.toInt_signed16_setWord address value, ?_,
    ram.signed32_setWord address value, ?_, ?_, ?_⟩
  · rw [number_setWord ram address value (by decide)]
    change ((value.bits % 0x10000 : Nat) : Int) = _
    omega
  · rw [number_setWord ram address value (by decide)]
    change ((value.bits % 0x1000000 : Nat) : Int) = _
    omega
  · intro count short place inside
    exact ram.byte_setWord address value short inside
  · intro count other apart
    unfold setWord
    rw [setNumber_eq_write]
    apply byte_write_of_apart
    rwa [length_littleEndian]
  · intro count other otherCount otherValue apart
    unfold setWord
    simp only [setNumber_eq_write]
    apply write_comm
    rwa [length_littleEndian, length_littleEndian]

end Access

/-- Addresses that name the same cell are read alike. -/
theorem number_congr_address
    {address other : Nat}
    (ram : Ram)
    (count : Nat)
    (same : address % 0x10000 = other % 0x10000) :
    ram.number count address = ram.number count other := by
  induction count generalizing address other with
  | zero => rfl
  | succ rest inductionHypothesis =>
      have next : (address + 1) % 0x10000 = (other + 1) % 0x10000 := by
        rw [Nat.add_mod, same, ← Nat.add_mod]
      have here : ram.byte address = ram.byte other := by
        simp only [byte, same]
      rw [number, number, here, inductionHypothesis next]

end Ram

namespace Window

/-- Going on from an offset is going on from its address. -/
theorem address_add
    (window : Window)
    (offset further : Nat) :
    window.address (offset + further) = window.address offset + further :=
  (Nat.add_assoc window.start offset further).symm

/-- A number read byte by byte at its offsets is the number at the address behind them. -/
theorem number_eq
    (window : Window)
    (ram : Ram)
    (count offset : Nat) :
    window.number ram count offset = ram.number count (window.address offset) := by
  induction count generalizing offset with
  | zero => rfl
  | succ rest inductionHypothesis =>
      rw [number, Ram.number, inductionHypothesis, address_add, byte]

/-- A number written byte by byte at its offsets is written to the address behind them. -/
theorem setNumber_eq
    (window : Window)
    (ram : Ram)
    (count offset value : Nat) :
    window.setNumber ram count offset value =
      ram.setNumber count (window.address offset) value := by
  induction count generalizing ram offset value with
  | zero => rfl
  | succ rest inductionHypothesis =>
      rw [setNumber, Ram.setNumber, inductionHypothesis, address_add, setByte]

/-- Storing a word through a window stores it in the memory behind the window. -/
theorem setWord_eq
    (window : Window)
    (ram : Ram)
    (count offset : Nat)
    (value : Word) :
    window.setWord ram count offset value = ram.setWord count (window.address offset) value :=
  window.setNumber_eq ram count offset value.bits

/-- What a typed access to a word does at an offset of a window. -/
structure Accesses
    (window : Window)
    (ram : Ram)
    (offset : Nat)
    (value : Word) : Prop where
  unsigned8 :
    (Word.ofByte (window.byte (window.setWord ram 1 offset value) offset)).toInt =
      value.toInt % 0x100
  unsigned16 :
    (window.number (window.setWord ram 2 offset value) 2 offset : Int) = value.toInt % 0x10000
  signed16 :
    (window.signed16 (window.setWord ram 2 offset value) offset).toInt =
      value.toInt.bmod 0x10000
  unsigned24 :
    (window.number (window.setWord ram 3 offset value) 3 offset : Int) = value.toInt % 0x1000000
  signed32 :
    window.signed32 (window.setWord ram 4 offset value) offset = value
  /-- The bytes stand in order, the lowest first. -/
  stored :
    ∀ count ≤ 4,
      ∀ place < count,
        window.byte (window.setWord ram count offset value) (offset + place) =
          (value >>> Int32.ofNat (8 * place)).lowByte
  /-- Memory that no offset of the word leads to is left alone, in the window or not. -/
  untouched :
    ∀ count other,
      (∀ further < count, window.address (offset + further) % 0x10000 ≠ other % 0x10000) →
      (window.setWord ram count offset value).byte other = ram.byte other
  /-- The second store may go through another window onto the same memory. -/
  commutes :
    ∀ (second : Window) (count other otherCount : Nat) (otherValue : Word),
      (∀ further < count,
        ∀ otherFurther < otherCount,
          window.address (offset + further) % 0x10000 ≠
            second.address (other + otherFurther) % 0x10000) →
      second.setWord (window.setWord ram count offset value) otherCount other otherValue =
        window.setWord (second.setWord ram otherCount other otherValue) count offset value

/-- Typed access is exact at every offset of every window, since it is in memory. -/
theorem accesses
    (window : Window)
    (ram : Ram)
    (offset : Nat)
    (value : Word) :
    window.Accesses ram offset value := by
  have behind := ram.accesses (window.address offset) value
  constructor
  case unsigned8 =>
    rw [setWord_eq]
    exact behind.unsigned8
  case unsigned16 =>
    rw [setWord_eq, number_eq]
    exact behind.unsigned16
  case signed16 =>
    rw [setWord_eq, signed16, number_eq]
    exact behind.signed16
  case unsigned24 =>
    rw [setWord_eq, number_eq]
    exact behind.unsigned24
  case signed32 =>
    rw [setWord_eq, signed32, number_eq]
    exact behind.signed32
  case stored =>
    intro count short place inside
    rw [setWord_eq, byte, address_add]
    exact behind.stored count short place inside
  case untouched =>
    intro count other apart
    rw [setWord_eq]
    apply behind.untouched
    intro further near
    rw [← address_add]
    exact apart further near
  case commutes =>
    intro second count other otherCount otherValue apart
    rw [setWord_eq, setWord_eq, setWord_eq, setWord_eq]
    apply behind.commutes
    intro further near otherFurther otherNear
    rw [← address_add, ← address_add]
    exact apart further near otherFurther otherNear

end Window

/--
Words are stored and read back exactly, in memory and through every window.

A reader gives the stored word reduced to its width, with zeros or its sign in
front. No cell is changed but those of the width, and two stores that share no
cell commute, also when they go through different windows.
-/
theorem Ram.typed_access_exact
    (ram : Ram)
    (value : Word) :
    (∀ address, ram.Accesses address value) ∧
      ∀ (window : Window) (offset : Nat), window.Accesses ram offset value :=
  ⟨fun address => ram.accesses address value,
    fun window offset => window.accesses ram offset value⟩

namespace Width

/-- What is left of a word in a width: the low byte, or the low half with its sign. -/
def narrow
    (width : Width)
    (value : Word) :
    Word :=
  match width with
  | .byte => Int32.ofInt (value.toInt % 0x100)
  | .half => Int32.ofInt (value.toInt.bmod 0x10000)
  | .full => value

/-- A stored word is read back as far as the width holds it. -/
theorem load_store
    (width : Width)
    (ram : Ram)
    (address : Nat)
    (value : Word) :
    width.load (width.store ram address value) address = width.narrow value := by
  apply Int32.toInt_inj.mp
  cases width with
  | byte =>
      rw [narrow, Int32.toInt_ofInt_of_le (by omega) (by omega)]
      exact ram.toInt_byte_setWord address value
  | half =>
      have low : -((0x10000 : Int) / 2) ≤ value.toInt.bmod 0x10000 := Int.le_bmod (by decide)
      have high : value.toInt.bmod 0x10000 < ((0x10000 : Int) + 1) / 2 := Int.bmod_lt (by decide)
      rw [narrow, Int32.toInt_ofInt_of_le (by omega) (by omega)]
      exact ram.toInt_signed16_setWord address value
  | full => exact congrArg Int32.toInt (ram.signed32_setWord address value)

/-- A value is loaded alike from every address of the same cell. -/
theorem load_congr
    {address other : Nat}
    (width : Width)
    (ram : Ram)
    (same : address % 0x10000 = other % 0x10000) :
    width.load ram address = width.load ram other := by
  cases width with
  | byte =>
      change Word.ofByte (ram.byte address) = Word.ofByte (ram.byte other)
      simp only [Ram.byte, same]
  | half => exact congrArg Word.ofSigned16 (ram.number_congr_address 2 same)
  | full => exact congrArg Word.ofBits (ram.number_congr_address 4 same)

/-- A value is stored alike at every address of the same cell. -/
theorem store_congr
    {address other : Nat}
    (width : Width)
    (ram : Ram)
    (value : Word)
    (same : address % 0x10000 = other % 0x10000) :
    width.store ram address value = width.store ram other value := by
  unfold store Ram.setWord
  rw [Ram.setNumber_eq_write, Ram.setNumber_eq_write, Ram.write_congr same]

end Width

end Handheld
