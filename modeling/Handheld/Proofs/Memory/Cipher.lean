import Handheld.Proofs.Machine.Step
import Handheld.Proofs.Memory.Strings

namespace Handheld

/-!
# The cipher

The cipher takes a password from memory and combines a range with it by exclusive
or, from the start of the range on and over again where it is used up. What it
does to memory is therefore told by one byte an address, which is zero outside of
the range. As long as the password does not lie in the range it is found again
afterwards: the same call restores memory, and it does not matter in which order
two passwords are used.
-/

/-- The byte that a repeated password has at an address, if it starts with a range. -/
def keyAt
    (password : List UInt8)
    (start size address : Nat) :
    UInt8 :=
  if start ≤ address ∧ address < start + size then
    password.getD ((address - start) % password.length) 0
  else
    0

namespace Ram

variable
  {ram : Ram}
  {start size address : Nat}
  {password : List UInt8}

/-- Each byte of the range meets the byte of the password that its place asks for. -/
theorem byte_encryptFrom
    {password : Array UInt8}
    (nonempty : 0 < password.size)
    (index : Nat)
    (fits : start + size ≤ capacity)
    (inside : address < capacity) :
    (ram.encryptFrom password nonempty start index size).byte address =
      ram.byte address ^^^
        if start ≤ address ∧ address < start + size then
          password.getD ((index + (address - start)) % password.size) 0
        else
          0 := by
  induction size generalizing ram start index with
  | zero => rw [encryptFrom, if_neg (by omega), UInt8.xor_zero]
  | succ rest inductionHypothesis =>
      have bound : index % password.size < password.size := Nat.mod_lt index nonempty
      rw [encryptFrom, inductionHypothesis _ (by omega),
        byte_setByte_of_lt ram _ (by omega) inside]
      by_cases here : start = address
      · subst here
        rw [if_pos rfl, if_neg (by omega), if_pos (by omega), Nat.sub_self, Nat.add_zero,
          UInt8.xor_zero, Array.getD, dif_pos bound]
        rfl
      · rw [if_neg here]
        by_cases behind : start + 1 ≤ address ∧ address < start + 1 + rest
        · have next : index + 1 + (address - (start + 1)) = index + (address - start) := by omega
          rw [if_pos behind, if_pos (by omega), next]
        · rw [if_neg behind, if_neg (by omega)]

/-- Each byte is combined with the byte that the password has there. -/
theorem byte_encrypt
    (fits : start + size ≤ capacity)
    (inside : address < capacity) :
    (ram.encrypt start size password).byte address =
      ram.byte address ^^^ keyAt password start size address := by
  unfold encrypt
  split
  case isTrue nonempty =>
    rw [byte_encryptFrom nonempty 0 fits inside]
    unfold keyAt
    rw [Nat.zero_add, List.size_toArray, Array.getD_eq_getD_getElem?, List.getElem?_toArray,
      List.getD_eq_getElem?_getD]
  case isFalse empty =>
    have nothing : password = [] := List.eq_nil_of_length_eq_zero (Nat.eq_zero_of_not_pos empty)
    subst nothing
    unfold keyAt
    rw [List.getD_nil, ite_self, UInt8.xor_zero]

/-- The same password restores what it has changed. -/
theorem encrypt_encrypt (fits : start + size ≤ capacity) :
    (ram.encrypt start size password).encrypt start size password = ram := by
  apply ext_byte
  intro address inside
  rw [byte_encrypt fits inside, byte_encrypt fits inside, UInt8.xor_assoc, UInt8.xor_self,
    UInt8.xor_zero]

/-- Passwords may be used in either order. -/
theorem encrypt_comm
    {other : List UInt8}
    (fits : start + size ≤ capacity) :
    (ram.encrypt start size password).encrypt start size other =
      (ram.encrypt start size other).encrypt start size password := by
  apply ext_byte
  intro address inside
  simp only [byte_encrypt fits inside]
  rw [UInt8.xor_assoc, UInt8.xor_assoc, UInt8.xor_comm (keyAt password start size address)]

/-- The cipher changes its range only. -/
theorem sameOutside_encrypt (fits : start + size ≤ capacity) :
    SameOutside start size ram (ram.encrypt start size password) := by
  intro address inside outside
  rw [byte_encrypt fits inside, keyAt, if_neg (by omega), UInt8.xor_zero]

/-- An empty password enciphers nothing. -/
theorem encrypt_nil : ram.encrypt start size [] = ram :=
  dif_neg (Nat.lt_irrefl 0)

/-- No byte of a string, its NUL included, lies in a range. -/
def LiesOutside
    (start size address length : Nat) :
    Prop :=
  ∀ offset ≤ length, address + offset < start ∨ start + size ≤ address + offset

/-- A string outside of the range is still there. -/
theorem HoldsString.encrypt
    {text : List UInt8}
    (holds : ram.HoldsString address text)
    (fits : start + size ≤ capacity)
    (outside : LiesOutside start size address text.length) :
    (ram.encrypt start size password).HoldsString address text := by
  have same : SameOutside start size ram (ram.encrypt start size password) :=
    sameOutside_encrypt fits
  rcases Nat.eq_zero_or_pos size with none | some
  · have everywhere : SameOutside 0 0 ram (ram.encrypt start size password) :=
      fun place inside _ => same place inside (by omega)
    exact holds.of_sameOutside everywhere (.inr (Nat.zero_le address))
  · refine holds.of_sameOutside same ?_
    have first := outside 0 (Nat.zero_le _)
    have reached := outside (start - address)
    omega

end Ram

namespace Machine

/--
In every machine with the one memory a step of the cipher with some arguments
leads to the other memory and takes the arguments from the stack.
-/
def Enciphers
    (start size place : Word)
    (before after : Ram) :
    Prop :=
  ∀ (machine : Machine) (values : List Word),
    machine.finished = false →
    machine.opcode? = some (.builtin .encrypt) →
    machine.ram = before →
    machine.stack.toList = values ++ [start, size, place] →
    ∃ stack,
      stack.toList = values ∧
        machine.step =
          (.ok false, { machine with
            pc := machine.pc + 1
            stack := stack
            device := { machine.device with ram := after } })

/-- The range is enciphered as the password in memory says. -/
theorem enciphers
    {ram : Ram}
    {start size place : Word}
    {password : List UInt8}
    (fits : start.address + size.address ≤ Ram.capacity)
    (holds : ram.HoldsString place.address password) :
    Enciphers start size place ram (ram.encrypt start.address size.address password) := by
  rintro machine values running current rfl shown
  have shownLater :
      (machine.skip 1).stack.toList = values ++ (#v[start, size, place] : Vector Word 3).toList :=
    shown
  obtain ⟨stack, taken, kept⟩ := DataStack.exists_take shownLater
  have here : (machine.skip 1).ram.string? place.address = some password :=
    Ram.string?_eq_some_iff.mpr holds
  refine ⟨stack, kept, step_eq_ok running current ?_ running⟩
  change (machine.skip 1).outcome (takeThree >>= fun arguments =>
    stringAt arguments.2.2.address >>= fun password =>
      checkRange arguments.1.address arguments.2.1.address >>= fun _ =>
        onRam (·.encrypt arguments.1.address arguments.2.1.address password)) = _
  have fetched : { machine.skip 1 with stack := stack }.outcome (stringAt place.address) =
      (.ok password, { machine.skip 1 with stack := stack }) :=
    outcome_stringAt here
  rw [outcome_bind_of_ok (outcome_takeThree taken), outcome_bind_of_ok fetched,
    outcome_bind_of_ok (outcome_checkRange _ fits), outcome_onRam]
  rfl

end Machine

/--
The cipher undoes itself.

Take a range inside memory and a string none of whose bytes, its NUL included,
lies in the range. A program that calls the cipher on them combines the bytes of
the range with those of the string, which starts over whenever it is used up, and
changes nothing else, and nothing at all when the string is empty. The same call
afterwards restores memory. With another such string the order of the two calls
makes no difference.
-/
theorem cipher_undoes_itself
    (ram : Ram)
    (start size place : Word)
    (password : List UInt8)
    (fits : start.address + size.address ≤ Ram.capacity)
    (holds : ram.HoldsString place.address password)
    (outside : Ram.LiesOutside start.address size.address place.address password.length) :
    ∃ after,
      Machine.Enciphers start size place ram after ∧
        (∀ offset < size.address,
          after.byte (start.address + offset) =
            ram.byte (start.address + offset) ^^^ password.getD (offset % password.length) 0) ∧
        Ram.SameOutside start.address size.address ram after ∧
        (password = [] → after = ram) ∧
        Machine.Enciphers start size place after ram ∧
        ∀ other otherPassword,
          ram.HoldsString other.address otherPassword →
          Ram.LiesOutside start.address size.address other.address otherPassword.length →
          ∃ otherAfter both,
            Machine.Enciphers start size other ram otherAfter ∧
              Machine.Enciphers start size other after both ∧
              Machine.Enciphers start size place otherAfter both := by
  have stillThere :
      (ram.encrypt start.address size.address password).HoldsString place.address password :=
    holds.encrypt fits outside
  have restored := Machine.enciphers fits stillThere
  rw [Ram.encrypt_encrypt fits] at restored
  refine ⟨ram.encrypt start.address size.address password, Machine.enciphers fits holds, ?_,
    Ram.sameOutside_encrypt fits, ?_, restored, ?_⟩
  · intro offset near
    rw [Ram.byte_encrypt fits (by omega), keyAt, if_pos (by omega), Nat.add_sub_cancel_left]
  · rintro rfl
    exact Ram.encrypt_nil
  · intro other otherPassword otherHolds otherOutside
    refine ⟨ram.encrypt start.address size.address otherPassword, _,
      Machine.enciphers fits otherHolds,
      Machine.enciphers fits (otherHolds.encrypt fits otherOutside), ?_⟩
    rw [Ram.encrypt_comm fits]
    exact Machine.enciphers fits (holds.encrypt fits outside)

/-- A machine about to use the cipher twice on seven bytes, with the same password of three. -/
def Machine.enciphering : Machine where
  device := {
    ram := (Ram.blank.write 0x3000 [112, 97, 121, 108, 111, 97, 100]).writeString 0x1000
      [107, 101, 121]
  }
  files := { store := { host := {}, root := [] } }
  code := #[0xbf, 0xbf]
  pc := 0
  stack := { slots := #[0x3000, 7, 0x1000, 0x3000, 7, 0x1000], top := 6, top_le := by decide }
  finished := false

theorem Machine.payload_restored :
    ∃ middle after,
      enciphering.step = (.ok false, middle) ∧
        middle.step = (.ok false, after) ∧
        middle.ram.byte 0x3003 = enciphering.ram.byte 0x3003 ^^^ 107 ∧
        middle.stack.toList = [0x3000, 7, 0x1000] ∧
        after.ram = enciphering.ram ∧
        ∃ both, Enciphers 0x3000 7 0x1003 middle.ram both := by
  have start : Word.address 0x3000 = 0x3000 := by decide
  have size : Word.address 7 = 7 := by decide
  have place : Word.address 0x1000 = 0x1000 := by decide
  have behind : Word.address 0x1003 = 0x1003 := by decide
  have holds : enciphering.ram.HoldsString 0x1000 [107, 101, 121] :=
    Ram.holdsString_written (by decide) (by decide)
  have holdsNothing : enciphering.ram.HoldsString 0x1003 [] :=
    ⟨by decide, rfl, holds.nul, List.not_mem_nil⟩
  have outside : Ram.LiesOutside 0x3000 7 0x1000 3 := by
    intro offset near
    omega
  have nothingOutside : Ram.LiesOutside 0x3000 7 0x1003 0 := by
    intro offset near
    omega
  obtain ⟨after, there, bytes, -, -, back, either⟩ :=
    cipher_undoes_itself enciphering.ram 0x3000 7 0x1000 [107, 101, 121]
      (by rw [start, size]; decide) (by rwa [place]) (by rwa [start, size, place])
  obtain ⟨stack, shown, stepped⟩ :=
    there enciphering [0x3000, 7, 0x1000] rfl (by decide) rfl rfl
  obtain ⟨-, both, -, next, -⟩ :=
    either 0x1003 [] (by rwa [behind]) (by rwa [start, size, behind])
  have again : (enciphering.skip 1).opcode? = some (.builtin .encrypt) := by decide
  obtain ⟨emptied, -, steppedBack⟩ :=
    back { enciphering with
      pc := enciphering.pc + 1
      stack := stack
      device := { enciphering.device with ram := after } } [] rfl again rfl shown
  refine ⟨_, _, stepped, steppedBack, ?_, shown, rfl, both, next⟩
  have fourth := bytes 3 (by rw [size]; decide)
  rwa [start] at fourth

end Handheld
