import Handheld.Proofs.Memory.Ranges

namespace Handheld

/-!
# Strings in memory

A string is a run of bytes without NUL that is followed by a NUL, all of it inside
the address space. A search for a byte stops at the first place that holds it or a
NUL, so reading a string finds the one that lies at the address. A string stored
right behind bytes without NUL makes one string together with them.
-/

namespace Ram

/-- A text lies in memory from an address on, and a NUL right behind it. -/
structure HoldsString
    (ram : Ram)
    (address : Nat)
    (text : List UInt8) : Prop where
  fits : address + text.length < capacity
  bytes : ram.bytes address text.length = text
  nul : ram.byte (address + text.length) = 0
  noNul : 0 ∉ text

section Reading

variable
  {ram : Ram}
  {address count : Nat}

/-- A search finds the first place that holds what is wanted or a NUL. -/
theorem find?_eq_some_iff
    {wanted : UInt8}
    {found : Nat} :
    ram.find? wanted address count = some found ↔
      (address ≤ found ∧ found < address + count) ∧
        (ram.byte found = wanted ∨ ram.byte found = 0) ∧
        ∀ earlier,
          address ≤ earlier →
          earlier < found →
          ram.byte earlier ≠ wanted ∧ ram.byte earlier ≠ 0 := by
  induction count generalizing address with
  | zero =>
      rw [find?]
      constructor
      · intro found
        cases found
      · rintro ⟨⟨atLeast, below⟩, -⟩
        omega
  | succ rest inductionHypothesis =>
      rw [find?]
      split
      case isTrue here =>
        constructor
        · intro same
          obtain rfl := Option.some.inj same
          exact ⟨⟨Nat.le_refl _, by omega⟩, here, fun earlier _ _ => by omega⟩
        · rintro ⟨⟨atLeast, -⟩, -, first⟩
          rcases Nat.eq_or_lt_of_le atLeast with same | later
          · rw [same]
          · obtain ⟨notWanted, notNul⟩ := first address (Nat.le_refl _) later
            exact (here.elim notWanted notNul).elim
      case isFalse other =>
        obtain ⟨notWanted, notNul⟩ := not_or.mp other
        rw [inductionHypothesis]
        constructor
        · rintro ⟨⟨atLeast, below⟩, stops, first⟩
          refine ⟨⟨by omega, by omega⟩, stops, ?_⟩
          intro earlier low high
          rcases Nat.eq_or_lt_of_le low with same | later
          · rw [← same]
            exact ⟨notWanted, notNul⟩
          · exact first earlier later high
        · rintro ⟨⟨atLeast, below⟩, stops, first⟩
          have elsewhere : address ≠ found := by
            rintro rfl
            exact other stops
          refine ⟨⟨by omega, by omega⟩, stops, ?_⟩
          intro earlier low high
          exact first earlier (by omega) high

/-- Before the end of a string no byte is NUL. -/
theorem HoldsString.byte_ne_zero
    {text : List UInt8}
    (holds : ram.HoldsString address text)
    {offset : Nat}
    (near : offset < text.length) :
    ram.byte (address + offset) ≠ 0 := by
  have here : (ram.bytes address text.length)[offset]? = some (ram.byte (address + offset)) :=
    getElem?_bytes near
  rw [holds.bytes] at here
  intro nul
  rw [nul] at here
  exact holds.noNul (List.mem_of_getElem? here)

/-- Reading a string gives the one that lies at the address. -/
theorem string?_eq_some_iff {text : List UInt8} :
    ram.string? address = some text ↔ ram.HoldsString address text := by
  unfold string? stringBefore?
  rw [Option.map_eq_some_iff]
  constructor
  · rintro ⟨stop, found, rfl⟩
    obtain ⟨⟨atLeast, below⟩, stops, first⟩ := find?_eq_some_iff.mp found
    have length : (ram.bytes address (stop - address)).length = stop - address := length_bytes _ _ _
    have last : address + (stop - address) = stop := Nat.add_sub_cancel' atLeast
    constructor
    · rw [length]
      omega
    · rw [length]
    · rw [length, last]
      exact stops.elim id id
    · intro member
      obtain ⟨offset, inside, nul⟩ := List.getElem_of_mem member
      have near : offset < stop - address := by rwa [length] at inside
      have here :
          (ram.bytes address (stop - address))[offset]? = some (ram.byte (address + offset)) :=
        getElem?_bytes near
      rw [List.getElem?_eq_getElem inside, nul] at here
      exact (first (address + offset) (by omega) (by omega)).1 (Option.some.inj here).symm
  · intro holds
    have fits := holds.fits
    refine ⟨address + text.length, ?_, by rw [Nat.add_sub_cancel_left, holds.bytes]⟩
    refine find?_eq_some_iff.mpr ⟨⟨by omega, by omega⟩, .inl holds.nul, ?_⟩
    intro earlier low high
    obtain ⟨offset, rfl⟩ := Nat.exists_eq_add_of_le low
    have notNul := holds.byte_ne_zero (Nat.lt_of_add_lt_add_left high)
    exact ⟨notNul, notNul⟩

end Reading

section Storing

variable
  {ram : Ram}
  {address : Nat}
  {front text : List UInt8}

/-- A string is stored in its own bytes and that of its NUL. -/
theorem sameOutside_writeString
    (fits : address + text.length < capacity) :
    SameOutside address (text.length + 1) ram (ram.writeString address text) :=
  ram.sameOutside_write fits (Nat.le_of_eq List.length_append)

/-- A string stored behind bytes without NUL ends the string that starts with them. -/
theorem holdsString_writeString
    (behind : ram.bytes address front.length = front)
    (fits : address + (front ++ text).length < capacity)
    (noNul : 0 ∉ front ++ text) :
    (ram.writeString (address + front.length) text).HoldsString address (front ++ text) := by
  rw [List.length_append] at fits
  have length : (text ++ [0]).length = text.length + 1 := List.length_append
  have written :
      (ram.writeString (address + front.length) text).bytes (address + front.length)
          (text.length + 1) =
        text ++ [0] := by
    rw [← length]
    exact bytes_write (by omega)
  have kept :
      (ram.writeString (address + front.length) text).bytes address front.length = front := by
    have same : SameOutside (address + front.length) (text.length + 1) ram
        (ram.writeString (address + front.length) text) :=
      sameOutside_writeString (by omega)
    rw [same.bytes_eq (by omega) (.inl (Nat.le_refl _)), behind]
  rw [bytes_add] at written
  obtain ⟨texts, nuls⟩ := List.append_inj written (length_bytes _ _ _)
  constructor
  · rw [List.length_append]
    exact fits
  · rw [List.length_append, bytes_add, kept, texts]
  · rw [List.length_append, ← Nat.add_assoc]
    exact List.singleton_inj.mp nuls
  · exact noNul

/-- Memory holds the string that was stored in it. -/
theorem holdsString_written
    (fits : address + text.length < capacity)
    (noNul : 0 ∉ text) :
    (ram.writeString address text).HoldsString address text :=
  holdsString_writeString (show ram.bytes address [].length = [] from rfl) fits noNul

/-- A string that lies apart from what changes stays. -/
theorem HoldsString.of_sameOutside
    {after : Ram}
    {start size : Nat}
    (holds : ram.HoldsString address text)
    (same : SameOutside start size ram after)
    (apart : address + text.length < start ∨ start + size ≤ address) :
    after.HoldsString address text where
  fits := holds.fits
  bytes := by
    have fits := holds.fits
    rw [same.bytes_eq (by omega) (by omega), holds.bytes]
  nul := by
    rw [same _ holds.fits (by omega), holds.nul]
  noNul := holds.noNul

end Storing

end Ram

end Handheld
