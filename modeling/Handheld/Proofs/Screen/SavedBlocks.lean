import Handheld.Proofs.Memory.Ranges
import Handheld.Proofs.Screen.BlitPixels

namespace Handheld

/-!
# Saved blocks are restored

Saving a block and drawing one cut it to the screen in different ways: what is
saved from outside the screen is zero, and what would be drawn there is left out.
Both put the bytes of a block into the same order, so a saved block that is drawn
where it came from restores what was there.
-/

namespace Ram

/-- What is stored outside a bitmap does not change its bytes. -/
theorem bitmapByte_setByte
    {base : Nat}
    (fits : base + Screen.bitmapBytes ≤ capacity)
    (ram : Ram)
    {address : Nat}
    (value : UInt8)
    (inside : address < capacity)
    (apart : address < base ∨ base + Screen.bitmapBytes ≤ address)
    (row column : Int) :
    (ram.setByte address value).bitmapByte base row column = ram.bitmapByte base row column := by
  unfold bitmapByte
  split
  · rename_i onScreen
    have near :
        row.toNat * Screen.rowBytes + column.toNat < Screen.bitmapBytes := by
      unfold Screen.rowBytes Screen.height Screen.bitmapBytes at *
      omega
    rw [byte_setByte_of_lt ram value inside (by omega), if_neg (by omega)]
  · rfl

/-- The bit of a byte of a bitmap is the pixel there. -/
theorem bitAt_bitmapByte
    (ram : Ram)
    (base : Nat)
    {px py : Nat}
    (insidePx : px < Screen.width)
    (insidePy : py < Screen.height) :
    Bits.bitAt (ram.bitmapByte base py (px / 8 : Nat)) (px % 8) = ram.pixel base px py := by
  have onScreen :
      0 ≤ (py : Int) ∧ (py : Int) < Screen.height ∧
        0 ≤ ((px / 8 : Nat) : Int) ∧ ((px / 8 : Nat) : Int) < Screen.rowBytes := by
    unfold Screen.width at insidePx
    unfold Screen.rowBytes
    omega
  rw [bitmapByte, if_pos onScreen, Int.toNat_natCast, Int.toNat_natCast, pixel_eq_bitAt,
    Screen.pixelAddress]

section Saving

variable
  {base : Nat}
  (fits : base + Screen.bitmapBytes ≤ capacity)
  (ram : Ram)
  (row column : Int)

include fits

/-- The bytes of a block are saved row by row. -/
theorem byte_saveBytes
    (columns : Nat)
    {address index count read : Nat}
    (inMemory : address + (index + count) ≤ capacity)
    (apart : address + (index + count) ≤ base ∨ base + Screen.bitmapBytes ≤ address + index)
    (inside : read < capacity) :
    (ram.saveBytes base row column columns address index count).byte read =
      if address + index ≤ read ∧ read < address + (index + count) then
        ram.bitmapByte base (row + ((read - address) / columns : Nat))
          (column + ((read - address) % columns : Nat))
      else
        ram.byte read := by
  induction count generalizing ram index with
  | zero => rw [saveBytes, if_neg (by omega)]
  | succ rest inductionHypothesis =>
      have here : address + index < capacity := by omega
      rw [saveBytes, inductionHypothesis _ (by omega) (by omega),
        bitmapByte_setByte fits ram _ here (by omega), byte_setByte_of_lt ram _ here inside]
      by_cases later : address + (index + 1) ≤ read ∧ read < address + (index + 1 + rest)
      · rw [if_pos later, if_pos (by omega)]
      · rw [if_neg later]
        by_cases now : address + index = read
        · have same : read - address = index := by omega
          rw [if_pos now, if_pos (by omega), same]
        · rw [if_neg now, if_neg (by omega)]

/-- A saved block holds the bytes of its rows one row after the other. -/
theorem byte_savedBlock
    {columns lines address : Nat}
    (inMemory : address + lines * columns ≤ capacity)
    (apart : address + lines * columns ≤ base ∨ base + Screen.bitmapBytes ≤ address)
    (line byte : Nat)
    (insideLine : line < lines)
    (insideByte : byte < columns) :
    address + (columns * line + byte) < address + lines * columns ∧
      (ram.saveBytes base row column columns address 0 (lines * columns)).byte
          (address + (columns * line + byte)) =
        ram.bitmapByte base (row + line) (column + byte) := by
  have bound : columns * line + byte < lines * columns := by
    have whole : (line + 1) * columns ≤ lines * columns := Nat.mul_le_mul_right _ insideLine
    rw [Nat.add_mul, Nat.one_mul, Nat.mul_comm line] at whole
    omega
  have number : address + (columns * line + byte) - address = columns * line + byte := by omega
  have quotient : (columns * line + byte) / columns = line := by
    rw [Nat.mul_add_div (by omega), Nat.div_eq_of_lt insideByte, Nat.add_zero]
  have remainder : (columns * line + byte) % columns = byte := by
    rw [Nat.mul_add_mod, Nat.mod_eq_of_lt insideByte]
  refine ⟨by omega, ?_⟩
  rw [byte_saveBytes fits ram row column columns (by omega) (by omega) (by omega),
    if_pos (by omega), number, quotient, remainder]

end Saving

/--
A saved block is restored.

A block is saved by whole bytes, so its left side and width are rounded down to
multiples of eight. After any change to the bitmap the saved bytes are drawn as
an image where they came from. Then every pixel of the block that is on the
screen is as it was at the save, and all others are as the change left them. The
block may lie over any side of the screen or outside of it; the saved bytes must
lie in memory and outside the bitmap.
-/
theorem saved_block_restored
    (target : Target)
    (ram changed : Ram)
    (x y width height : Int)
    (address : Nat)
    (inMemory : address + height.toNat * (width / 8).toNat ≤ capacity)
    (apart :
      address + height.toNat * (width / 8).toNat ≤ target.base ∨
        target.base + Screen.bitmapBytes ≤ address)
    (inBitmap :
      SameOutside target.base Screen.bitmapBytes
        (ram.saveBlock target.base x y width height address) changed) :
    Shows target.base changed
      (changed.blit target.base (8 * (x / 8)) y (8 * (width / 8)) height .memory address
        { combination := .copy })
      (fun px py =>
        if 8 * (x / 8) ≤ px ∧ px < 8 * (x / 8) + 8 * (width / 8) ∧ y ≤ py ∧ py < y + height then
          ram.pixel target.base px py
        else
          changed.pixel target.base px py) := by
  have fits := target.base_le
  have stride : ((8 * (width / 8) + 7) / 8).toNat = (width / 8).toNat := by omega
  refine { outside := sameOutside_blit fits _ changed _ _ _ _ _ _, pixel := ?_ }
  intro px insidePx py insidePy
  -- The byte of the image that a pixel of the block comes from.
  have saved (covered :
      8 * (x / 8) ≤ px ∧ px < 8 * (x / 8) + 8 * (width / 8) ∧ y ≤ py ∧ py < y + height) :=
    byte_savedBlock fits ram y (x / 8) inMemory apart (py - y).toNat
      ((px - 8 * (x / 8)).toNat / 8) (by omega) (by omega)
  rw [pixel_blit fits _ insidePx insidePy changed, stride]
  · split
    · rename_i covered
      obtain ⟨near, read⟩ := saved covered
      have row : y + (py - y).toNat = py := by omega
      have column : x / 8 + ((px - 8 * (x / 8)).toNat / 8 : Nat) = (px / 8 : Nat) := by omega
      have place : (px - 8 * (x / 8)).toNat % 8 = px % 8 := by omega
      rw [row, column] at read
      calc
        _ = Bits.bitAt (changed.byte (address + ((width / 8).toNat * (py - y).toNat +
              (px - 8 * (x / 8)).toNat / 8))) ((px - 8 * (x / 8)).toNat % 8) := rfl
        _ = Bits.bitAt (ram.bitmapByte target.base py (px / 8 : Nat)) (px % 8) := by
            rw [inBitmap _ (by omega) (by omega), place, ← read]
            rfl
        _ = ram.pixel target.base px py := ram.bitAt_bitmapByte target.base insidePx insidePy
    · rfl
  · intro covered
    obtain ⟨near, -⟩ := saved covered
    rw [stride]
    apply ImageSource.steady_of_not_liesIn
    rw [ImageSource.LiesIn, Nat.mod_eq_of_lt (by omega)]
    omega

/-- A block over the top left corner is drawn again after the bitmap was cleared. -/
theorem corner_block_restored :
    let ram := Ram.blank.setByte 0x114 0x10
    let saved := ram.saveBlock Target.graphics.base (-5) (-1) 17 3 0x2000
    let cleared := saved.clearBitmap Target.graphics.base
    (cleared.blit Target.graphics.base (-8) (-1) 16 3 .memory 0x2000
      { combination := .copy }).pixel Target.graphics.base 3 1 = true := by
  intro ram saved cleared
  have restored :=
    saved_block_restored .graphics ram cleared (-5) (-1) 17 3 0x2000 (by decide) (by decide)
      (sameOutside_clearBitmap Target.graphics.base_le saved)
  have lit : ram.byte 0x114 = 0x10 := by
    rw [byte_setByte, if_pos rfl]
  calc
    _ = ram.pixel Target.graphics.base 3 1 := restored.pixel 3 (by decide) 1 (by decide)
    _ = Bits.bitAt (ram.byte 0x114) 3 := pixel_eq_bitAt ram _ 3 1
    _ = true := by
      rw [lit]
      decide

end Ram

end Handheld
