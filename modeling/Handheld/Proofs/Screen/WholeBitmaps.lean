import Handheld.Proofs.Screen.Pixels

namespace Handheld

/-!
# Scrolling and mirroring

A bitmap is moved as a whole, which shifts or reverses its rows of bytes or puts
them in the opposite order. On pixels this is a map of the screen: every pixel takes the value of one
other, and a column that is left behind is cleared. The laws of scrolling and
mirroring are those of the maps.
-/

namespace Bits

/-- The place with which a place changes when neighbouring groups of bits are exchanged. -/
def neighbour
    (count place : Nat) :
    Nat :=
  if count ≤ place % (2 * count) then place - count else place + count

/-- Neighbouring groups of one, two or four bits change places. -/
theorem bitAt_exchange
    {mask : UInt8}
    {count : Nat}
    (group : count = 1 ∨ count = 2 ∨ count = 4)
    (right : ∀ place < 8, bitAt mask place = decide (count ≤ place % (2 * count)))
    (byte : UInt8)
    {place : Nat}
    (inside : place < 8) :
    bitAt (exchange mask (UInt8.ofNat count) byte) place = bitAt byte (neighbour count place) := by
  have small : count < 8 := by omega
  rw [exchange, bitAt_or, bitAt_and, bitAt_shiftRight _ small inside, bitAt_shiftLeft _ small,
    bitAt_and, right place inside, neighbour]
  by_cases onRight : count ≤ place % (2 * count)
  · have behind : ¬ place < count := by
      rcases group with rfl | rfl | rfl <;> omega
    -- What moves left into this place comes from a left group, and the mask drops it.
    have fromRight : (bitAt byte (place + count) && bitAt mask (place + count)) = false := by
      by_cases within : place + count < 8
      · have onLeft : ¬ count ≤ (place + count) % (2 * count) := by
          rcases group with rfl | rfl | rfl <;> omega
        rw [right _ within, decide_eq_false onLeft, Bool.and_false]
      · rw [bitAt_of_ge _ (by omega), Bool.false_and]
    rw [if_pos onRight, if_neg behind, fromRight, decide_eq_true onRight, Bool.and_true,
      Bool.or_false]
  · have within : place + count < 8 ∧ count ≤ (place + count) % (2 * count) := by
      rcases group with rfl | rfl | rfl <;> omega
    rw [if_neg onRight, decide_eq_false onRight, Bool.and_false, Bool.false_or,
      right _ within.1, decide_eq_true within.2, Bool.and_true]

/-- A reversed byte has the bits of the byte from the other side. -/
theorem bitAt_reverseByte
    (byte : UInt8)
    {place : Nat}
    (inside : place < 8) :
    bitAt (reverseByte byte) place = bitAt byte (7 - place) := by
  have places :
      ∀ place < 8,
        neighbour 1 place < 8 ∧ neighbour 2 (neighbour 1 place) < 8 ∧
          neighbour 4 (neighbour 2 (neighbour 1 place)) = 7 - place := by
    decide
  obtain ⟨first, second, all⟩ := places place inside
  calc
    bitAt (reverseByte byte) place
      = bitAt (exchange 0x33 2 (exchange 0x0f 4 byte)) (neighbour 1 place) :=
        bitAt_exchange (by decide) (by decide) _ inside
    _ = bitAt (exchange 0x0f 4 byte) (neighbour 2 (neighbour 1 place)) :=
        bitAt_exchange (by decide) (by decide) _ first
    _ = bitAt byte (neighbour 4 (neighbour 2 (neighbour 1 place))) :=
        bitAt_exchange (by decide) (by decide) _ second
    _ = bitAt byte (7 - place) := by rw [all]

/-- A row whose bytes are reversed in themselves and in their order is read from the other side. -/
theorem bit_reverse
    (row : List UInt8)
    {index : Nat}
    (inside : index < 8 * row.length) :
    bit (row.reverse.map reverseByte) index = bit row (8 * row.length - 1 - index) := by
  have byteInside : index / 8 < row.length := by omega
  have placeInside : index % 8 < 8 := Nat.mod_lt _ (by decide)
  have quotient : (8 * row.length - 1 - index) / 8 = row.length - 1 - index / 8 := by omega
  have remainder : (8 * row.length - 1 - index) % 8 = 7 - index % 8 := by omega
  have found :
      (row.reverse.map reverseByte).getD (index / 8) 0 =
        reverseByte (row.getD (row.length - 1 - index / 8) 0) := by
    have there : row.length - 1 - index / 8 < row.length := by omega
    rw [List.getD_eq_getElem?_getD, List.getElem?_map, List.getElem?_reverse byteInside]
    simp [there]
  rw [bit, found, bitAt_reverseByte _ placeInside, bit, quotient, remainder]

end Bits

namespace Ram

/-- A row of the bitmap has as many bits as the screen has columns. -/
theorem width_bitmapRow
    (ram : Ram)
    (base py : Nat) :
    8 * (ram.bitmapRow base py).length = Screen.width := by
  rw [bitmapRow, length_bytes]
  rfl

/-- The bits of a row of a bitmap are its pixels. -/
theorem bit_bitmapRow
    (ram : Ram)
    (base py : Nat)
    {px : Nat}
    (insidePx : px < Screen.width) :
    Bits.bit (ram.bitmapRow base py) px = ram.pixel base px py := by
  have byteInside : px / 8 < Screen.rowBytes := by
    unfold Screen.width at insidePx
    unfold Screen.rowBytes
    omega
  have found :
      (ram.bitmapRow base py).getD (px / 8) 0 = ram.byte (Screen.pixelAddress base px py) := by
    simp [bitmapRow, bytes, byteInside, Screen.pixelAddress]
  rw [Bits.bit, found, pixel_eq_bitAt]

section Rows

variable
  {base : Nat}
  (fits : base + Screen.bitmapBytes ≤ capacity)
  (ram : Ram)

include fits

/-- A bitmap shows the bits of the rows that are stored in it. -/
theorem shows_setBitmapRows
    {rows : List (List UInt8)}
    (tall : rows.length = Screen.height)
    (wide : ∀ row ∈ rows, row.length = Screen.rowBytes) :
    Shows base ram (ram.setBitmapRows base rows) fun px py => Bits.bit (rows.getD py []) px where
  outside := sameOutside_setBitmapRows fits ram tall wide
  pixel := by
    intro px insidePx py insidePy
    have column : px / 8 < Screen.rowBytes := by
      unfold Screen.width at insidePx
      unfold Screen.rowBytes
      omega
    have size : rows.flatten.length ≤ capacity := by
      rw [length_flatten_rows tall wide]
      decide
    have place :
        distance base (Screen.pixelAddress base px py) = py * Screen.rowBytes + px / 8 := by
      have bounds := Screen.pixelAddress_bounds base insidePx insidePy
      unfold distance Screen.pixelAddress capacity at *
      omega
    have there : py < rows.length := tall ▸ insidePy
    have row : rows.getD py [] = rows[py] := by simp [there]
    have byteThere : px / 8 < rows[py].length := by
      rw [wide _ (List.getElem_mem there)]
      exact column
    rw [pixel_eq_bitAt, setBitmapRows, byte_write ram _ _ _ size, place,
      getElem?_flatten_rows wide column, row, Bits.bit, List.getD_eq_getElem?_getD,
      List.getElem?_eq_getElem byteThere, Option.getD_some, Option.getD_some]

/-- Every row of a bitmap is changed in the same way. -/
theorem shows_mapRows
    {change : List UInt8 → List UInt8}
    (keeps : ∀ row, (change row).length = row.length) :
    Shows base ram (ram.setBitmapRows base ((ram.bitmapRows base).map change)) fun px py =>
      Bits.bit (change (ram.bitmapRow base py)) px := by
  have tall : ((ram.bitmapRows base).map change).length = Screen.height := by
    rw [List.length_map, length_bitmapRows]
  have wide : ∀ row ∈ (ram.bitmapRows base).map change, row.length = Screen.rowBytes := by
    intro row member
    obtain ⟨before, there, rfl⟩ := List.mem_map.mp member
    rw [keeps, length_of_mem_bitmapRows there]
  refine (shows_setBitmapRows fits ram tall wide).congr ?_
  intro px _ py insidePy
  simp [bitmapRows, bitmapRow, insidePy]

/-- Scrolling to the left, each pixel takes over the one on its right. -/
theorem shows_scroll_left :
    Shows base ram (ram.scrollBitmap base .left) fun px py =>
      decide (px + 1 < Screen.width) && ram.pixel base (px + 1) py := by
  rw [scrollBitmap_eq ram fits]
  refine (shows_mapRows fits ram (Bits.length_shift 1)).congr ?_
  intro px insidePx py _
  have width := ram.width_bitmapRow base py
  have right : ((px : Int) + 1).toNat = px + 1 := rfl
  rw [Bits.bit_shift (by decide) (by decide) _ (by omega), if_pos (by omega), right]
  by_cases inside : px + 1 < Screen.width
  · rw [bit_bitmapRow ram base py inside, decide_eq_true inside, Bool.true_and]
  · rw [Bits.bit_of_ge (by omega), decide_eq_false inside, Bool.false_and]

/-- Scrolling to the right, each pixel takes over the one on its left. -/
theorem shows_scroll_right :
    Shows base ram (ram.scrollBitmap base .right) fun px py =>
      decide (0 < px) && ram.pixel base (px - 1) py := by
  rw [scrollBitmap_eq ram fits]
  refine (shows_mapRows fits ram (Bits.length_shift (-1))).congr ?_
  intro px insidePx py _
  have width := ram.width_bitmapRow base py
  rw [Bits.bit_shift (by decide) (by decide) _ (by omega)]
  by_cases inside : 0 < px
  · have left : ((px : Int) + -1).toNat = px - 1 := by omega
    rw [if_pos (by omega), left, bit_bitmapRow ram base py (by omega), decide_eq_true inside,
      Bool.true_and]
  · rw [if_neg (by omega), decide_eq_false inside, Bool.false_and]

/-- Mirroring left and right, each pixel takes over the one that far from the other side. -/
theorem shows_mirror_horizontal :
    Shows base ram (ram.mirrorBitmap base .horizontal) fun px py =>
      ram.pixel base (Screen.width - 1 - px) py := by
  have keeps (row : List UInt8) : (row.reverse.map Bits.reverseByte).length = row.length := by
    rw [List.length_map, List.length_reverse]
  rw [mirrorBitmap_eq ram fits]
  refine (shows_mapRows fits ram keeps).congr ?_
  intro px insidePx py _
  have width := ram.width_bitmapRow base py
  rw [Bits.bit_reverse _ (by omega), width, bit_bitmapRow ram base py (by omega)]

/-- Mirroring top and bottom, each pixel takes over the one that far from the other end. -/
theorem shows_mirror_vertical :
    Shows base ram (ram.mirrorBitmap base .vertical) fun px py =>
      ram.pixel base px (Screen.height - 1 - py) := by
  have tall : (ram.bitmapRows base).reverse.length = Screen.height := by
    rw [List.length_reverse, length_bitmapRows]
  have wide : ∀ row ∈ (ram.bitmapRows base).reverse, row.length = Screen.rowBytes :=
    fun row member => length_of_mem_bitmapRows (List.mem_reverse.mp member)
  rw [mirrorBitmap_eq ram fits]
  refine (shows_setBitmapRows fits ram tall wide).congr ?_
  intro px insidePx py insidePy
  rw [getD_reverse_bitmapRows ram base insidePy, bit_bitmapRow ram base _ insidePx]

/-- Mirrored twice, a bitmap is as it was. -/
theorem mirrorBitmap_mirrorBitmap (direction : MirrorDirection) :
    (ram.mirrorBitmap base direction).mirrorBitmap base direction = ram := by
  refine Shows.unique ?_ (.refl base ram)
  cases direction with
  | horizontal =>
      have once := shows_mirror_horizontal fits ram
      refine (once.trans (shows_mirror_horizontal fits _)).congr ?_
      intro px insidePx py insidePy
      have back : Screen.width - 1 - (Screen.width - 1 - px) = px := by omega
      rw [once.pixel _ (by omega) py insidePy, back]
  | vertical =>
      have once := shows_mirror_vertical fits ram
      refine (once.trans (shows_mirror_vertical fits _)).congr ?_
      intro px insidePx py insidePy
      have back : Screen.height - 1 - (Screen.height - 1 - py) = py := by omega
      rw [once.pixel px insidePx _ (by omega), back]

/-- The two ways to mirror can be taken in either order. -/
theorem mirrorBitmap_comm :
    (ram.mirrorBitmap base .horizontal).mirrorBitmap base .vertical =
      (ram.mirrorBitmap base .vertical).mirrorBitmap base .horizontal := by
  have across := shows_mirror_horizontal fits ram
  have down := shows_mirror_vertical fits ram
  refine ((across.trans (shows_mirror_vertical fits _)).congr ?_).unique
    (down.trans (shows_mirror_horizontal fits _))
  intro px insidePx py insidePy
  rw [across.pixel px insidePx _ (by omega), down.pixel _ (by omega) py insidePy]

/-- Seen in a mirror, scrolling to the left is scrolling to the right. -/
theorem mirrored_scroll_left :
    ((ram.mirrorBitmap base .horizontal).scrollBitmap base .left).mirrorBitmap base .horizontal =
      ram.scrollBitmap base .right := by
  have mirrored := shows_mirror_horizontal fits ram
  have scrolled := shows_scroll_left fits (ram.mirrorBitmap base .horizontal)
  have moved := (mirrored.trans scrolled).trans (shows_mirror_horizontal fits _)
  refine (moved.congr ?_).unique (shows_scroll_right fits ram)
  intro px insidePx py insidePy
  rw [scrolled.pixel _ (by omega) py insidePy]
  by_cases inside : 0 < px
  · have left : Screen.width - 1 - (Screen.width - 1 - px + 1) = px - 1 := by omega
    rw [mirrored.pixel _ (by omega) py insidePy, left, decide_eq_true inside,
      decide_eq_true (by omega)]
  · rw [decide_eq_false inside, decide_eq_false (by omega), Bool.false_and, Bool.false_and]

end Rows

/--
Scrolling and mirroring are maps of the screen.

Scrolled to a side, a bitmap shows every pixel one column further, and the column
it left is clear. Mirrored, it shows every pixel as far from the opposite side or
end. Nothing outside the bitmap changes. So mirroring twice in the same way
restores the bitmap, the order of the two ways makes no difference, and between
two mirrorings scrolling goes to the other side.
-/
theorem bitmap_moves_exact
    (target : Target)
    (ram : Ram) :
    let base := target.base
    Shows base ram (ram.scrollBitmap base .left)
      (fun px py => decide (px + 1 < Screen.width) && ram.pixel base (px + 1) py) ∧
    Shows base ram (ram.scrollBitmap base .right)
      (fun px py => decide (0 < px) && ram.pixel base (px - 1) py) ∧
    Shows base ram (ram.mirrorBitmap base .horizontal)
      (fun px py => ram.pixel base (Screen.width - 1 - px) py) ∧
    Shows base ram (ram.mirrorBitmap base .vertical)
      (fun px py => ram.pixel base px (Screen.height - 1 - py)) ∧
    (∀ direction, (ram.mirrorBitmap base direction).mirrorBitmap base direction = ram) ∧
    (ram.mirrorBitmap base .horizontal).mirrorBitmap base .vertical =
      (ram.mirrorBitmap base .vertical).mirrorBitmap base .horizontal ∧
    ((ram.mirrorBitmap base .horizontal).scrollBitmap base .left).mirrorBitmap base .horizontal =
      ram.scrollBitmap base .right := by
  intro base
  have fits := target.base_le
  exact ⟨shows_scroll_left fits ram, shows_scroll_right fits ram,
    shows_mirror_horizontal fits ram, shows_mirror_vertical fits ram,
    mirrorBitmap_mirrorBitmap fits ram, mirrorBitmap_comm fits ram, mirrored_scroll_left fits ram⟩

end Ram

end Handheld
