import Handheld.Proofs.Screen.Pixels

namespace Handheld

/-!
# Pixels of drawn blocks

An image drawn at a place shows, on every pixel of the screen that it covers,
the combination of its own pixel with what was there. This holds however the
image lies to the bytes of the bitmap and however much of it is cut off, as long
as the image is not read from the bitmap that is drawn on.
-/

namespace ImageSource

/-- The byte of an image at an address. -/
def byte
    (source : ImageSource)
    (ram : Ram)
    (address : Nat) :
    UInt8 :=
  match source with
  | .memory => ram.byte address
  | .font table => table.byte address

/-- The pixel of an image whose rows are `stride` bytes apart. -/
def pixel
    (source : ImageSource)
    (ram : Ram)
    (address stride column row : Nat) :
    Bool :=
  Bits.bitAt (source.byte ram (address + (stride * row + column / 8))) (column % 8)

/-- Drawing on a bitmap does not change a byte of an image. -/
def Steady
    (source : ImageSource)
    (base address : Nat) :
    Prop :=
  ∀ before after,
    Ram.SameOutside base Screen.bitmapBytes before after →
    source.byte after address = source.byte before address

/-- Glyphs do not lie in memory. -/
theorem steady_font
    (table : FontTable)
    (base address : Nat) :
    (ImageSource.font table).Steady base address :=
  fun _ _ _ => rfl

/-- Whether a byte of an image lies in a bitmap. -/
def LiesIn
    (source : ImageSource)
    (base address : Nat) :
    Prop :=
  match source with
  | .memory =>
      base ≤ address % Ram.capacity ∧ address % Ram.capacity < base + Screen.bitmapBytes
  | .font _ => False

/-- A byte that does not lie in a bitmap is not changed by drawing on it. -/
theorem steady_of_not_liesIn
    {source : ImageSource}
    {base address : Nat}
    (elsewhere : ¬ source.LiesIn base address) :
    source.Steady base address := by
  intro before after same
  cases source with
  | font table => exact steady_font table base address before after same
  | memory =>
      have inside : address % Ram.capacity < Ram.capacity := Nat.mod_lt _ (by decide)
      have outside :
          address % Ram.capacity < base ∨
            base + Screen.bitmapBytes ≤ address % Ram.capacity := by
        simp only [LiesIn] at elsewhere
        omega
      have kept := same _ inside outside
      rwa [Ram.byte_mod, Ram.byte_mod] at kept

/-- A source is read byte by byte. -/
theorem bytes_eq_map
    (source : ImageSource)
    (ram : Ram)
    (address length : Nat) :
    source.bytes ram address length = (List.range' address length).map (source.byte ram) := by
  cases source <;> rfl

/-- As many bytes are read from a source as are asked for. -/
theorem length_bytes
    (source : ImageSource)
    (ram : Ram)
    (address length : Nat) :
    (source.bytes ram address length).length = length := by
  rw [bytes_eq_map, List.length_map, List.length_range']

/-- The bits that are read from a source come before those of what follows. -/
theorem bit_bytes_append
    (source : ImageSource)
    (ram : Ram)
    (address : Nat)
    {length index : Nat}
    (rest : List UInt8)
    (inside : index < 8 * length) :
    Bits.bit (source.bytes ram address length ++ rest) index =
      Bits.bitAt (source.byte ram (address + index / 8)) (index % 8) := by
  have byteInside : index / 8 < length := by omega
  have found :
      (source.bytes ram address length ++ rest)[index / 8]? =
        some (source.byte ram (address + index / 8)) := by
    rw [List.getElem?_append_left (by rw [length_bytes]; exact byteInside), bytes_eq_map,
      List.getElem?_map, List.getElem?_range' byteInside, Option.map_some, Nat.one_mul]
  rw [Bits.bit, List.getD_eq_getElem?_getD, found, Option.getD_some]

end ImageSource

namespace BlitMode

/-- The pixel that results from a source pixel over one of the bitmap. -/
def combineBit
    (blit : BlitMode)
    (source dest : Bool) :
    Bool :=
  let shown := if blit.inverse then !source else source
  match blit.combination with
  | .copy => shown
  | .complement => !source
  | .disjunction => shown || dest
  | .conjunction => shown && dest
  | .difference => shown ^^ dest

/-- Bytes combine bit by bit. -/
theorem bitAt_combine
    (blit : BlitMode)
    (source dest : UInt8)
    {place : Nat}
    (inside : place < 8) :
    Bits.bitAt (blit.combine source dest) place =
      blit.combineBit (Bits.bitAt source place) (Bits.bitAt dest place) := by
  obtain ⟨combination, mirrored, inverse⟩ := blit
  cases combination <;> cases inverse <;> simp [combine, combineBit, Bits.bitAt_not _ inside]

end BlitMode

namespace Ram

/-- What a row of an image makes of the bytes it is drawn over. -/
theorem byte_blitBytes
    (ram : Ram)
    (mode : BlitMode)
    {address read : Nat}
    {sources keeps : List UInt8}
    (enough : keeps.length ≤ sources.length)
    (fits : address + keeps.length ≤ capacity)
    (inside : read < capacity) :
    (ram.blitBytes mode address sources keeps).byte read =
      if address ≤ read ∧ read < address + keeps.length then
        (ram.byte read &&& keeps.getD (read - address) 0) |||
          (mode.combine (sources.getD (read - address) 0) (ram.byte read) &&&
            ~~~(keeps.getD (read - address) 0))
      else
        ram.byte read := by
  induction keeps generalizing ram address sources with
  | nil =>
      rw [List.length_nil, if_neg (by omega)]
      cases sources <;> rfl
  | cons kept keeps inductionHypothesis =>
      cases sources with
      | nil => cases enough
      | cons source sources =>
          rw [List.length_cons] at enough fits ⊢
          rw [List.length_cons] at enough
          have writtenMod : address % 0x10000 = address :=
            Nat.mod_eq_of_lt (Nat.lt_of_lt_of_le (by omega) fits)
          have readMod : read % 0x10000 = read := Nat.mod_eq_of_lt inside
          rw [blitBytes, inductionHypothesis _ (by omega) (by omega), byte_setByte,
            writtenMod, readMod]
          by_cases here : address = read
          · rw [if_neg (by omega), if_pos here, if_pos (by omega), here, Nat.sub_self]
            rfl
          · rw [if_neg here]
            by_cases later : address + 1 ≤ read ∧ read < address + 1 + keeps.length
            · have next : read - address = read - (address + 1) + 1 := by omega
              rw [if_pos later, if_pos (by omega), next, List.getD_cons_succ,
                List.getD_cons_succ]
            · rw [if_neg later, if_neg (by omega)]

section Blocks

variable
  {base : Nat}
  (fits : base + Screen.bitmapBytes ≤ capacity)
  (mode : BlitMode)
  {px py : Nat}
  (insidePx : px < Screen.width)
  (insidePy : py < Screen.height)

include fits insidePx insidePy

/-- What a row of an image makes of the pixels it is drawn over. -/
theorem pixel_blitBytes
    (ram : Ram)
    {top column : Nat}
    {sources keeps : List UInt8}
    (enough : keeps.length ≤ sources.length)
    (insideY : top < Screen.height)
    (insideX : column + keeps.length ≤ Screen.rowBytes) :
    (ram.blitBytes mode (base + (top * Screen.rowBytes + column)) sources keeps).pixel base px py =
      if py = top ∧ 8 * column ≤ px ∧ px < 8 * (column + keeps.length) ∧
          Bits.bit keeps (px - 8 * column) = false then
        mode.combineBit (Bits.bit sources (px - 8 * column)) (ram.pixel base px py)
      else
        ram.pixel base px py := by
  have placeInside : px % 8 < 8 := Nat.mod_lt _ (by decide)
  have wanted := Screen.pixelAddress_bounds base insidePx insidePy
  have region : base + (top * Screen.rowBytes + column) + keeps.length ≤ capacity := by
    unfold Screen.rowBytes Screen.bitmapBytes Screen.height at *
    omega
  rw [pixel_eq_bitAt, pixel_eq_bitAt,
    byte_blitBytes ram mode enough region (Nat.lt_of_lt_of_le wanted.2 fits)]
  by_cases drawn : py = top ∧ 8 * column ≤ px ∧ px < 8 * (column + keeps.length)
  · obtain ⟨rfl, fromLeft, toRight⟩ := drawn
    have index :
        Screen.pixelAddress base px py - (base + (py * Screen.rowBytes + column)) =
          (px - 8 * column) / 8 := by
      unfold Screen.pixelAddress
      omega
    have place : px % 8 = (px - 8 * column) % 8 := by omega
    have within :
        base + (py * Screen.rowBytes + column) ≤ Screen.pixelAddress base px py ∧
          Screen.pixelAddress base px py <
            base + (py * Screen.rowBytes + column) + keeps.length := by
      unfold Screen.pixelAddress
      omega
    rw [if_pos within, index, Bits.bitAt_or, Bits.bitAt_and, Bits.bitAt_and,
      Bits.bitAt_not _ placeInside, mode.bitAt_combine _ _ placeInside]
    have keptBit :
        Bits.bitAt (keeps.getD ((px - 8 * column) / 8) 0) (px % 8) =
          Bits.bit keeps (px - 8 * column) := by
      rw [place]
      rfl
    have sourceBit :
        Bits.bitAt (sources.getD ((px - 8 * column) / 8) 0) (px % 8) =
          Bits.bit sources (px - 8 * column) := by
      rw [place]
      rfl
    rw [keptBit, sourceBit]
    cases Bits.bit keeps (px - 8 * column) with
    | true => rw [if_neg (by simp)]; simp
    | false => rw [if_pos ⟨rfl, fromLeft, toRight, rfl⟩]; simp
  · have without :
        ¬ (base + (top * Screen.rowBytes + column) ≤ Screen.pixelAddress base px py ∧
          Screen.pixelAddress base px py <
            base + (top * Screen.rowBytes + column) + keeps.length) := by
      unfold Screen.pixelAddress Screen.rowBytes Screen.width at *
      omega
    rw [if_neg without, if_neg fun all => drawn ⟨all.1, all.2.1, all.2.2.1⟩]

end Blocks

end Ram

namespace BlitPlan.Cuts

variable
  {plan : BlitPlan}
  {x y width height : Int}
  {left top cutLeft cutTop shown : Nat}
  (cuts : plan.Cuts x y width height left top cutLeft cutTop shown)

include cuts

/-- The kept bits of a row are those that the image does not cover. -/
theorem bit_kept
    {px : Nat}
    (fromLeft : 8 * (left / 8) ≤ px)
    (toRight : px < 8 * (left / 8 + plan.kept.length)) :
    Bits.bit plan.kept (px - 8 * (left / 8)) = false ↔ left ≤ px ∧ px < left + shown := by
  rw [cuts.length_kept] at toRight
  rw [cuts.kept, bit_keptBits (by omega) (by omega) (by omega)]
  simp only [Bool.or_eq_false_iff, decide_eq_false_iff_not]
  omega

/-- The bits that are drawn come from the image, past those cut off on its left. -/
theorem bit_shift
    (source : ImageSource)
    (ram : Ram)
    (address : Nat)
    {px : Nat}
    (fromLeft : left ≤ px)
    (toRight : px < left + shown) :
    Bits.bit (Bits.shift plan.shift (source.bytes ram address plan.count ++ [0]))
        (px - 8 * (left / 8)) =
      Bits.bitAt (source.byte ram (address + (px - left + cutLeft % 8) / 8))
        ((px - left + cutLeft % 8) % 8) := by
  have long : (source.bytes ram address plan.count ++ [0]).length = plan.count + 1 := by
    rw [List.length_append, source.length_bytes, List.length_singleton]
  have count := cuts.count
  have shift := cuts.shift
  have moved :
      ((px - 8 * (left / 8) : Nat) + plan.shift).toNat = px - left + cutLeft % 8 := by
    rw [shift]
    omega
  rw [Bits.bit_shift (by omega) (by omega) _ (by rw [long]; omega),
    if_pos (by omega), moved, source.bit_bytes_append ram address [0] (by omega)]

end BlitPlan.Cuts

namespace Ram

section Blocks

variable
  {base : Nat}
  (fits : base + Screen.bitmapBytes ≤ capacity)
  (mode : BlitMode)
  {px py : Nat}
  (insidePx : px < Screen.width)
  (insidePy : py < Screen.height)
  {plan : BlitPlan}
  {x y width height : Int}
  {left top cutLeft cutTop shown : Nat}
  (cuts : plan.Cuts x y width height left top cutLeft cutTop shown)

include fits insidePx insidePy cuts

/-- One row of an image on the pixels of the screen. -/
theorem pixel_blitRow
    (ram : Ram)
    (source : ImageSource)
    {imageAddress row : Nat}
    (insideY : row < Screen.height) :
    (ram.blitBytes mode (base + (row * Screen.rowBytes + left / 8))
        (Bits.shift plan.shift (source.bytes ram imageAddress plan.count ++ [0]))
        plan.kept).pixel base px py =
      if py = row ∧ left ≤ px ∧ px < left + shown then
        mode.combineBit
          (Bits.bitAt (source.byte ram (imageAddress + (px - left + cutLeft % 8) / 8))
            ((px - left + cutLeft % 8) % 8))
          (ram.pixel base px py)
      else
        ram.pixel base px py := by
  have enough :
      plan.kept.length ≤
        (Bits.shift plan.shift (source.bytes ram imageAddress plan.count ++ [0])).length := by
    rw [Bits.length_shift, List.length_append, source.length_bytes, List.length_singleton]
    exact cuts.length_kept_le
  rw [pixel_blitBytes fits mode insidePx insidePy ram enough insideY cuts.column_le]
  by_cases covered : py = row ∧ left ≤ px ∧ px < left + shown
  · obtain ⟨rfl, fromLeft, toRight⟩ := covered
    have length := cuts.length_kept
    have within :
        8 * (left / 8) ≤ px ∧ px < 8 * (left / 8 + plan.kept.length) := by
      omega
    have unkept := (cuts.bit_kept within.1 within.2).mpr ⟨fromLeft, toRight⟩
    rw [if_pos ⟨rfl, within.1, within.2, unkept⟩, if_pos ⟨rfl, fromLeft, toRight⟩,
      cuts.bit_shift source ram imageAddress fromLeft toRight]
  · rw [if_neg covered, if_neg]
    rintro ⟨sameRow, fromLeft, toRight, unkept⟩
    exact covered ⟨sameRow, (cuts.bit_kept fromLeft toRight).mp unkept⟩

/--
Rows drawn one below the other, on a pixel whose own byte of the image does not
change while the rows above it are drawn.
-/
theorem pixel_blitRows
    (ram : Ram)
    (source : ImageSource)
    {imageAddress row rows : Nat}
    (steady :
      (row ≤ py ∧ py < row + rows) ∧ left ≤ px ∧ px < left + shown →
      source.Steady base
        (imageAddress + (plan.stride * (py - row) + (px - left + cutLeft % 8) / 8)))
    (insideY : row + rows ≤ Screen.height) :
    (ram.blitRows source mode plan imageAddress
        (base + (row * Screen.rowBytes + left / 8)) rows).pixel base px py =
      if (row ≤ py ∧ py < row + rows) ∧ left ≤ px ∧ px < left + shown then
        mode.combineBit
          (Bits.bitAt
            (source.byte ram
              (imageAddress + (plan.stride * (py - row) + (px - left + cutLeft % 8) / 8)))
            ((px - left + cutLeft % 8) % 8))
          (ram.pixel base px py)
      else
        ram.pixel base px py := by
  induction rows generalizing ram imageAddress row with
  | zero => rw [blitRows, if_neg (by omega)]
  | succ rest inductionHypothesis =>
      have next :
          base + (row * Screen.rowBytes + left / 8) + Screen.rowBytes =
            base + ((row + 1) * Screen.rowBytes + left / 8) := by
        rw [Nat.add_mul]
        omega
      have nextImage :
          row + 1 ≤ py →
          imageAddress + plan.stride +
              (plan.stride * (py - (row + 1)) + (px - left + cutLeft % 8) / 8) =
            imageAddress + (plan.stride * (py - row) + (px - left + cutLeft % 8) / 8) := by
        intro below
        have down : py - row = py - (row + 1) + 1 := by omega
        rw [down, Nat.mul_add]
        omega
      have frame :
          SameOutside base Screen.bitmapBytes ram
            (ram.blitBytes mode (base + (row * Screen.rowBytes + left / 8))
              (Bits.shift plan.shift (source.bytes ram imageAddress plan.count ++ [0]))
              plan.kept) := by
        have columns := cuts.column_le
        apply sameOutside_blitBytes fits mode ram
        · omega
        · unfold Screen.rowBytes Screen.bitmapBytes Screen.height at *
          omega
      rw [blitRows, next, inductionHypothesis _ _ (by omega),
        pixel_blitRow fits mode insidePx insidePy cuts ram source (by omega)]
      · by_cases here : py = row ∧ left ≤ px ∧ px < left + shown
        · rw [if_neg (by omega), if_pos here, if_pos (by omega), here.1, Nat.sub_self,
            Nat.mul_zero, Nat.zero_add]
        · rw [if_neg here]
          by_cases later : (row + 1 ≤ py ∧ py < row + 1 + rest) ∧ left ≤ px ∧ px < left + shown
          · have covered : (row ≤ py ∧ py < row + (rest + 1)) ∧ left ≤ px ∧ px < left + shown := by
              omega
            rw [if_pos later, if_pos covered, nextImage later.1.1, steady covered _ _ frame]
          · rw [if_neg later, if_neg (by omega)]
      · intro later
        rw [nextImage later.1.1]
        exact steady (by omega)

end Blocks

/--
A block changes the pixels of the screen that it covers and no others. Each of
them becomes the combination of its old value with the pixel of the image, whose
byte must not change in the meantime.
-/
theorem pixel_blit
    {base : Nat}
    (fits : base + Screen.bitmapBytes ≤ capacity)
    (mode : BlitMode)
    {px py : Nat}
    (insidePx : px < Screen.width)
    (insidePy : py < Screen.height)
    (ram : Ram)
    {x y width height : Int}
    {source : ImageSource}
    {address : Nat}
    (steady :
      x ≤ px ∧ px < x + width ∧ y ≤ py ∧ py < y + height →
      source.Steady base
        (address + (((width + 7) / 8).toNat * (py - y).toNat + (px - x).toNat / 8))) :
    (ram.blit base x y width height source address mode).pixel base px py =
      if x ≤ px ∧ px < x + width ∧ y ≤ py ∧ py < y + height then
        mode.combineBit
          (source.pixel ram address ((width + 7) / 8).toNat (px - x).toNat (py - y).toNat)
          (ram.pixel base px py)
      else
        ram.pixel base px py := by
  unfold blit
  split
  · rename_i missed
    rw [if_neg (BlitPlan.not_covered_of_make?_eq_none missed insidePx insidePy)]
  · rename_i plan made
    obtain ⟨left, top, cutLeft, cutTop, shown, cuts⟩ := BlitPlan.exists_cuts made
    have xEq := cuts.x_eq
    have yEq := cuts.y_eq
    have wide := cuts.width_ge
    have tall := cuts.height_ge
    have image :
        (top ≤ py ∧ py < top + plan.rows) ∧ left ≤ px ∧ px < left + shown →
        address + plan.skipped +
            (plan.stride * (py - top) + (px - left + cutLeft % 8) / 8) =
          address + (((width + 7) / 8).toNat * (py - y).toNat + (px - x).toNat / 8) := by
      intro drawn
      have row : (py - y).toNat = cutTop + (py - top) := by omega
      have column : (px - x).toNat / 8 = cutLeft / 8 + (px - left + cutLeft % 8) / 8 := by omega
      rw [cuts.skipped, ← cuts.stride, row, column, Nat.mul_add]
      omega
    have place :
        (top ≤ py ∧ py < top + plan.rows) ∧ left ≤ px ∧ px < left + shown →
        (px - left + cutLeft % 8) % 8 = (px - x).toNat % 8 := by
      omega
    rw [cuts.offset, pixel_blitRows fits mode insidePx insidePy cuts ram source ?_ cuts.bottom_le]
    · by_cases covered : x ≤ px ∧ px < x + width ∧ y ≤ py ∧ py < y + height
      · have right := cuts.right_of_lt px insidePx covered.2.1
        have bottom := cuts.bottom_of_lt py insidePy covered.2.2.2
        have leftCut := cuts.left_of_cut
        have topCut := cuts.top_of_cut
        have drawn : (top ≤ py ∧ py < top + plan.rows) ∧ left ≤ px ∧ px < left + shown := by
          omega
        rw [if_pos covered, if_pos drawn, image drawn, place drawn, ImageSource.pixel]
      · rw [if_neg covered, if_neg (by omega)]
    · intro drawn
      rw [image drawn]
      exact steady (by omega)

/--
A block is drawn exactly.

Wherever it is put, however large it is and however it is cut, every pixel of the
screen that it covers becomes the combination of its old value with the pixel of
the image that belongs there. All other pixels, and all memory outside the
bitmap, stay as they are. The bytes that the drawn pixels come from must not lie
in the bitmap themselves. Mirroring makes no difference.
-/
theorem blit_exact
    (target : Target)
    (ram : Ram)
    (x y width height : Int)
    (source : ImageSource)
    (address : Nat)
    (mode : BlitMode)
    (apart :
      ∀ px < Screen.width, ∀ py < Screen.height,
        x ≤ px ∧ px < x + width ∧ y ≤ py ∧ py < y + height →
        ¬ source.LiesIn target.base
          (address + (((width + 7) / 8).toNat * (py - y).toNat + (px - x).toNat / 8))) :
    let drawn := ram.blit target.base x y width height source address mode
    (∀ px < Screen.width, ∀ py < Screen.height,
      (x ≤ px ∧ px < x + width ∧ y ≤ py ∧ py < y + height →
        drawn.pixel target.base px py =
          mode.combineBit
            (source.pixel ram address ((width + 7) / 8).toNat (px - x).toNat (py - y).toNat)
            (ram.pixel target.base px py)) ∧
      (¬ (x ≤ px ∧ px < x + width ∧ y ≤ py ∧ py < y + height) →
        drawn.pixel target.base px py = ram.pixel target.base px py)) ∧
    SameOutside target.base Screen.bitmapBytes ram drawn ∧
    (∀ mirrored,
      ram.blit target.base x y width height source address { mode with mirrored := mirrored } =
        drawn) := by
  intro drawn
  have fits := target.base_le
  have exactly (mode : BlitMode) {px py : Nat} (insidePx : px < Screen.width)
      (insidePy : py < Screen.height) :=
    pixel_blit fits mode insidePx insidePy ram fun covered =>
      ImageSource.steady_of_not_liesIn (apart px insidePx py insidePy covered)
  have frame (mode : BlitMode) := sameOutside_blit fits mode ram x y width height source address
  refine ⟨?_, frame mode, ?_⟩
  · intro px insidePx py insidePy
    refine ⟨?_, ?_⟩
    · intro covered
      exact (exactly mode insidePx insidePy).trans (if_pos covered)
    · intro uncovered
      exact (exactly mode insidePx insidePy).trans (if_neg uncovered)
  · intro mirrored
    apply eq_of_pixels ((frame mode).symm.trans (frame _))
    intro px insidePx py insidePy
    exact (exactly _ insidePx insidePy).trans (exactly mode insidePx insidePy).symm

/-- The last column of an image that starts left of the screen, over the last row. -/
theorem last_column_of_cut_block_shows :
    let ram := Ram.blank.setByte 0x2001 1
    (ram.blit Target.buffer.base (-9) 79 16 5 .memory 0x2000 { combination := .copy }).pixel
      Target.buffer.base 6 79 = true := by
  intro ram
  have apart :
      ∀ px < Screen.width, ∀ py < Screen.height,
        (-9 : Int) ≤ px ∧ px < (-9 : Int) + 16 ∧ (79 : Int) ≤ py ∧ py < (79 : Int) + 5 →
        ¬ ImageSource.memory.LiesIn Target.buffer.base
          (0x2000 + (((16 + 7 : Int) / 8).toNat * (py - 79 : Int).toNat +
            (px - (-9) : Int).toNat / 8)) := by
    intro px insidePx py insidePy covered lies
    have stride : ((16 + 7 : Int) / 8).toNat = 2 := rfl
    rw [stride] at lies
    simp only [ImageSource.LiesIn, Target.base, Screen.bitmapBytes, capacity] at lies
    omega
  obtain ⟨pixels, -⟩ :=
    blit_exact .buffer ram (-9) 79 16 5 .memory 0x2000 { combination := .copy } apart
  have source : ram.byte 0x2001 = 1 := by
    rw [byte_setByte, if_pos rfl]
  calc
    _ = ImageSource.memory.pixel ram 0x2000 2 15 0 :=
      (pixels 6 (by decide) 79 (by decide)).1 (by decide)
    _ = Bits.bitAt (ram.byte 0x2001) 7 := rfl
    _ = true := by
      rw [source]
      decide

end Ram

end Handheld
