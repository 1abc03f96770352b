import Handheld.Proofs.Screen.BitRow
import Handheld.Proofs.Screen.Confinement

namespace Handheld

/-!
# Pixels of painted shapes

A bitmap is seen through its pixels. Painting changes a pixel once for every span
that covers it, so what a shape does is read off the spans it is made of.
-/

namespace Screen

/-- The mask of a pixel selects one bit of its byte. -/
theorem bitAt_pixelMask
    (x : Nat)
    {place : Nat}
    (inside : place < 8) :
    Bits.bitAt (pixelMask x) place = decide (place = x % 8) := by
  have all :
      ∀ column place : Fin 8,
        Bits.bitAt (0x80 >>> UInt8.ofNat column) place = decide (place = column) := by
    decide
  have here := all ⟨x % 8, Nat.mod_lt _ (by decide)⟩ ⟨place, inside⟩
  rw [pixelMask, here]
  apply decide_eq_decide.mpr
  exact Fin.mk.injEq _ _ _ _ ▸ Iff.rfl

/-- The mask of a pixel picks out its bit. -/
theorem and_pixelMask_ne_zero
    (byte : UInt8)
    (x : Nat) :
    (byte &&& pixelMask x != 0) = Bits.bitAt byte (x % 8) := by
  have inside : x % 8 < 8 := Nat.mod_lt _ (by decide)
  by_cases lit : Bits.bitAt byte (x % 8) = true
  · have shown : Bits.bitAt (byte &&& pixelMask x) (x % 8) = true := by
      rw [Bits.bitAt_and, lit, bitAt_pixelMask x inside, decide_eq_true rfl, Bool.and_self]
    rw [lit, bne_iff_ne]
    intro none
    rw [none, Bits.bitAt_zero] at shown
    cases shown
  · have dark : byte &&& pixelMask x = 0 := by
      apply UInt8.toBitVec_inj.mp
      apply BitVec.eq_of_getMsbD_eq
      intro place bound
      change Bits.bitAt (byte &&& pixelMask x) place = Bits.bitAt 0 place
      rw [Bits.bitAt_and, bitAt_pixelMask x bound, Bits.bitAt_zero]
      by_cases here : place = x % 8
      · rw [here, Bool.eq_false_iff.mpr lit, Bool.false_and]
      · rw [decide_eq_false here, Bool.and_false]
    rw [dark, Bool.eq_false_iff.mpr lit]
    rfl

/-- Two pixels have a byte in common when they stand in the same row and column of bytes. -/
theorem pixelAddress_eq_iff
    {base x y px py : Nat}
    (insideX : x < Screen.width)
    (insidePx : px < Screen.width) :
    pixelAddress base x y = pixelAddress base px py ↔ y = py ∧ x / 8 = px / 8 := by
  unfold pixelAddress rowBytes width at *
  omega

end Screen

namespace ShapeMode

/-- What becomes of a pixel that a shape covers a number of times. -/
def changed
    (mode : ShapeMode)
    (times : Nat)
    (pixel : Bool) :
    Bool :=
  match mode with
  | .clear => pixel && times == 0
  | .set => pixel || times != 0
  | .invert => pixel ^^ times % 2 == 1

/-- A pixel that is never covered stays. -/
theorem changed_zero
    (mode : ShapeMode)
    (pixel : Bool) :
    mode.changed 0 pixel = pixel := by
  cases mode <;> simp [changed]

/-- One change more is one cover more. -/
theorem changed_changed_one
    (mode : ShapeMode)
    (times : Nat)
    (pixel : Bool) :
    mode.changed times (mode.changed 1 pixel) = mode.changed (times + 1) pixel := by
  cases mode with
  | clear => simp [changed]
  | set => simp [changed]
  | invert =>
      rcases Nat.mod_two_eq_zero_or_one times with even | odd
      · have next : (times + 1) % 2 = 1 := by omega
        simp [changed, even, next]
      · have next : (times + 1) % 2 = 0 := by omega
        simp [changed, odd, next]

/-- A pixel that is covered an odd number of times changes as if it were covered once. -/
theorem changed_of_odd
    (mode : ShapeMode)
    {times : Nat}
    (odd : times % 2 = 1)
    (pixel : Bool) :
    mode.changed times pixel = mode.changed 1 pixel := by
  have some : times ≠ 0 := by omega
  cases mode <;> simp [changed, odd, some]

/-- A mode changes the bits under the mask and leaves the others. -/
theorem bitAt_apply
    (mode : ShapeMode)
    (byte mask : UInt8)
    {place : Nat}
    (inside : place < 8) :
    Bits.bitAt (mode.apply byte mask) place =
      if Bits.bitAt mask place then mode.changed 1 (Bits.bitAt byte place)
      else Bits.bitAt byte place := by
  cases mode with
  | clear =>
      rw [apply, Bits.bitAt_and, Bits.bitAt_not _ inside]
      cases Bits.bitAt mask place <;> simp [changed]
  | set =>
      rw [apply, Bits.bitAt_or]
      cases Bits.bitAt mask place <;> simp [changed]
  | invert =>
      rw [apply, Bits.bitAt_xor]
      cases Bits.bitAt mask place <;> simp [changed]

end ShapeMode

/-- Whether a pixel lies on a span. -/
def Span.covers
    (x y : Nat)
    (span : Span) :
    Bool :=
  span.left ≤ x ∧ x ≤ span.right ∧ span.row = y

/-- Cutting a span to the screen leaves the pixels of the screen that it covers. -/
theorem Span.covers_cut?
    (span : Span)
    {px py : Nat}
    (insidePx : px < Screen.width)
    (insidePy : py < Screen.height) :
    span.covers px py = span.cut?.any (Span.covers px py) := by
  unfold cut?
  split
  · simp only [Option.any_some, covers, decide_eq_decide]
    omega
  · simp only [Option.any_none, covers, decide_eq_false_iff_not]
    omega

namespace Ram

/-- A pixel is the bit of its column in the byte of its place. -/
theorem pixel_eq_bitAt
    (ram : Ram)
    (base x y : Nat) :
    ram.pixel base x y = Bits.bitAt (ram.byte (Screen.pixelAddress base x y)) (x % 8) :=
  Screen.and_pixelMask_ne_zero _ x

/-- A bitmap is determined by its pixels. -/
theorem bitmap_ext
    {ram other : Ram}
    {base : Nat}
    (same :
      ∀ px < Screen.width, ∀ py < Screen.height, ram.pixel base px py = other.pixel base px py) :
    ram.bytes base Screen.bitmapBytes = other.bytes base Screen.bitmapBytes := by
  apply List.map_congr_left
  intro address member
  obtain ⟨low, high⟩ := List.mem_range'_1.mp member
  apply UInt8.toBitVec_inj.mp
  apply BitVec.eq_of_getMsbD_eq
  intro place bound
  have pixel := same (8 * ((address - base) % 20) + place) (by unfold Screen.width; omega)
    ((address - base) / 20) (by unfold Screen.bitmapBytes Screen.height at *; omega)
  have here :
      Screen.pixelAddress base (8 * ((address - base) % 20) + place) ((address - base) / 20) =
        address := by
    unfold Screen.pixelAddress Screen.rowBytes
    omega
  have column : (8 * ((address - base) % 20) + place) % 8 = place := by omega
  rwa [pixel_eq_bitAt, pixel_eq_bitAt, here, column] at pixel

/-- What differs at most in a bitmap is the same when all pixels are. -/
theorem eq_of_pixels
    {ram other : Ram}
    {base : Nat}
    (outside : SameOutside base Screen.bitmapBytes ram other)
    (same :
      ∀ px < Screen.width, ∀ py < Screen.height, other.pixel base px py = ram.pixel base px py) :
    other = ram := by
  have bitmap := bitmap_ext same
  apply ext_byte
  intro address inside
  by_cases within : base ≤ address ∧ address < base + Screen.bitmapBytes
  · apply List.map_inj_left.mp bitmap address
    exact List.mem_range'_1.mpr within
  · exact outside address inside (by omega)

/-- A bitmap shows a picture, and the rest of memory is as it was before. -/
structure Shows
    (base : Nat)
    (before after : Ram)
    (picture : Nat → Nat → Bool) :
    Prop where
  pixel :
    ∀ px < Screen.width, ∀ py < Screen.height,
      after.pixel base px py = picture px py
  outside : SameOutside base Screen.bitmapBytes before after

namespace Shows

/-- Without drawing, memory shows the pixels that it has. -/
theorem refl
    (base : Nat)
    (ram : Ram) :
    Shows base ram ram (ram.pixel base) where
  pixel := fun _ _ _ _ => rfl
  outside := .refl _ _ ram

/-- What is drawn later is shown over what was drawn before. -/
theorem trans
    {base : Nat}
    {before middle after : Ram}
    {first second : Nat → Nat → Bool}
    (earlier : Shows base before middle first)
    (later : Shows base middle after second) :
    Shows base before after second where
  pixel := later.pixel
  outside := earlier.outside.trans later.outside

/-- Only the part of a picture that is on the screen counts. -/
theorem congr
    {base : Nat}
    {before after : Ram}
    {picture other : Nat → Nat → Bool}
    (shown : Shows base before after picture)
    (same :
      ∀ px < Screen.width, ∀ py < Screen.height, picture px py = other px py) :
    Shows base before after other where
  pixel := by
    intro px insidePx py insidePy
    rw [shown.pixel px insidePx py insidePy, same px insidePx py insidePy]
  outside := shown.outside

/-- A picture and the memory around it determine a memory. -/
theorem unique
    {base : Nat}
    {before left right : Ram}
    {picture : Nat → Nat → Bool}
    (onLeft : Shows base before left picture)
    (onRight : Shows base before right picture) :
    left = right := by
  apply eq_of_pixels (onRight.outside.symm.trans onLeft.outside)
  intro px insidePx py insidePy
  rw [onLeft.pixel px insidePx py insidePy, onRight.pixel px insidePx py insidePy]

end Shows

section Shapes

variable
  {base : Nat}
  (fits : base + Screen.bitmapBytes ≤ capacity)
  (mode : ShapeMode)
  {px py : Nat}
  (insidePx : px < Screen.width)
  (insidePy : py < Screen.height)

include fits insidePx insidePy

/-- Painting a pixel changes that pixel only. -/
theorem pixel_paintPixel
    (ram : Ram)
    {x y : Nat}
    (insideX : x < Screen.width)
    (insideY : y < Screen.height) :
    (ram.paintPixel base mode x y).pixel base px py =
      if px = x ∧ py = y then mode.changed 1 (ram.pixel base px py)
      else ram.pixel base px py := by
  have written := Screen.pixelAddress_bounds base insideX insideY
  have wanted := Screen.pixelAddress_bounds base insidePx insidePy
  have writtenMod := Nat.mod_eq_of_lt (Nat.lt_of_lt_of_le written.2 fits)
  have wantedMod := Nat.mod_eq_of_lt (Nat.lt_of_lt_of_le wanted.2 fits)
  have placeInside : px % 8 < 8 := Nat.mod_lt _ (by decide)
  rw [pixel_eq_bitAt, pixel_eq_bitAt, paintPixel_natCast, byte_setByte, writtenMod, wantedMod]
  by_cases sameByte : Screen.pixelAddress base x y = Screen.pixelAddress base px py
  · obtain ⟨sameRow, sameColumn⟩ := (Screen.pixelAddress_eq_iff insideX insidePx).mp sameByte
    rw [if_pos sameByte, ShapeMode.bitAt_apply mode _ _ placeInside,
      Screen.bitAt_pixelMask x placeInside, sameByte]
    by_cases samePlace : px % 8 = x % 8
    · have same : px = x ∧ py = y := by omega
      simp [same]
    · have other : ¬ (px = x ∧ py = y) := by omega
      simp [samePlace, other]
  · have other : ¬ (px = x ∧ py = y) := by
      rintro ⟨rfl, rfl⟩
      exact sameByte rfl
    rw [if_neg sameByte, if_neg other]

/-- Painting a run changes each of its pixels once. -/
theorem pixel_paintRun
    (ram : Ram)
    {x y count : Nat}
    (insideX : x + count ≤ Screen.width)
    (insideY : y < Screen.height) :
    (ram.paintRun base mode x y count).pixel base px py =
      if x ≤ px ∧ px < x + count ∧ py = y then mode.changed 1 (ram.pixel base px py)
      else ram.pixel base px py := by
  induction count generalizing ram x with
  | zero => rw [paintRun, if_neg (by omega)]
  | succ rest inductionHypothesis =>
      have later := @inductionHypothesis (ram.paintPixel base mode x y) (x + 1) (by omega)
      rw [Int.natCast_succ] at later
      rw [paintRun, later, pixel_paintPixel fits mode insidePx insidePy ram (by omega) insideY]
      by_cases here : px = x ∧ py = y
      · rw [if_neg (by omega), if_pos here, if_pos (by omega)]
      · by_cases later : x + 1 ≤ px ∧ px < x + 1 + rest ∧ py = y
        · rw [if_pos later, if_neg here, if_pos (by omega)]
        · rw [if_neg later, if_neg here, if_neg (by omega)]

/-- A span on the screen changes the pixels it covers, each once. -/
theorem pixel_paintUncut
    (ram : Ram)
    {span : Span}
    (onScreen : span.OnScreen) :
    (ram.paintUncut base mode span).pixel base px py =
      if span.covers px py then mode.changed 1 (ram.pixel base px py)
      else ram.pixel base px py := by
  obtain ⟨x, y, count, insideX, insideY, run, covered⟩ := onScreen.exists_run
  rw [run, pixel_paintRun fits mode insidePx insidePy ram insideX insideY]
  simp only [Span.covers, covered, decide_eq_true_eq]

/-- A span changes those of the pixels it covers that are on the screen, each once. -/
theorem pixel_paintSpan
    (ram : Ram)
    (span : Span) :
    (ram.paintSpan base mode span).pixel base px py =
      if span.covers px py then mode.changed 1 (ram.pixel base px py)
      else ram.pixel base px py := by
  have same := span.covers_cut? insidePx insidePy
  unfold paintSpan
  split
  · rename_i cut made
    rw [made] at same
    rw [pixel_paintUncut fits mode insidePx insidePy ram (Span.onScreen_of_cut? made), same]
    rfl
  · rename_i made
    rw [made] at same
    rw [same]
    rfl

/-- A shape changes a pixel once for every span that covers it. -/
theorem pixel_paint
    (ram : Ram)
    (spans : Array Span) :
    (ram.paint base mode spans).pixel base px py =
      mode.changed (spans.toList.countP (Span.covers px py)) (ram.pixel base px py) := by
  unfold paint
  rw [← Array.foldl_toList]
  induction spans.toList generalizing ram with
  | nil => exact (mode.changed_zero _).symm
  | cons span rest inductionHypothesis =>
      rw [List.foldl_cons, inductionHypothesis,
        pixel_paintSpan fits mode insidePx insidePy]
      by_cases covered : span.covers px py = true
      · rw [if_pos covered, List.countP_cons_of_pos covered, ShapeMode.changed_changed_one]
      · rw [if_neg covered, List.countP_cons_of_neg covered]

end Shapes

/-- Spans that cover no pixel of the screen change nothing. -/
theorem paint_of_uncovered
    {base : Nat}
    (fits : base + Screen.bitmapBytes ≤ capacity)
    (mode : ShapeMode)
    (ram : Ram)
    {spans : Array Span}
    (uncovered :
      ∀ px < Screen.width, ∀ py < Screen.height,
        spans.toList.countP (Span.covers px py) = 0) :
    ram.paint base mode spans = ram := by
  apply eq_of_pixels (sameOutside_paint fits mode ram spans)
  intro px insidePx py insidePy
  rw [pixel_paint fits mode insidePx insidePy, uncovered px insidePx py insidePy,
    mode.changed_zero]

/--
Spans draw a shape on a bitmap: what is set, cleared or inverted are the pixels of
the shape that are on the screen, and nothing else changes.
-/
structure Draws
    (target : Target)
    (ram : Ram)
    (spans : Array Span)
    (shape : Nat → Nat → Bool) :
    Prop where
  set :
    ∀ px < Screen.width, ∀ py < Screen.height,
      (ram.paint target.base .set spans).pixel target.base px py =
        (ram.pixel target.base px py || shape px py)
  clear :
    ∀ px < Screen.width, ∀ py < Screen.height,
      (ram.paint target.base .clear spans).pixel target.base px py =
        (ram.pixel target.base px py && !shape px py)
  invert :
    ∀ px < Screen.width, ∀ py < Screen.height,
      (ram.paint target.base .invert spans).pixel target.base px py =
        (ram.pixel target.base px py ^^ shape px py)
  outside :
    ∀ mode,
      SameOutside target.base Screen.bitmapBytes ram (ram.paint target.base mode spans)

/-- Spans that cover a pixel an odd number of times or never draw the pixels they cover. -/
theorem draws_of_odd
    (target : Target)
    (ram : Ram)
    {spans : Array Span}
    {shape : Nat → Nat → Bool}
    (odd :
      ∀ px < Screen.width, ∀ py < Screen.height,
        shape px py = true →
        spans.toList.countP (Span.covers px py) % 2 = 1)
    (uncovered :
      ∀ px < Screen.width, ∀ py < Screen.height,
        shape px py = false →
        spans.toList.countP (Span.covers px py) = 0) :
    Draws target ram spans shape := by
  have once (mode : ShapeMode) (px : Nat) (insidePx : px < Screen.width) (py : Nat)
      (insidePy : py < Screen.height) :
      (ram.paint target.base mode spans).pixel target.base px py =
        mode.changed (if shape px py then 1 else 0) (ram.pixel target.base px py) := by
    rw [pixel_paint target.base_le mode insidePx insidePy]
    cases inShape : shape px py with
    | true => exact mode.changed_of_odd (odd px insidePx py insidePy inShape) _
    | false =>
        rw [uncovered px insidePx py insidePy inShape]
        rfl
  exact {
    set := by
      intro px insidePx py insidePy
      rw [once .set px insidePx py insidePy]
      cases shape px py <;> simp [ShapeMode.changed]
    clear := by
      intro px insidePx py insidePy
      rw [once .clear px insidePx py insidePy]
      cases shape px py <;> simp [ShapeMode.changed]
    invert := by
      intro px insidePx py insidePy
      rw [once .invert px insidePx py insidePy]
      cases shape px py <;> simp [ShapeMode.changed]
    outside := fun mode => sameOutside_paint target.base_le mode ram spans
  }

end Ram

/-- A filled rectangle that lies on the screen covers its pixels. -/
theorem Rectangle.any_covers_filled
    {left top right bottom : Int}
    (insideLeft : 0 ≤ left)
    (ordered : left ≤ right)
    (insideRight : right < Screen.width)
    (insideTop : 0 ≤ top)
    (stacked : top ≤ bottom)
    (insideBottom : bottom < Screen.height)
    (px py : Nat) :
    (spans left top right bottom true).toList.any (Span.covers px py) =
      decide (left ≤ px ∧ px ≤ right ∧ top ≤ py ∧ py ≤ bottom) := by
  have sides :
      max (min left right) 0 = left ∧
        min (max left right) (Screen.width - 1) = right ∧
        max (min top bottom) 0 = top ∧
        min (max top bottom) (Screen.height - 1) = bottom := by
    omega
  unfold spans
  rw [sides.1, sides.2.1, sides.2.2.1, sides.2.2.2, if_neg (by omega), if_pos rfl]
  apply Bool.eq_iff_iff.mpr
  simp only [rows, List.any_eq_true, List.mem_map, List.mem_range, Span.covers, decide_eq_true_eq]
  constructor
  · rintro ⟨span, ⟨index, near, rfl⟩, covered⟩
    dsimp only at covered
    omega
  · intro covered
    exact ⟨_, ⟨(py - top).toNat, by omega, rfl⟩, by dsimp only; omega⟩

namespace Ram

section Clearing

variable
  {base : Nat}
  (fits : base + Screen.bitmapBytes ≤ capacity)
  {px py : Nat}
  (insidePx : px < Screen.width)
  (insidePy : py < Screen.height)

include fits insidePx insidePy

/-- However often it is covered, a pixel that is cleared is clear. -/
theorem pixel_paint_clear
    (ram : Ram)
    (spans : Array Span) :
    (ram.paint base .clear spans).pixel base px py =
      (ram.pixel base px py && !spans.toList.any (Span.covers px py)) := by
  rw [pixel_paint fits .clear insidePx insidePy, ShapeMode.changed]
  congr 1
  rcases covered : spans.toList.any (Span.covers px py) with _ | _
  · have none := List.countP_eq_zero.mpr (List.any_eq_false.mp covered)
    rw [none]
    rfl
  · have some := List.countP_pos_iff.mpr (List.any_eq_true.mp covered)
    have positive : spans.toList.countP (Span.covers px py) ≠ 0 := by omega
    simpa using positive

end Clearing

end Ram

end Handheld
