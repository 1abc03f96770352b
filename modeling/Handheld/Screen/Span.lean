import Handheld.Memory.Ram
import Handheld.Screen.Mode

namespace Handheld

/-!
# Spans

Shapes are lists of horizontal spans with unbounded coordinates. Pixels are
written without a check, so painting a row of them changes whatever the addresses
name; a shape whose spans may leave the screen has them cut to it first.
-/

/-- The pixels of one row from `left` to `right`, both included. -/
structure Span where
  left : Int
  right : Int
  row : Int
  deriving DecidableEq, Repr

/-- The span of a single pixel. -/
def Span.point
    (x y : Int) :
    Span :=
  { left := x, right := x, row := y }

/-- Address of the byte of a pixel in a bitmap. -/
def Screen.pixelAddress
    (base x y : Nat) :
    Nat :=
  base + y * Screen.rowBytes + x / 8

/-- The bit of a pixel in its byte. -/
def Screen.pixelMask (x : Nat) : UInt8 :=
  0x80 >>> UInt8.ofNat (x % 8)

/-- Whether a pixel on the screen is set. -/
def Ram.pixel
    (ram : Ram)
    (base x y : Nat) :
    Bool :=
  ram.byte (Screen.pixelAddress base x y) &&& Screen.pixelMask x != 0

/--
Change one pixel. It is not checked to be on the screen: beside it, the pixel is
one of another row, and above or below it, one of memory outside the bitmap.
-/
def Ram.paintPixel
    (ram : Ram)
    (base : Nat)
    (mode : ShapeMode)
    (x y : Int) :
    Ram :=
  let address := ((base + y * Screen.rowBytes + x / 8) % Ram.capacity).toNat
  ram.setByte address (mode.apply (ram.byte address) (Screen.pixelMask (x % 8).toNat))

/-- Change `count` pixels of a row, the first one at `x`. -/
def Ram.paintRun
    (ram : Ram)
    (base : Nat)
    (mode : ShapeMode)
    (x y : Int)
    (count : Nat) :
    Ram :=
  match count with
  | 0 => ram
  | rest + 1 => (ram.paintPixel base mode x y).paintRun base mode (x + 1) y rest

/-- Change all pixels of a span, on the screen or not. -/
def Ram.paintUncut
    (ram : Ram)
    (base : Nat)
    (mode : ShapeMode)
    (span : Span) :
    Ram :=
  ram.paintRun base mode span.left span.row (span.right - span.left + 1).toNat

/-- Change all pixels of spans one after the other, on the screen or not. -/
def Ram.paintAllUncut
    (ram : Ram)
    (base : Nat)
    (mode : ShapeMode)
    (spans : Array Span) :
    Ram :=
  spans.foldl (fun painted span => painted.paintUncut base mode span) ram

/-- A span that does not leave the screen. -/
structure Span.OnScreen (span : Span) : Prop where
  left : 0 ≤ span.left
  right : span.right < Screen.width
  top : 0 ≤ span.row
  bottom : span.row < Screen.height

/-- The part of a span that is on the screen, if there is one. -/
def Span.cut? (span : Span) : Option Span :=
  if (0 ≤ span.row ∧ span.row < Screen.height) ∧ 0 ≤ span.right ∧ span.left < Screen.width then
    some { span with left := max span.left 0, right := min span.right (Screen.width - 1) }
  else
    none

/-- Change the pixels of a span that lie on the screen. -/
def Ram.paintSpan
    (ram : Ram)
    (base : Nat)
    (mode : ShapeMode)
    (span : Span) :
    Ram :=
  match span.cut? with
  | some cut => ram.paintUncut base mode cut
  | none => ram

/-- Change the pixels of spans that lie on the screen, one span after the other. -/
def Ram.paint
    (ram : Ram)
    (base : Nat)
    (mode : ShapeMode)
    (spans : Array Span) :
    Ram :=
  spans.foldl (fun painted span => painted.paintSpan base mode span) ram

/-- A pixel with natural coordinates is changed at the address of its byte. -/
theorem Ram.paintPixel_natCast
    (ram : Ram)
    (base : Nat)
    (mode : ShapeMode)
    (x y : Nat) :
    ram.paintPixel base mode x y =
      ram.setByte (Screen.pixelAddress base x y)
        (mode.apply (ram.byte (Screen.pixelAddress base x y)) (Screen.pixelMask x)) := by
  have address :
      (((base : Int) + y * Screen.rowBytes + x / 8) % Ram.capacity).toNat =
        Screen.pixelAddress base x y % Ram.capacity := by
    unfold Screen.pixelAddress Screen.rowBytes Ram.capacity
    omega
  have mask : Screen.pixelMask ((x : Int) % 8).toNat = Screen.pixelMask x := by
    have column : ((x : Int) % 8).toNat = x % 8 := by omega
    rw [column, Screen.pixelMask, Nat.mod_mod, Screen.pixelMask]
  unfold paintPixel
  dsimp only
  rw [address, mask]
  simp only [setByte, byte, Nat.mod_mod]

/-- A span on the screen is painted as a run of pixels on the screen, just those it covers. -/
theorem Span.OnScreen.exists_run
    {span : Span}
    (onScreen : span.OnScreen) :
    ∃ x y count : Nat,
      x + count ≤ Screen.width ∧
        y < Screen.height ∧
        (∀ (ram : Ram) base mode,
          ram.paintUncut base mode span = ram.paintRun base mode x y count) ∧
        ∀ px py : Nat,
          span.left ≤ px ∧ px ≤ span.right ∧ span.row = py ↔
            x ≤ px ∧ px < x + count ∧ py = y := by
  obtain ⟨left, right, top, bottom⟩ := onScreen
  have row : (span.row.toNat : Int) = span.row := Int.toNat_of_nonneg top
  by_cases empty : span.right < span.left
  · have nothing : (span.right - span.left + 1).toNat = 0 := by omega
    refine ⟨0, span.row.toNat, 0, Nat.zero_le _, by omega, fun ram base mode => ?_, by omega⟩
    rw [Ram.paintUncut, nothing, Ram.paintRun, Ram.paintRun]
  · have column : (span.left.toNat : Int) = span.left := Int.toNat_of_nonneg left
    refine ⟨span.left.toNat, span.row.toNat, (span.right - span.left + 1).toNat, by omega,
      by omega, fun ram base mode => ?_, by omega⟩
    rw [Ram.paintUncut, column, row]

/-- What is left of a span that was cut lies on the screen. -/
theorem Span.onScreen_of_cut?
    {span cut : Span}
    (made : span.cut? = some cut) :
    cut.OnScreen := by
  unfold cut? at made
  split at made
  · rename_i seen
    cases made
    have right := Int.min_le_right span.right (Screen.width - 1)
    exact ⟨Int.le_max_right _ _, by dsimp only; omega, seen.1.1, seen.1.2⟩
  · cases made

/-- A span on the screen is not cut, and if it is not painted, it has no pixels. -/
theorem Ram.paintSpan_of_onScreen
    (ram : Ram)
    (base : Nat)
    (mode : ShapeMode)
    {span : Span}
    (onScreen : span.OnScreen) :
    ram.paintSpan base mode span = ram.paintUncut base mode span := by
  obtain ⟨left, right, top, bottom⟩ := onScreen
  unfold paintSpan Span.cut?
  by_cases seen : 0 ≤ span.right ∧ span.left < Screen.width
  · have whole :
        { span with left := max span.left 0, right := min span.right (Screen.width - 1) } =
          span := by
      rw [Int.max_eq_left left, Int.min_eq_left (by omega)]
    rw [if_pos ⟨⟨top, bottom⟩, seen⟩, whole]
  · have empty : (span.right - span.left + 1).toNat = 0 := by omega
    rw [if_neg (fun shown => seen shown.2), paintUncut, empty, paintRun]

/-- Spans on the screen are painted without being cut. -/
theorem Ram.paint_of_onScreen
    (ram : Ram)
    (base : Nat)
    (mode : ShapeMode)
    {spans : Array Span}
    (onScreen : ∀ span ∈ spans.toList, span.OnScreen) :
    ram.paint base mode spans = ram.paintAllUncut base mode spans := by
  unfold paint paintAllUncut
  rw [← Array.foldl_toList, ← Array.foldl_toList]
  generalize spans.toList = list at onScreen
  induction list generalizing ram with
  | nil => rfl
  | cons span rest inductionHypothesis =>
      rw [List.foldl_cons, List.foldl_cons,
        ram.paintSpan_of_onScreen base mode (onScreen span List.mem_cons_self)]
      exact inductionHypothesis _ fun later member =>
        onScreen later (List.mem_cons_of_mem span member)

end Handheld
