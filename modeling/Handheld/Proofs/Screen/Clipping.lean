import Handheld.Screen.Blit

namespace Handheld

/-!
# Cutting images to the screen

What the plan for drawing an image says, in terms of the image and the screen:
which part is cut off, which part is shown, and that nothing is read past the
end of an image row or written past the end of a row of the screen.
-/

/--
How a plan cuts an image: `left` and `top` are where it starts on the screen,
`cutLeft` and `cutTop` what lies before that, `shown` how many columns are drawn.
-/
structure BlitPlan.Cuts
    (plan : BlitPlan)
    (x y width height : Int)
    (left top cutLeft cutTop shown : Nat) :
    Prop where
  x_eq : x = left - cutLeft
  y_eq : y = top - cutTop
  width_ge : (cutLeft + shown : Nat) ≤ width
  height_ge : (cutTop + plan.rows : Nat) ≤ height
  right_le : left + shown ≤ Screen.width
  bottom_le : top + plan.rows ≤ Screen.height
  right_of_lt : ∀ px, px < Screen.width → px < x + width → px < left + shown
  bottom_of_lt : ∀ py, py < Screen.height → py < y + height → py < top + plan.rows
  left_of_cut : 0 < cutLeft → left = 0
  top_of_cut : 0 < cutTop → top = 0
  skipped : plan.skipped = cutLeft / 8 + plan.stride * cutTop
  stride : plan.stride = ((width + 7) / 8).toNat
  count : plan.count = (cutLeft % 8 + shown + 7) / 8
  shift : plan.shift = (cutLeft % 8 : Nat) - (left % 8 : Nat)
  offset : plan.offset = top * Screen.rowBytes + left / 8
  kept :
    plan.kept =
      keptBits ((left % 8 + shown + 7) / 8) (left % 8)
        ((left % 8 + shown + 7) / 8 * 8 - left % 8 - shown)

namespace BlitPlan

/-- A plan cuts a block to the part of it that the screen shows. -/
theorem exists_cuts
    {x y width height : Int}
    {plan : BlitPlan}
    (made : make? x y width height = some plan) :
    ∃ left top cutLeft cutTop shown, plan.Cuts x y width height left top cutLeft cutTop shown := by
  unfold make? at made
  split at made
  · cases made
  · rename_i visible
    cases made
    unfold Screen.width Screen.height at visible
    exact ⟨x.toNat, y.toNat, (-x).toNat, (-y).toNat,
      (min (width - (-x).toNat) (Screen.width - x.toNat)).toNat, {
        x_eq := by omega
        y_eq := by omega
        width_ge := by unfold Screen.width; omega
        height_ge := by unfold Screen.height; dsimp only; omega
        right_le := by unfold Screen.width; omega
        bottom_le := by unfold Screen.height; dsimp only; omega
        right_of_lt := by unfold Screen.width; omega
        bottom_of_lt := by unfold Screen.height; dsimp only; omega
        left_of_cut := by omega
        top_of_cut := by omega
        skipped := rfl
        stride := rfl
        count := rfl
        shift := rfl
        offset := rfl
        kept := rfl
      }⟩

/-- An image without a plan covers no pixel of the screen. -/
theorem not_covered_of_make?_eq_none
    {x y width height : Int}
    (missed : make? x y width height = none)
    {px py : Nat}
    (insidePx : px < Screen.width)
    (insidePy : py < Screen.height) :
    ¬ (x ≤ px ∧ px < x + width ∧ y ≤ py ∧ py < y + height) := by
  unfold make? at missed
  split at missed
  · unfold Screen.width Screen.height at *
    omega
  · cases missed

end BlitPlan

namespace BlitPlan.Cuts

variable
  {plan : BlitPlan}
  {x y width height : Int}
  {left top cutLeft cutTop shown : Nat}
  (cuts : plan.Cuts x y width height left top cutLeft cutTop shown)

include cuts

/-- A plan keeps bits in as many bytes as the shown columns touch. -/
theorem length_kept : plan.kept.length = (left % 8 + shown + 7) / 8 := by
  rw [cuts.kept, keptBits, List.length_map, List.length_range]

/-- The bytes that a plan changes lie in one row of the screen. -/
theorem column_le : left / 8 + plan.kept.length ≤ Screen.rowBytes := by
  have right := cuts.right_le
  rw [cuts.length_kept]
  unfold Screen.width at right
  unfold Screen.rowBytes
  omega

/-- A plan changes at most one byte more than it reads. -/
theorem length_kept_le : plan.kept.length ≤ plan.count + 1 := by
  rw [cuts.length_kept, cuts.count]
  omega

/-- No row is read past its end. -/
theorem count_le : cutLeft / 8 + plan.count ≤ plan.stride := by
  have wide := cuts.width_ge
  rw [cuts.count, cuts.stride]
  omega

end BlitPlan.Cuts

end Handheld
