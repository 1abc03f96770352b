import Handheld.Proofs.Screen.Pixels

namespace Handheld

/-!
# Rectangles, pixel by pixel

A rectangle is cut to the screen before it is drawn, so its outline is the border
of the part that can be seen. The sides of an outline leave out the corners that
the first and the last row have drawn, and the second side is left out where it
would be the first one again. So every pixel is covered once, and inverting a
rectangle changes what drawing it would set.
-/

namespace Rectangle

/-- Whether a point lies on the screen and between two corners, given in any order. -/
def visible
    (x₁ y₁ x₂ y₂ : Int)
    (px py : Int) :
    Bool :=
  (0 ≤ px ∧ px < Screen.width ∧ 0 ≤ py ∧ py < Screen.height) ∧
    (min x₁ x₂ ≤ px ∧ px ≤ max x₁ x₂ ∧ min y₁ y₂ ≤ py ∧ py ≤ max y₁ y₂)

/-- Whether a point belongs to the visible part and has a neighbor that does not. -/
def border
    (x₁ y₁ x₂ y₂ : Int)
    (px py : Int) :
    Bool :=
  visible x₁ y₁ x₂ y₂ px py &&
    !(visible x₁ y₁ x₂ y₂ (px - 1) py && visible x₁ y₁ x₂ y₂ (px + 1) py &&
      visible x₁ y₁ x₂ y₂ px (py - 1) && visible x₁ y₁ x₂ y₂ px (py + 1))

/-- The pixels of a rectangle: all that can be seen of it, or the border of that. -/
def shape
    (x₁ y₁ x₂ y₂ : Int)
    (filled : Bool)
    (px py : Nat) :
    Bool :=
  if filled then visible x₁ y₁ x₂ y₂ px py else border x₁ y₁ x₂ y₂ px py

/-- What can be seen of a rectangle lies between its sides, cut to the screen. -/
theorem visible_iff
    (x₁ y₁ x₂ y₂ px py : Int) :
    visible x₁ y₁ x₂ y₂ px py = true ↔
      max (min x₁ x₂) 0 ≤ px ∧ px ≤ min (max x₁ x₂) (Screen.width - 1) ∧
        max (min y₁ y₂) 0 ≤ py ∧ py ≤ min (max y₁ y₂) (Screen.height - 1) := by
  simp only [visible, decide_eq_true_eq]
  generalize min x₁ x₂ = firstColumn
  generalize max x₁ x₂ = lastColumn
  generalize min y₁ y₂ = firstRow
  generalize max y₁ y₂ = lastRow
  omega

/-- The border lies in the first and last columns and rows that can be seen. -/
theorem border_iff
    (x₁ y₁ x₂ y₂ px py : Int) :
    border x₁ y₁ x₂ y₂ px py = true ↔
      visible x₁ y₁ x₂ y₂ px py = true ∧
        (px = max (min x₁ x₂) 0 ∨ px = min (max x₁ x₂) (Screen.width - 1) ∨
          py = max (min y₁ y₂) 0 ∨ py = min (max y₁ y₂) (Screen.height - 1)) := by
  simp only [border, Bool.and_eq_true, Bool.not_eq_true', Bool.eq_false_iff, ne_eq, visible_iff]
  generalize max (min x₁ x₂) 0 = left
  generalize min (max x₁ x₂) (Screen.width - 1) = right
  generalize max (min y₁ y₂) 0 = top
  generalize min (max y₁ y₂) (Screen.height - 1) = bottom
  omega

/-- So many rows from the top one on cover each pixel between their sides once. -/
theorem countP_covers_firstRows
    (left right top : Int)
    (count px py : Nat) :
    ((List.range count).map fun (index : Nat) =>
        ({ left := left, right := right, row := top + index } : Span)).countP
        (Span.covers px py) =
      if left ≤ px ∧ px ≤ right ∧ top ≤ py ∧ py < top + count then 1 else 0 := by
  induction count with
  | zero =>
      rw [if_neg (by omega)]
      rfl
  | succ count inductionHypothesis =>
      rw [List.range_succ, List.map_append, List.countP_append, inductionHypothesis,
        List.map_singleton, List.countP_singleton]
      simp only [Span.covers, decide_eq_true_eq]
      split <;> split <;> split <;> omega

/-- Rows that lie one below the other cover each pixel between their sides once. -/
theorem countP_covers_rows
    (left right top bottom : Int)
    (px py : Nat) :
    (rows left right top bottom).countP (Span.covers px py) =
      if left ≤ px ∧ px ≤ right ∧ top ≤ py ∧ py ≤ bottom then 1 else 0 := by
  rw [rows, countP_covers_firstRows]
  congr 1
  apply propext
  omega

/-- The parts of an outline have no pixel in common and make up the border. -/
theorem countP_covers_outline
    {left right top bottom : Int}
    (ordered : left ≤ right)
    (stacked : top ≤ bottom)
    (px py : Nat) :
    (outline left right top bottom).countP (Span.covers px py) =
      if (left ≤ px ∧ px ≤ right ∧ top ≤ py ∧ py ≤ bottom) ∧
          (px = left ∨ px = right ∨ py = top ∨ py = bottom) then
        1
      else
        0 := by
  unfold outline
  dsimp only
  by_cases tall : top < bottom
  · rw [if_pos tall]
    by_cases wide : left < right
    · rw [if_pos wide]
      simp only [List.countP_append, countP_covers_rows]
      split <;> split <;> split <;> split <;> split <;> omega
    · rw [if_neg wide]
      simp only [List.countP_append, countP_covers_rows, List.countP_nil]
      split <;> split <;> split <;> split <;> omega
  · rw [if_neg tall, countP_covers_rows]
    split <;> split <;> omega

/-- A rectangle covers the pixels of its shape once and no other pixel of the screen. -/
theorem countP_covers_spans
    (x₁ y₁ x₂ y₂ : Int)
    (filled : Bool)
    (px py : Nat) :
    (spans x₁ y₁ x₂ y₂ filled).toList.countP (Span.covers px py) =
      if shape x₁ y₁ x₂ y₂ filled px py then 1 else 0 := by
  have seen := visible_iff x₁ y₁ x₂ y₂ px py
  have edge := border_iff x₁ y₁ x₂ y₂ px py
  unfold spans shape
  dsimp only
  generalize max (min x₁ x₂) 0 = left at *
  generalize min (max x₁ x₂) (Screen.width - 1) = right at *
  generalize max (min y₁ y₂) 0 = top at *
  generalize min (max y₁ y₂) (Screen.height - 1) = bottom at *
  split
  · rename_i hidden
    have unseen : ¬ visible x₁ y₁ x₂ y₂ px py = true := by
      rw [seen]
      omega
    cases filled with
    | true =>
        rw [if_pos rfl, if_neg unseen]
        rfl
    | false =>
        rw [if_neg Bool.false_ne_true, if_neg (by simp [edge, unseen])]
        rfl
  · rename_i shown
    cases filled with
    | true =>
        rw [if_pos rfl, if_pos rfl, countP_covers_rows]
        simp only [seen]
    | false =>
        rw [if_neg Bool.false_ne_true, if_neg Bool.false_ne_true,
          countP_covers_outline (by omega) (by omega)]
        simp only [edge, seen]

end Rectangle

namespace Ram

/-- The spans of a rectangle draw its shape, each pixel once. -/
theorem draws_rectangle
    (target : Target)
    (ram : Ram)
    (x₁ y₁ x₂ y₂ : Int)
    (filled : Bool) :
    Draws target ram (Rectangle.spans x₁ y₁ x₂ y₂ filled)
      (Rectangle.shape x₁ y₁ x₂ y₂ filled) := by
  apply draws_of_odd
  · intro px _ py _ inShape
    rw [Rectangle.countP_covers_spans, if_pos inShape]
  · intro px _ py _ outside
    rw [Rectangle.countP_covers_spans, outside, if_neg Bool.false_ne_true]

/--
Rectangles are drawn exactly.

Their spans are painted without a check, which is as good as cutting them to the
screen. Filled, a rectangle is all of its pixels that can be seen; open, the border of that
part, which lies in the first and last columns and rows that can be seen. Each of
these pixels is covered once, so each mode changes just these, and inverting
changes what setting sets. A rectangle that cannot be seen changes nothing.
-/
theorem rectangle_exact
    (target : Target)
    (ram : Ram)
    (x₁ y₁ x₂ y₂ : Int)
    (filled : Bool) :
    let spans := Rectangle.spans x₁ y₁ x₂ y₂ filled
    let shape := Rectangle.shape x₁ y₁ x₂ y₂ filled
    (∀ mode table,
      (Drawing.rectangle x₁ y₁ x₂ y₂ filled mode).paint target table ram =
        ram.paint target.base mode spans) ∧
    Draws target ram spans shape ∧
    (∀ px py, spans.toList.countP (Span.covers px py) = if shape px py then 1 else 0) ∧
    (∀ px py,
      Rectangle.border x₁ y₁ x₂ y₂ px py = true ↔
        Rectangle.visible x₁ y₁ x₂ y₂ px py = true ∧
          (px = max (min x₁ x₂) 0 ∨ px = min (max x₁ x₂) (Screen.width - 1) ∨
            py = max (min y₁ y₂) 0 ∨ py = min (max y₁ y₂) (Screen.height - 1))) ∧
    ((∀ px py, Rectangle.visible x₁ y₁ x₂ y₂ px py = false) →
      ∀ mode, ram.paint target.base mode spans = ram) := by
  intro spans shape
  have once (px py : Nat) :
      spans.toList.countP (Span.covers px py) = if shape px py then 1 else 0 :=
    Rectangle.countP_covers_spans x₁ y₁ x₂ y₂ filled px py
  refine ⟨fun mode table => Drawing.paint_rectangle x₁ y₁ x₂ y₂ filled mode target table ram,
    draws_rectangle target ram x₁ y₁ x₂ y₂ filled, once, Rectangle.border_iff x₁ y₁ x₂ y₂, ?_⟩
  intro hidden mode
  apply paint_of_uncovered target.base_le
  intro px _ py _
  have outside : shape px py = false := by
    simp [shape, Rectangle.shape, Rectangle.border, hidden]
  rw [once, outside, if_neg Bool.false_ne_true]

end Ram

end Handheld
