import Handheld.Screen.Span

namespace Handheld

/-!
# Rectangles

A rectangle is given by two opposite corners in any order and is cut to the
screen first, so the outline of a rectangle that leaves the screen runs along the
edge of the screen. Its rows are painted without another check: none of them
leaves the screen.
-/

namespace Rectangle

/-- The spans of the rows from `top` to `bottom`. -/
def rows
    (left right top bottom : Int) :
    List Span :=
  (List.range (bottom - top + 1).toNat).map fun (index : Nat) =>
    { left := left, right := right, row := top + index }

/-- The outline of a rectangle that lies on the screen, each pixel once. -/
def outline
    (left right top bottom : Int) :
    List Span :=
  let firstRow := rows left right top top
  if top < bottom then
    let lastRow := rows left right bottom bottom
    let leftSide := rows left left (top + 1) (bottom - 1)
    let rightSide := if left < right then rows right right (top + 1) (bottom - 1) else []
    firstRow ++ lastRow ++ leftSide ++ rightSide
  else
    firstRow

/-- The spans of a rectangle with the given corners. -/
def spans
    (x₁ y₁ x₂ y₂ : Int)
    (filled : Bool) :
    Array Span :=
  let left := max (min x₁ x₂) 0
  let right := min (max x₁ x₂) (Screen.width - 1)
  let top := max (min y₁ y₂) 0
  let bottom := min (max y₁ y₂) (Screen.height - 1)
  if right < left ∨ bottom < top then
    #[]
  else if filled then
    (rows left right top bottom).toArray
  else
    (outline left right top bottom).toArray

/-- Rows between sides and ends that are on the screen do not leave it. -/
theorem onScreen_of_mem_rows
    {left right top bottom : Int}
    (insideX : 0 ≤ left ∧ right < Screen.width)
    (insideY : 0 ≤ top ∧ bottom < Screen.height)
    {span : Span}
    (member : span ∈ rows left right top bottom) :
    span.OnScreen := by
  obtain ⟨index, inside, rfl⟩ := List.mem_map.mp member
  have before := List.mem_range.mp inside
  constructor <;> dsimp only <;> omega

/-- The four sides lie between the corners. -/
theorem onScreen_of_mem_outline
    {left right top bottom : Int}
    (ordered : left ≤ right ∧ top ≤ bottom)
    (insideX : 0 ≤ left ∧ right < Screen.width)
    (insideY : 0 ≤ top ∧ bottom < Screen.height)
    {span : Span}
    (member : span ∈ outline left right top bottom) :
    span.OnScreen := by
  unfold outline at member
  dsimp only at member
  split at member
  · simp only [List.mem_append] at member
    rcases member with ((first | last) | leftSide) | rightSide
    · exact onScreen_of_mem_rows insideX (by omega) first
    · exact onScreen_of_mem_rows insideX (by omega) last
    · exact onScreen_of_mem_rows (by omega) (by omega) leftSide
    · split at rightSide
      · exact onScreen_of_mem_rows (by omega) (by omega) rightSide
      · cases rightSide
  · exact onScreen_of_mem_rows insideX (by omega) member

/-- No part of a rectangle leaves the screen, whatever its corners are. -/
theorem onScreen_of_mem_spans
    {x₁ y₁ x₂ y₂ : Int}
    {filled : Bool}
    {span : Span}
    (member : span ∈ (spans x₁ y₁ x₂ y₂ filled).toList) :
    span.OnScreen := by
  unfold spans at member
  dsimp only at member
  have insideX : 0 ≤ max (min x₁ x₂) 0 ∧ min (max x₁ x₂) (Screen.width - 1) < Screen.width :=
    ⟨Int.le_max_right _ _, by have := Int.min_le_right (max x₁ x₂) (Screen.width - 1); omega⟩
  have insideY : 0 ≤ max (min y₁ y₂) 0 ∧ min (max y₁ y₂) (Screen.height - 1) < Screen.height :=
    ⟨Int.le_max_right _ _, by have := Int.min_le_right (max y₁ y₂) (Screen.height - 1); omega⟩
  generalize max (min x₁ x₂) 0 = left at *
  generalize min (max x₁ x₂) (Screen.width - 1) = right at *
  generalize max (min y₁ y₂) 0 = top at *
  generalize min (max y₁ y₂) (Screen.height - 1) = bottom at *
  split at member
  · cases member
  · split at member
    · exact onScreen_of_mem_rows insideX insideY member
    · exact onScreen_of_mem_outline (by omega) insideX insideY member

end Rectangle

end Handheld
