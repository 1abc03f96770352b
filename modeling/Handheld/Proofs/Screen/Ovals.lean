import Mathlib.Tactic.Linarith
import Mathlib.Tactic.Ring
import Handheld.Proofs.Screen.Pixels

namespace Handheld

/-!
# Ovals stay in their box

The walk through a quarter of an oval never compares its column with the radius.
What holds it back is the decision value, which is the equation of the curve at a
point between two candidates, kept up to date by additions. In the flat part the
middle between this row and the next stays inside the curve for as long as the
slopes let the walk go on, and no such point lies as far out as the radius. In the
steep part a further column is taken only where the middle between it and this one
is inside.
-/

namespace Oval

/-- The equation of the curve, negative inside, between a row and the one nearer the center. -/
def belowRow
    (squareX squareY : Nat)
    (x y : Int) :
    Int :=
  squareY * (x * x) + squareX * (y * y - y) - squareX * squareY + (squareX + 2) / 4

/-- Whether an offset lies in the quarter of the box around an oval. -/
def Boxed
    (radiusX radiusY : Int)
    (offset : Int × Int) :
    Prop :=
  (0 ≤ offset.1 ∧ offset.1 ≤ radiusX) ∧ 0 ≤ offset.2 ∧ offset.2 ≤ radiusY

/-- Whether a span lies in the box around an oval. -/
def Within
    (centerX centerY radiusX radiusY : Int)
    (span : Span) :
    Prop :=
  centerX - radiusX ≤ span.left ∧ span.right ≤ centerX + radiusX ∧
    centerY - radiusY ≤ span.row ∧ span.row ≤ centerY + radiusY

/-- A cursor whose slopes belong to its offset, which lies in the box. -/
structure Cursor.Inside
    (radiusX radiusY : Int)
    (squareX squareY : Nat)
    (cursor : Cursor) :
    Prop where
  slopeX : cursor.slopeX = 2 * squareY * cursor.x
  slopeY : cursor.slopeY = 2 * squareX * cursor.y
  boxed : Boxed radiusX radiusY (cursor.x, cursor.y)

/--
Where a walk by columns can stand: it decides by the middle below the next column,
and the middle below its own is inside as long as it goes on.
-/
structure Cursor.Flat
    (radiusX radiusY : Int)
    (squareX squareY : Nat)
    (cursor : Cursor) :
    Prop extends Cursor.Inside radiusX radiusY squareX squareY cursor where
  decision : cursor.decision = belowRow squareX squareY (cursor.x + 1) cursor.y
  below : cursor.slopeX < cursor.slopeY → belowRow squareX squareY cursor.x cursor.y < 0

/-- Where a walk by rows can stand: it decides by the middle beside the next row. -/
structure Cursor.Steep
    (radiusX radiusY : Int)
    (squareX squareY : Nat)
    (cursor : Cursor) :
    Prop extends Cursor.Inside radiusX radiusY squareX squareY cursor where
  decision : cursor.decision = steepDecision squareX squareY cursor.x cursor.y

section Steps

variable
  {radiusX radiusY : Int}
  {squareX squareY : Nat}
  (squaredX : (squareX : Int) = radiusX * radiusX)
  (squaredY : (squareY : Int) = radiusY * radiusY)

include squaredX

/-- A point as far out as the radius has the middle below it outside. -/
theorem belowRow_nonneg
    {x y : Int}
    (far : radiusX ≤ x)
    (positive : 0 ≤ radiusX)
    (above : 0 ≤ y) :
    0 ≤ belowRow squareX squareY x y := by
  have across : (squareX : Int) ≤ x * x := by nlinarith
  have rows : 0 ≤ y * y - y := by nlinarith
  have outward : (squareY : Int) * squareX ≤ squareY * (x * x) :=
    mul_le_mul_of_nonneg_left across (Int.natCast_nonneg _)
  have upward : 0 ≤ (squareX : Int) * (y * y - y) := mul_nonneg (Int.natCast_nonneg _) rows
  have rounding : 0 ≤ ((squareX : Int) + 2) / 4 := by omega
  unfold belowRow
  nlinarith

/-- While the slopes let a walk by columns go on, neither radius is used up. -/
theorem Cursor.Flat.lt_radius
    {cursor : Cursor}
    (flat : cursor.Flat radiusX radiusY squareX squareY)
    (onward : cursor.slopeX < cursor.slopeY) :
    cursor.x < radiusX ∧ 0 < cursor.y := by
  obtain ⟨⟨left, right⟩, bottom, top⟩ := flat.boxed
  dsimp only at left right bottom top
  refine ⟨?_, ?_⟩
  · by_contra far
    have outside : 0 ≤ belowRow squareX squareY cursor.x cursor.y :=
      belowRow_nonneg squaredX (by omega) (by omega) bottom
    have inside := flat.below onward
    omega
  · by_contra low
    have axis : cursor.y = 0 := by omega
    have slope : 0 ≤ (squareY : Int) * cursor.x := mul_nonneg (Int.natCast_nonneg _) left
    rw [flat.slopeX, flat.slopeY, axis] at onward
    linarith

/-- A step by columns leads to where a walk by columns can stand. -/
theorem Cursor.Flat.nextColumn
    {cursor : Cursor}
    (flat : cursor.Flat radiusX radiusY squareX squareY)
    (onward : cursor.slopeX < cursor.slopeY) :
    (cursor.nextColumn squareX squareY).Flat radiusX radiusY squareX squareY := by
  obtain ⟨narrower, higher⟩ := flat.lt_radius squaredX onward
  obtain ⟨⟨left, right⟩, bottom, top⟩ := flat.boxed
  have slopeX := flat.slopeX
  have slopeY := flat.slopeY
  have decision := flat.decision
  have below := flat.below onward
  have weight : 0 ≤ (squareY : Int) := Int.natCast_nonneg _
  dsimp only at left right bottom top
  unfold Cursor.nextColumn
  unfold belowRow at decision below
  dsimp only
  split
  · rename_i negative
    refine {
      slopeX := ?_
      slopeY := slopeY
      boxed := ⟨⟨?_, ?_⟩, bottom, top⟩
      decision := ?_
      below := ?_
    } <;> dsimp only
    · rw [slopeX]
      ring
    · omega
    · omega
    · rw [decision, slopeX, belowRow]
      ring
    · intro _
      unfold belowRow
      linarith
  · refine {
      slopeX := ?_
      slopeY := ?_
      boxed := ⟨⟨?_, ?_⟩, ?_, ?_⟩
      decision := ?_
      below := ?_
    } <;> dsimp only
    · rw [slopeX]
      ring
    · rw [slopeY]
      ring
    · omega
    · omega
    · omega
    · omega
    · rw [decision, slopeX, slopeY, belowRow]
      ring
    · -- The curve falls by less than a row from this column to the next if the walk goes on.
      intro again
      rw [slopeX, slopeY] at again
      unfold belowRow
      linarith

include squaredY

/-- A point as far out as the radius, two rows up at least, has the middle beside it outside. -/
theorem steepDecision_pos
    {x y : Int}
    (far : radiusX ≤ x)
    (positive : 0 ≤ radiusX)
    (above : 1 < y)
    (below : y ≤ radiusY) :
    0 < steepDecision squareX squareY x y := by
  have across : (squareX : Int) ≤ x * x := by nlinarith
  have outward : (squareY : Int) * squareX ≤ squareY * (x * x) :=
    mul_le_mul_of_nonneg_left across (Int.natCast_nonneg _)
  have onward : 0 ≤ (squareY : Int) * x :=
    mul_nonneg (Int.natCast_nonneg _) (by omega)
  have upward : 0 ≤ (squareX : Int) * ((y - 1) * (y - 1)) :=
    mul_nonneg (Int.natCast_nonneg _) (mul_self_nonneg _)
  have tall : 4 ≤ (squareY : Int) := by nlinarith
  have rounding : 1 ≤ ((squareY : Int) + 2) / 4 := by omega
  unfold steepDecision
  linarith

/-- A step by rows leads to where a walk by rows can stand. -/
theorem Cursor.Steep.nextRow
    {cursor : Cursor}
    (steep : cursor.Steep radiusX radiusY squareX squareY)
    (onward : 1 < cursor.y) :
    (cursor.nextRow squareX squareY).Steep radiusX radiusY squareX squareY := by
  obtain ⟨⟨left, right⟩, bottom, top⟩ := steep.boxed
  have slopeX := steep.slopeX
  have slopeY := steep.slopeY
  have decision := steep.decision
  dsimp only at left right bottom top
  unfold Cursor.nextRow
  dsimp only
  split
  · refine {
      slopeX := slopeX
      slopeY := ?_
      boxed := ⟨⟨left, right⟩, ?_, ?_⟩
      decision := ?_
    } <;> dsimp only
    · rw [slopeY]
      ring
    · omega
    · omega
    · rw [decision, slopeY, steepDecision, steepDecision]
      ring
  · rename_i inside
    have narrower : cursor.x < radiusX := by
      by_contra far
      have outside : 0 < steepDecision squareX squareY cursor.x cursor.y :=
        steepDecision_pos squaredX squaredY (by omega) (by omega) onward top
      rw [← decision] at outside
      exact inside outside
    refine {
      slopeX := ?_
      slopeY := ?_
      boxed := ⟨⟨?_, ?_⟩, ?_, ?_⟩
      decision := ?_
    } <;> dsimp only
    · rw [slopeX]
      ring
    · rw [slopeY]
      ring
    · omega
    · omega
    · omega
    · omega
    · rw [decision, slopeX, slopeY, steepDecision, steepDecision]
      ring

omit squaredX in
/-- The walk by columns starts where it can stand. -/
theorem flat_start
    (wide : 0 ≤ radiusX)
    (tall : 0 ≤ radiusY) :
    (start squareX squareY radiusY).Flat radiusX radiusY squareX squareY where
  slopeX := by simp [start]
  slopeY := rfl
  boxed := ⟨⟨Int.le_refl 0, wide⟩, tall, Int.le_refl _⟩
  decision := by
    simp only [start, belowRow, squaredY]
    ring
  below := by
    intro onward
    simp only [start, belowRow, squaredY] at onward ⊢
    have falls : (squareX : Int) ≤ squareX * radiusY := by
      have proper : 0 < radiusY := by
        by_contra level
        have none : radiusY = 0 := by omega
        simp [none] at onward
      nlinarith [Int.natCast_nonneg squareX]
    have some : 0 < (squareX : Int) * radiusY := by linarith
    have rounding : ((squareX : Int) + 2) / 4 < squareX := by
      have weight : (squareX : Int) ≠ 0 := by
        intro none
        simp [none] at some
      omega
    nlinarith

end Steps

section Runs

variable
  {squareX squareY : Nat}
  {motive : Cursor → Prop}

/-- An offset is from before or from the cursor that was last added. -/
theorem of_mem_push
    {cursor : Cursor}
    (stands : motive cursor)
    {collected : Array (Int × Int)}
    {offset : Int × Int}
    (member : offset ∈ collected.push (cursor.x, cursor.y)) :
    offset ∈ collected ∨ ∃ cursor, motive cursor ∧ offset = (cursor.x, cursor.y) := by
  rcases Array.mem_push.mp member with before | added
  · exact .inl before
  · exact .inr ⟨cursor, stands, added⟩

/--
What every step by columns keeps holds where the walk ends, and wherever an offset
was collected.
-/
theorem flat_induction
    {positive : 0 < squareY}
    {filled : Bool}
    {cursor : Cursor}
    {collected : Array (Int × Int)}
    (keeps :
      ∀ cursor,
        motive cursor →
        cursor.slopeX < cursor.slopeY →
        motive (cursor.nextColumn squareX squareY))
    (starts : motive cursor) :
    let walked := flat squareX squareY positive filled cursor collected
    motive walked.1 ∧
      ∀ offset ∈ walked.2,
        offset ∈ collected ∨ ∃ cursor, motive cursor ∧ offset = (cursor.x, cursor.y) := by
  fun_induction flat squareX squareY positive filled cursor collected with
  | case1 cursor collected onward next now inductionHypothesis =>
      have after := keeps cursor starts onward
      obtain ⟨ends, offsets⟩ := inductionHypothesis after
      refine ⟨ends, ?_⟩
      intro offset member
      rcases offsets offset member with earlier | later
      · -- A filled oval collects the end of a row, an outline where the step leads.
        dsimp only [now] at earlier
        split at earlier
        · split at earlier
          · exact .inl earlier
          · exact of_mem_push starts earlier
        · exact of_mem_push after earlier
      · exact .inr later
  | case2 cursor collected stopped => exact ⟨starts, fun offset member => .inl member⟩

/-- What every step by rows keeps holds wherever an offset was collected. -/
theorem steep_induction
    {cursor : Cursor}
    {collected : Array (Int × Int)}
    (keeps :
      ∀ cursor, motive cursor → 1 < cursor.y → motive (cursor.nextRow squareX squareY))
    (starts : motive cursor) :
    ∀ offset ∈ steep squareX squareY cursor collected,
      offset ∈ collected ∨ ∃ cursor, motive cursor ∧ offset = (cursor.x, cursor.y) := by
  fun_induction steep squareX squareY cursor collected with
  | case1 cursor collected onward next inductionHypothesis =>
      have after := keeps cursor starts onward
      intro offset member
      rcases inductionHypothesis after offset member with earlier | later
      · exact of_mem_push after earlier
      · exact .inr later
  | case2 cursor collected stopped => exact fun offset member => .inl member

end Runs

section Box

variable
  {radiusX radiusY : Int}

section Quarter

variable
  {squareX squareY : Nat}
  (squaredX : (squareX : Int) = radiusX * radiusX)

include squaredX

/-- The walk by columns ends where it can stand and collects offsets in the box. -/
theorem boxed_of_mem_flat
    {positive : 0 < squareY}
    {filled : Bool}
    {cursor : Cursor}
    (starts : cursor.Flat radiusX radiusY squareX squareY) :
    let walked := flat squareX squareY positive filled cursor #[]
    walked.1.Flat radiusX radiusY squareX squareY ∧
      ∀ offset ∈ walked.2, Boxed radiusX radiusY offset := by
  have keeps (cursor : Cursor) :
      cursor.Flat radiusX radiusY squareX squareY →
      cursor.slopeX < cursor.slopeY →
      (cursor.nextColumn squareX squareY).Flat radiusX radiusY squareX squareY :=
    Cursor.Flat.nextColumn squaredX
  obtain ⟨ends, visited⟩ := flat_induction keeps starts
  refine ⟨ends, ?_⟩
  intro offset member
  rcases visited offset member with earlier | ⟨cursor, stands, rfl⟩
  · cases Array.not_mem_empty _ earlier
  · exact stands.boxed

/-- The walk by rows adds offsets in the box. -/
theorem boxed_of_mem_steep
    (squaredY : (squareY : Int) = radiusY * radiusY)
    {cursor : Cursor}
    {collected : Array (Int × Int)}
    (starts : cursor.Steep radiusX radiusY squareX squareY)
    (boxed : ∀ offset ∈ collected, Boxed radiusX radiusY offset) :
    ∀ offset ∈ steep squareX squareY cursor collected, Boxed radiusX radiusY offset := by
  have keeps (cursor : Cursor) :
      cursor.Steep radiusX radiusY squareX squareY →
      1 < cursor.y →
      (cursor.nextRow squareX squareY).Steep radiusX radiusY squareX squareY :=
    Cursor.Steep.nextRow squaredX squaredY
  intro offset member
  rcases steep_induction keeps starts offset member with earlier | ⟨cursor, stands, rfl⟩
  · exact boxed offset earlier
  · exact stands.boxed

end Quarter

variable
  (wide : 0 ≤ radiusX)
  (tall : 0 ≤ radiusY)

include wide tall

/-- A walk through a quarter stays in its part of the box. -/
theorem boxed_of_mem_offsets
    {filled : Bool} :
    ∀ offset ∈ offsets radiusX radiusY filled, Boxed radiusX radiusY offset := by
  have squaredX : ((radiusX.natAbs * radiusX.natAbs : Nat) : Int) = radiusX * radiusX :=
    Int.natAbs_mul_self
  have squaredY : ((radiusY.natAbs * radiusY.natAbs : Nat) : Int) = radiusY * radiusY :=
    Int.natAbs_mul_self
  unfold offsets
  generalize radiusX.natAbs * radiusX.natAbs = squareX at squaredX ⊢
  generalize radiusY.natAbs * radiusY.natAbs = squareY at squaredY ⊢
  dsimp only
  have begins : (start squareX squareY radiusY).Flat radiusX radiusY squareX squareY :=
    flat_start squaredY wide tall
  generalize walk :
    (if positive : 0 < squareY then
      flat squareX squareY positive filled (start squareX squareY radiusY) #[]
    else
      (start squareX squareY radiusY, #[])) = walked
  have turns :
      walked.1.Flat radiusX radiusY squareX squareY ∧
        ∀ offset ∈ walked.2, Boxed radiusX radiusY offset := by
    rw [← walk]
    split
    · exact boxed_of_mem_flat squaredX begins
    · exact ⟨begins, fun offset member => absurd member (Array.not_mem_empty offset)⟩
  obtain ⟨turn, visited⟩ := turns
  apply boxed_of_mem_steep squaredX squaredY
  · exact {
      slopeX := turn.slopeX
      slopeY := turn.slopeY
      boxed := turn.boxed
      decision := rfl
    }
  · intro offset member
    split at member
    · rcases Array.mem_push.mp member with earlier | rfl
      · exact visited offset earlier
      · exact turn.boxed
    · exact visited offset member

omit wide tall in
/-- The rows for an offset in the box lie in the box around the center. -/
theorem within_of_mem_bands
    {centerX centerY : Int}
    {offset : Int × Int}
    (boxed : Boxed radiusX radiusY offset)
    {span : Span}
    (member : span ∈ bands centerX centerY offset) :
    Within centerX centerY radiusX radiusY span := by
  obtain ⟨⟨left, right⟩, bottom, top⟩ := boxed
  simp only [bands, List.mem_toArray, List.mem_cons, List.not_mem_nil, or_false] at member
  unfold Within
  rcases member with rfl | rfl <;> dsimp only <;> omega

omit wide tall in
/-- The points for an offset in the box lie in the box around the center. -/
theorem within_of_mem_corners
    {centerX centerY : Int}
    {offset : Int × Int}
    (boxed : Boxed radiusX radiusY offset)
    {span : Span}
    (member : span ∈ corners centerX centerY offset) :
    Within centerX centerY radiusX radiusY span := by
  obtain ⟨⟨left, right⟩, bottom, top⟩ := boxed
  simp only [corners, List.mem_toArray, List.mem_cons, List.not_mem_nil, or_false] at member
  unfold Within
  rcases member with rfl | rfl | rfl | rfl <;> dsimp only [Span.point] <;> omega

/-- All spans of an oval lie in its box, on the screen or off it. -/
theorem within_of_mem_allSpans
    {centerX centerY : Int}
    {filled : Bool}
    {span : Span}
    (member : span ∈ allSpans centerX centerY radiusX radiusY filled) :
    Within centerX centerY radiusX radiusY span := by
  unfold allSpans at member
  dsimp only at member
  split at member
  · rcases Array.mem_push.mp member with inBand | rfl
    · obtain ⟨offset, walked, here⟩ := Array.mem_flatMap.mp inBand
      exact within_of_mem_bands (boxed_of_mem_offsets wide tall offset walked) here
    · unfold Within
      dsimp only
      omega
  · rcases Array.mem_append.mp member with atCorner | onAxis
    · obtain ⟨offset, walked, here⟩ := Array.mem_flatMap.mp atCorner
      exact within_of_mem_corners (boxed_of_mem_offsets wide tall offset walked) here
    · simp only [List.mem_toArray, List.mem_cons, List.not_mem_nil, or_false] at onAxis
      unfold Within
      rcases onAxis with rfl | rfl | rfl | rfl <;> dsimp only [Span.point] <;> omega

/-- An oval whose box misses the screen covers no pixel. -/
theorem countP_covers_offScreen
    {centerX centerY : Int}
    {filled : Bool}
    (misses : offScreen centerX centerY radiusX radiusY = true)
    {px py : Nat}
    (insidePx : px < Screen.width)
    (insidePy : py < Screen.height) :
    (allSpans centerX centerY radiusX radiusY filled).toList.countP (Span.covers px py) = 0 := by
  apply List.countP_eq_zero.mpr
  intro span member covered
  obtain ⟨left, right, bottom, top⟩ :=
    within_of_mem_allSpans wide tall (Array.mem_toList_iff.mp member)
  simp only [Span.covers, decide_eq_true_eq] at covered
  simp only [offScreen, Bool.or_eq_true, decide_eq_true_eq] at misses
  omega

end Box

end Oval

namespace Ram

/--
Ovals stay in their box.

No pixel that an oval is made of, on the screen or off it, is farther from the
center than the radii. So to draw nothing when the box misses the screen is to draw
what all spans would.
-/
theorem oval_boxed
    (target : Target)
    (ram : Ram)
    (mode : ShapeMode)
    (centerX centerY : Int)
    {radiusX radiusY : Int}
    (wide : 0 ≤ radiusX)
    (tall : 0 ≤ radiusY)
    (filled : Bool) :
    (∀ span ∈ Oval.allSpans centerX centerY radiusX radiusY filled,
      ∀ px, span.left ≤ px → px ≤ span.right →
        |px - centerX| ≤ radiusX ∧ |span.row - centerY| ≤ radiusY) ∧
    ram.paint target.base mode (Oval.spans centerX centerY radiusX radiusY filled) =
      ram.paint target.base mode (Oval.allSpans centerX centerY radiusX radiusY filled) := by
  refine ⟨?_, ?_⟩
  · intro span member px low high
    obtain ⟨left, right, bottom, top⟩ := Oval.within_of_mem_allSpans wide tall member
    refine ⟨abs_le.mpr ⟨?_, ?_⟩, abs_le.mpr ⟨?_, ?_⟩⟩ <;> omega
  · unfold Oval.spans
    split
    · rename_i misses
      apply Eq.symm
      apply paint_of_uncovered target.base_le
      intro px insidePx py insidePy
      exact Oval.countP_covers_offScreen wide tall misses insidePx insidePy
    · rfl

/-- A flat oval that ends one column to the right of the screen would not show. -/
theorem oval_beside_screen_unseen :
    blank.paint Target.graphics.base .invert (Oval.allSpans 190 40 30 1 true) = blank := by
  have wide : (0 : Int) ≤ 30 := by decide
  have tall : (0 : Int) ≤ 1 := by decide
  obtain ⟨-, same⟩ := oval_boxed .graphics blank .invert 190 40 wide tall true
  have nothing : Oval.spans 190 40 30 1 true = #[] := rfl
  rw [← same, nothing]
  rfl

end Ram

end Handheld
