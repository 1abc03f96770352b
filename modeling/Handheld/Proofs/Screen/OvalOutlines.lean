import Handheld.Proofs.Screen.FilledOvals

namespace Handheld

/-!
# Outlines of ovals

An outline is four points for every offset of a walk through a quarter, and then
the ends of both axes. An offset on an axis is its own mirror image, so its points
come twice each. Setting does not show that, but inverting leaves such a point as
it was, unless it is an end of the axis, which comes once more.

This happens to ovals without width or height, and to those so flat that the walk
by columns meets the horizontal axis before its end: just those that are at least
eight times as wide as the square of their height.
-/

namespace Oval

/-- Whether a pixel is on an outline. -/
def onOutline
    (centerX centerY radiusX radiusY : Int)
    (px py : Nat) :
    Bool :=
  (allSpans centerX centerY radiusX radiusY false).any (Span.covers px py)

/-- Whether a place relative to the center is on an axis of an oval and not at an end of it. -/
def cancels
    (radiusX radiusY across down : Int) :
    Bool :=
  across = 0 ∧ (down = 0 ∨ down.natAbs < radiusY) ∨ down = 0 ∧ across.natAbs < radiusX

/-- A pixel is on the outline when some span covers it. -/
theorem onOutline_iff
    (centerX centerY radiusX radiusY : Int)
    (px py : Nat) :
    onOutline centerX centerY radiusX radiusY px py = true ↔
      (allSpans centerX centerY radiusX radiusY false).toList.countP (Span.covers px py) ≠ 0 := by
  rw [onOutline, ← Array.any_toList, List.any_eq_true, ← List.countP_pos_iff, Nat.pos_iff_ne_zero]

/-- A point covers its own pixel only. -/
theorem covers_point
    {px py : Nat}
    {x y : Int} :
    Span.covers px py (Span.point x y) = true ↔ x = px ∧ y = py := by
  simp only [Span.covers, decide_eq_true_eq]
  dsimp only [Span.point]
  omega

/-- The four points of an offset cover a pixel when the offset is its place up to signs. -/
theorem countP_covers_corners
    (centerX centerY : Int)
    (offsets : List (Int × Int))
    {across down : Int}
    {px py : Nat}
    (column : (px : Int) = centerX + across)
    (row : (py : Int) = centerY + down) :
    (offsets.flatMap fun offset => (corners centerX centerY offset).toList).countP
        (Span.covers px py) =
      offsets.count (-across, -down) + offsets.count (-across, down) +
        offsets.count (across, -down) + offsets.count (across, down) := by
  induction offsets with
  | nil => rfl
  | cons offset rest inductionHypothesis =>
      have covers (x y signedX signedY : Int)
          (sameX : x = px ↔ offset.1 = signedX)
          (sameY : y = py ↔ offset.2 = signedY) :
          Span.covers px py (Span.point x y) = (offset == (signedX, signedY)) := by
        apply Bool.eq_iff_iff.mpr
        rw [covers_point, beq_iff_eq, Prod.ext_iff, sameX, sameY]
      rw [List.flatMap_cons, List.countP_append, inductionHypothesis]
      simp only [corners, List.countP_cons, List.countP_nil, List.count_cons]
      rw [covers (centerX - offset.1) (centerY - offset.2) (-across) (-down) (by omega) (by omega),
        covers (centerX - offset.1) (centerY + offset.2) (-across) down (by omega) (by omega),
        covers (centerX + offset.1) (centerY - offset.2) across (-down) (by omega) (by omega),
        covers (centerX + offset.1) (centerY + offset.2) across down (by omega) (by omega)]
      omega

/-- How often an outline covers a pixel: by the offsets, and by the ends of the axes. -/
theorem countP_covers_outline
    (centerX centerY radiusX radiusY : Int)
    {across down : Int}
    {px py : Nat}
    (column : (px : Int) = centerX + across)
    (row : (py : Int) = centerY + down) :
    (allSpans centerX centerY radiusX radiusY false).toList.countP (Span.covers px py) =
      ((offsets radiusX radiusY false).toList.count (-across, -down) +
        (offsets radiusX radiusY false).toList.count (-across, down) +
        (offsets radiusX radiusY false).toList.count (across, -down) +
        (offsets radiusX radiusY false).toList.count (across, down)) +
      ((if across = 0 ∧ radiusY = down then 1 else 0) +
        (if across = 0 ∧ -radiusY = down then 1 else 0) +
        (if radiusX = across ∧ down = 0 then 1 else 0) +
        (if -radiusX = across ∧ down = 0 then 1 else 0)) := by
  have axes :
      [Span.point centerX (centerY + radiusY), Span.point centerX (centerY - radiusY),
        Span.point (centerX + radiusX) centerY, Span.point (centerX - radiusX) centerY].countP
          (Span.covers px py) =
        (if across = 0 ∧ radiusY = down then 1 else 0) +
          (if across = 0 ∧ -radiusY = down then 1 else 0) +
          (if radiusX = across ∧ down = 0 then 1 else 0) +
          (if -radiusX = across ∧ down = 0 then 1 else 0) := by
    simp only [List.countP_cons, List.countP_nil, covers_point, column, row, sub_eq_add_neg,
      add_right_inj, left_eq_add]
    omega
  unfold allSpans
  dsimp only
  rw [if_neg Bool.false_ne_true, Array.toList_append, Array.toList_flatMap, List.countP_append,
    countP_covers_corners centerX centerY _ column row, axes]

section Inverting

variable
  {radiusX radiusY : Int}
  (wide : 0 ≤ radiusX)
  (tall : 0 ≤ radiusY)

include wide tall

/-- An offset is collected at most once, and never on the far side of an axis. -/
theorem count_offsets
    (x y : Int) :
    (offsets radiusX radiusY false).toList.count (x, y) ≤ 1 ∧
      (x < 0 ∨ y < 0 → (offsets radiusX radiusY false).toList.count (x, y) = 0) := by
  obtain ⟨last, -, -, trail⟩ := level_offsets radiusX radiusY
  refine ⟨List.nodup_iff_count_le_one.mp trail.nodup _, ?_⟩
  intro outside
  apply List.count_eq_zero.mpr
  intro collected
  obtain ⟨⟨right, -⟩, above, -⟩ :=
    boxed_of_mem_offsets wide tall (x, y) (Array.mem_toList_iff.mp collected)
  dsimp only at right above
  omega

/-- A pixel on an outline lies in its box. -/
theorem boxed_of_onOutline
    {centerX centerY : Int}
    {px py : Nat}
    (covered : onOutline centerX centerY radiusX radiusY px py = true) :
    ((px : Int) - centerX).natAbs ≤ radiusX ∧ ((py : Int) - centerY).natAbs ≤ radiusY := by
  obtain ⟨span, member, here⟩ := Array.any_eq_true'.mp covered
  obtain ⟨left, right, bottom, top⟩ := within_of_mem_allSpans wide tall member
  simp only [Span.covers, decide_eq_true_eq] at here
  omega

/-- An outline covers a pixel an odd number of times unless mirrored points cancel there. -/
theorem odd_countP_covers_outline
    (centerX centerY : Int)
    (px py : Nat) :
    (allSpans centerX centerY radiusX radiusY false).toList.countP (Span.covers px py) % 2 = 1 ↔
      onOutline centerX centerY radiusX radiusY px py = true ∧
        cancels radiusX radiusY (px - centerX) (py - centerY) = false := by
  have boxed : onOutline centerX centerY radiusX radiusY px py = true → _ :=
    boxed_of_onOutline wide tall
  have covered := onOutline_iff centerX centerY radiusX radiusY px py
  have column : (px : Int) = centerX + (px - centerX) := by omega
  have row : (py : Int) = centerY + (py - centerY) := by omega
  have total := countP_covers_outline centerX centerY radiusX radiusY column row
  generalize (px : Int) - centerX = across at *
  generalize (py : Int) - centerY = down at *
  generalize List.countP _ _ = times at *
  have direct := count_offsets wide tall across down
  have mirroredX := count_offsets wide tall (-across) down
  have mirroredY := count_offsets wide tall across (-down)
  have mirroredBoth := count_offsets wide tall (-across) (-down)
  rw [covered] at boxed ⊢
  simp only [cancels, decide_eq_false_iff_not]
  by_cases onVertical : across = 0
  · subst onVertical
    by_cases onHorizontal : down = 0
    · -- All four points of an offset at the center are the same, and so are the ends of an axis.
      subst onHorizontal
      have even : times % 2 = 0 := by
        simp only [Int.neg_zero, true_and, and_true] at total
        split at total <;> split at total <;> split at total <;> split at total <;> omega
      constructor
      · omega
      · rintro ⟨-, kept⟩
        exact (kept (.inl ⟨rfl, .inl rfl⟩)).elim
    · have odd : times % 2 = 1 ↔ down.natAbs = radiusY := by
        simp only [Int.neg_zero, onHorizontal, true_and, and_false, if_false] at total
        split at total <;> split at total <;> omega
      omega
  · by_cases onHorizontal : down = 0
    · subst onHorizontal
      have odd : times % 2 = 1 ↔ across.natAbs = radiusX := by
        simp only [Int.neg_zero, onVertical, false_and, and_true, if_false] at total
        split at total <;> split at total <;> omega
      omega
    · have once : times ≤ 1 := by
        simp only [onVertical, onHorizontal, false_and, and_false, if_false] at total
        omega
      omega

end Inverting

/-- Whether an offset, if it is on the axis, is at its end just when the oval is not too flat. -/
def LandsAtEnd
    (radiusX radiusY : Int)
    (offset : Int × Int) :
    Prop :=
  offset.2 = 0 → (offset.1 = radiusX ↔ radiusX < 8 * (radiusY * radiusY))

/-- Where the walk by columns around a proper outline can stand with what it has collected. -/
structure Outlined
    (radiusX radiusY : Int)
    (squareX squareY : Nat)
    (cursor : Cursor)
    (points : Array (Int × Int)) :
    Prop where
  flat : cursor.Flat radiusX radiusY squareX squareY
  lands : LandsAtEnd radiusX radiusY (cursor.x, cursor.y)
  visited : cursor.x = 0 ∧ cursor.y = radiusY ∨ (cursor.x, cursor.y) ∈ points
  collected : ∀ offset ∈ points, 0 < offset.1 ∧ LandsAtEnd radiusX radiusY offset

section Landing

variable
  {radiusX radiusY : Int}
  {squareX squareY : Nat}
  (squaredX : (squareX : Int) = radiusX * radiusX)
  (squaredY : (squareY : Int) = radiusY * radiusY)

include squaredX squaredY

/--
A step by columns down to the axis lands on the end of it just when the oval is less
than eight times as wide as the square of its height.
-/
theorem Cursor.Flat.landing
    {cursor : Cursor}
    (flat : cursor.Flat radiusX radiusY squareX squareY)
    (onward : cursor.slopeX < cursor.slopeY)
    (drops : 0 ≤ cursor.decision)
    (last : cursor.y = 1) :
    cursor.x + 1 = radiusX ↔ radiusX < 8 * (radiusY * radiusY) := by
  obtain ⟨narrower, -⟩ := flat.lt_radius squaredX onward
  obtain ⟨⟨left, -⟩, -⟩ := flat.boxed
  have inside := flat.below onward
  rw [flat.decision] at drops
  unfold belowRow at drops inside
  rw [last] at drops inside
  dsimp only at left
  have rounding : squareX - 1 ≤ 4 * (((squareX : Int) + 2) / 4) ∧
      4 * (((squareX : Int) + 2) / 4) ≤ squareX + 2 := by omega
  generalize ((squareX : Int) + 2) / 4 = quarter at *
  rw [squaredX] at rounding
  rw [squaredX, squaredY] at drops inside
  constructor
  · intro atEnd
    by_contra broad
    have column : cursor.x = radiusX - 1 := by omega
    have wide : radiusX * (8 * (radiusY * radiusY)) ≤ radiusX * radiusX :=
      mul_le_mul_of_nonneg_left (by omega) (by omega)
    rw [column] at inside
    linarith [mul_self_nonneg radiusY]
  · intro slim
    by_contra short
    have nearer : (cursor.x + 1) * (cursor.x + 1) ≤ (radiusX - 1) * (radiusX - 1) :=
      mul_self_le_mul_self (by omega) (by omega)
    have outside :
        radiusY * radiusY * ((cursor.x + 1) * (cursor.x + 1)) ≤
          radiusY * radiusY * ((radiusX - 1) * (radiusX - 1)) :=
      mul_le_mul_of_nonneg_left nearer (mul_self_nonneg _)
    have crossed : 4 * (radiusY * radiusY) * (2 * radiusX - 1) ≤ radiusX * radiusX + 2 := by
      linarith
    -- Narrow ovals are told apart by their height alone, others by the bound on their width.
    rcases le_or_gt radiusX 7 with narrow | broad
    · have proper : 1 * (2 * radiusX - 1) ≤ radiusY * radiusY * (2 * radiusX - 1) :=
        mul_le_mul_of_nonneg_right (by omega) (by omega)
      have between : 0 ≤ (radiusX - 1) * (7 - radiusX) := mul_nonneg (by omega) (by omega)
      linarith
    · have bounded :
          (radiusX + 1) * (2 * radiusX - 1) ≤ 8 * (radiusY * radiusY) * (2 * radiusX - 1) :=
        mul_le_mul_of_nonneg_right (by omega) (by omega)
      linarith

/-- A step by columns meets the axis at its end, unless the oval is too flat. -/
theorem Cursor.Flat.landsAtEnd
    {cursor : Cursor}
    (flat : cursor.Flat radiusX radiusY squareX squareY)
    (onward : cursor.slopeX < cursor.slopeY) :
    let next := cursor.nextColumn squareX squareY
    LandsAtEnd radiusX radiusY (next.x, next.y) := by
  intro next onAxis
  obtain ⟨-, higher⟩ := flat.lt_radius squaredX onward
  have nextX : next.x = cursor.x + 1 := cursor.x_nextColumn
  have nextY : next.y = if cursor.decision < 0 then cursor.y else cursor.y - 1 :=
    cursor.y_nextColumn
  dsimp only at onAxis ⊢
  rw [nextX]
  split at nextY
  · omega
  · exact flat.landing squaredX squaredY onward (by omega) (by omega)

/-- A step by columns collects a point off the vertical axis. -/
theorem Outlined.nextColumn
    {cursor : Cursor}
    {points : Array (Int × Int)}
    (outlined : Outlined radiusX radiusY squareX squareY cursor points)
    (onward : cursor.slopeX < cursor.slopeY) :
    let next := cursor.nextColumn squareX squareY
    Outlined radiusX radiusY squareX squareY next (points.push (next.x, next.y)) := by
  intro next
  have lands := outlined.flat.landsAtEnd squaredX squaredY onward
  refine {
    flat := outlined.flat.nextColumn squaredX onward
    lands := lands
    visited := .inr Array.mem_push_self
    collected := ?_
  }
  intro offset member
  rcases Array.mem_push.mp member with earlier | rfl
  · exact outlined.collected offset earlier
  · have right := outlined.flat.boxed.1.1
    have nextX : next.x = cursor.x + 1 := cursor.x_nextColumn
    refine ⟨?_, lands⟩
    dsimp only at right ⊢
    omega

omit squaredX in
/-- Before the first column, no point of the outline is drawn. -/
theorem outlined_start
    (wide : 0 < radiusX)
    (tall : 0 < radiusY) :
    Outlined radiusX radiusY squareX squareY (start squareX squareY radiusY) #[] where
  flat := flat_start squaredY (by omega) (by omega)
  lands onAxis := absurd onAxis (by simp only [start]; omega)
  visited := .inl ⟨rfl, rfl⟩
  collected := by simp

omit squaredY in
/-- Where a walk by columns stops, it has left the vertical axis. -/
theorem Outlined.turn_mem
    {cursor : Cursor}
    {points : Array (Int × Int)}
    (outlined : Outlined radiusX radiusY squareX squareY cursor points)
    (wide : 0 < radiusX)
    (tall : 0 < radiusY)
    (stopped : cursor.slopeY ≤ cursor.slopeX) :
    (cursor.x, cursor.y) ∈ points := by
  rcases outlined.visited with ⟨onAxis, atTop⟩ | member
  · rw [outlined.flat.slopeX, outlined.flat.slopeY, onAxis, atTop, squaredX] at stopped
    have steep : 0 < radiusX * radiusX * radiusY := by positivity
    linarith
  · exact member

/-- Around an oval that is too flat the walk by columns stops at the axis. -/
theorem Cursor.Flat.stops_at_axis
    {cursor : Cursor}
    (flat : cursor.Flat radiusX radiusY squareX squareY)
    (wide : 0 < radiusX)
    (broad : 8 * (radiusY * radiusY) ≤ radiusX)
    (stopped : cursor.slopeY ≤ cursor.slopeX) :
    cursor.y = 0 := by
  obtain ⟨⟨left, right⟩, bottom, top⟩ := flat.boxed
  rw [flat.slopeX, flat.slopeY, squaredX, squaredY] at stopped
  dsimp only at left right bottom top
  by_contra above
  have across : radiusY * radiusY * cursor.x ≤ radiusY * radiusY * radiusX :=
    mul_le_mul_of_nonneg_left right (mul_self_nonneg _)
  have upward : radiusX * radiusX * 1 ≤ radiusX * radiusX * cursor.y :=
    mul_le_mul_of_nonneg_left (by omega) (mul_self_nonneg _)
  have spread : radiusX * (8 * (radiusY * radiusY)) ≤ radiusX * radiusX :=
    mul_le_mul_of_nonneg_left broad (by omega)
  have square : 0 < radiusX * radiusX := mul_pos wide wide
  linarith

end Landing

/-- A walk by columns goes on until the slopes stop it. -/
theorem flat_stops
    {squareX squareY : Nat}
    {positive : 0 < squareY}
    {filled : Bool}
    (cursor : Cursor)
    (collected : Array (Int × Int)) :
    let last := (flat squareX squareY positive filled cursor collected).1
    last.slopeY ≤ last.slopeX := by
  fun_induction flat squareX squareY positive filled cursor collected with
  | case1 cursor collected onward next now inductionHypothesis => exact inductionHypothesis
  | case2 cursor collected stopped => exact Int.not_lt.mp stopped

section Proper

variable
  {radiusX radiusY : Int}
  (wide : 0 < radiusX)
  (tall : 0 < radiusY)

include wide tall

/-- The walk by columns around a proper outline ends at one of its points, as it must stand. -/
theorem outlined_columns :
    let walked := columns radiusX radiusY false
    Outlined radiusX radiusY (radiusX.natAbs * radiusX.natAbs) (radiusY.natAbs * radiusY.natAbs)
      walked.1 walked.2 ∧ walked.1.slopeY ≤ walked.1.slopeX := by
  have squaredX : ((radiusX.natAbs * radiusX.natAbs : Nat) : Int) = radiusX * radiusX :=
    Int.natAbs_mul_self
  have squaredY : ((radiusY.natAbs * radiusY.natAbs : Nat) : Int) = radiusY * radiusY :=
    Int.natAbs_mul_self
  have high : 0 < radiusY.natAbs := Int.natAbs_pos.mpr (by omega)
  refine ⟨?_, ?_⟩
  · obtain ⟨same, outlined⟩ :=
      columns_together radiusX radiusY
        (motive := fun cursor _ points =>
          Outlined radiusX radiusY (radiusX.natAbs * radiusX.natAbs)
            (radiusY.natAbs * radiusY.natAbs) cursor points)
        (outlined_start squaredY wide tall)
        fun cursor _ points outlined onward => outlined.nextColumn squaredX squaredY onward
    rw [← same]
    exact outlined
  · unfold columns
    dsimp only
    rw [dif_pos (Nat.mul_pos high high)]
    exact flat_stops _ _

/--
The offsets of a proper outline are off the vertical axis, and one is on the
horizontal axis if the oval is too flat.
-/
theorem offsets_of_proper :
    (∀ offset ∈ offsets radiusX radiusY false,
      0 < offset.1 ∧ LandsAtEnd radiusX radiusY offset) ∧
    (8 * (radiusY * radiusY) ≤ radiusX → ∃ offset ∈ offsets radiusX radiusY false, offset.2 = 0) := by
  have squaredX : ((radiusX.natAbs * radiusX.natAbs : Nat) : Int) = radiusX * radiusX :=
    Int.natAbs_mul_self
  have squaredY : ((radiusY.natAbs * radiusY.natAbs : Nat) : Int) = radiusY * radiusY :=
    Int.natAbs_mul_self
  obtain ⟨outlined, stopped⟩ := outlined_columns wide tall
  have turns := outlined.turn_mem squaredX wide tall stopped
  rw [offsets_eq_steep]
  dsimp only
  rw [if_neg Bool.false_ne_true]
  refine ⟨?_, ?_⟩
  · have keeps (cursor : Cursor) :
        (0 < cursor.x ∧ LandsAtEnd radiusX radiusY (cursor.x, cursor.y)) →
        1 < cursor.y →
        let next :=
          cursor.nextRow (radiusX.natAbs * radiusX.natAbs) (radiusY.natAbs * radiusY.natAbs)
        0 < next.x ∧ LandsAtEnd radiusX radiusY (next.x, next.y) := by
      intro stands onward next
      have nextX : next.x = if 0 < cursor.decision then cursor.x else cursor.x + 1 :=
        cursor.x_nextRow
      have nextY : next.y = cursor.y - 1 := cursor.y_nextRow
      refine ⟨by split at nextX <;> omega, ?_⟩
      intro onAxis
      dsimp only at onAxis
      omega
    intro offset member
    have begins := And.intro (outlined.collected _ turns).1 outlined.lands
    rcases steep_induction keeps (by exact begins) offset member with
      earlier | ⟨cursor, stands, rfl⟩
    · exact outlined.collected offset earlier
    · exact stands
  · intro broad
    have onAxis := outlined.flat.stops_at_axis squaredX squaredY wide broad stopped
    rw [steep, if_neg (by dsimp only; omega)]
    exact ⟨_, turns, onAxis⟩

/-- On the outline of a proper oval mirrored points cancel just if it is too flat. -/
theorem uncancelled_of_proper
    (centerX centerY : Int) :
    (∀ point ∈ allSpans centerX centerY radiusX radiusY false,
      cancels radiusX radiusY (point.left - centerX) (point.row - centerY) = false) ↔
    radiusX < 8 * (radiusY * radiusY) := by
  obtain ⟨proper, axis⟩ := offsets_of_proper wide tall
  have boxed : ∀ offset ∈ offsets radiusX radiusY false, Boxed radiusX radiusY offset :=
    boxed_of_mem_offsets (by omega) (by omega)
  simp only [cancels, decide_eq_false_iff_not]
  constructor
  · intro kept
    by_contra broad
    obtain ⟨offset, walked, onAxis⟩ := axis (by omega)
    have short : offset.1 ≠ radiusX := mt ((proper offset walked).2 onAxis).mp broad
    obtain ⟨⟨left, right⟩, -⟩ := boxed offset walked
    have member :
        Span.point (centerX + offset.1) centerY ∈
          allSpans centerX centerY radiusX radiusY false :=
      mem_outline.mpr ⟨rfl, .inl ⟨offset, walked, .inr rfl, .inl (by dsimp only [Span.point]; omega)⟩⟩
    have uncancelled := kept _ member
    dsimp only [Span.point] at uncancelled
    omega
  · intro slim point member
    obtain ⟨-, ⟨offset, walked, corner⟩ | vertical | horizontal⟩ := mem_outline.mp member
    · obtain ⟨right, lands⟩ := proper offset walked
      have atEnd : offset.2 = 0 → offset.1 = radiusX := fun onAxis => (lands onAxis).mpr slim
      omega
    · omega
    · omega

end Proper

/-- Mirrored points cancel on an outline just if the oval is degenerate or too flat. -/
theorem uncancelled_iff
    (centerX centerY : Int)
    {radiusX radiusY : Int}
    (wide : 0 ≤ radiusX)
    (tall : 0 ≤ radiusY) :
    (∀ point ∈ allSpans centerX centerY radiusX radiusY false,
      cancels radiusX radiusY (point.left - centerX) (point.row - centerY) = false) ↔
    0 < radiusX ∧ 0 < radiusY ∧ radiusX < 8 * (radiusY * radiusY) := by
  by_cases proper : 0 < radiusX ∧ 0 < radiusY
  · rw [uncancelled_of_proper proper.1 proper.2]
    exact ⟨fun slim => ⟨proper.1, proper.2, slim⟩, fun slim => slim.2.2⟩
  · -- An axis without length has both of its ends at the center.
    have center :
        Span.point centerX centerY ∈ allSpans centerX centerY radiusX radiusY false := by
      apply mem_outline.mpr
      dsimp only [Span.point]
      exact ⟨rfl, .inr (by omega)⟩
    constructor
    · intro kept
      have uncancelled := kept _ center
      simp [cancels, Span.point] at uncancelled
    · rintro ⟨positiveX, positiveY, -⟩
      exact absurd ⟨positiveX, positiveY⟩ proper

end Oval

namespace Ram

/--
Outlines of ovals invert what they set, but for points that cancel.

Setting an outline sets its points. Inverting it inverts those that do not lie on an
axis of the oval away from its ends. No such point is on the outline just if the oval
has width and height and is less than eight times as wide as the square of its
height; then setting, clearing and inverting change the same pixels.
-/
theorem outline_inverted_exact
    (target : Target)
    (ram : Ram)
    (centerX centerY : Int)
    {radiusX radiusY : Int}
    (wide : 0 ≤ radiusX)
    (tall : 0 ≤ radiusY) :
    let spans := Oval.spans centerX centerY radiusX radiusY false
    let outline := Oval.onOutline centerX centerY radiusX radiusY
    (∀ px < Screen.width, ∀ py < Screen.height,
      (ram.paint target.base .set spans).pixel target.base px py =
        (ram.pixel target.base px py || outline px py) ∧
      (ram.paint target.base .invert spans).pixel target.base px py =
        (ram.pixel target.base px py ^^
          (outline px py && !Oval.cancels radiusX radiusY (px - centerX) (py - centerY)))) ∧
    ((∀ point ∈ Oval.allSpans centerX centerY radiusX radiusY false,
        Oval.cancels radiusX radiusY (point.left - centerX) (point.row - centerY) = false) ↔
      0 < radiusX ∧ 0 < radiusY ∧ radiusX < 8 * (radiusY * radiusY)) ∧
    (0 < radiusX → 0 < radiusY → radiusX < 8 * (radiusY * radiusY) →
      Draws target ram spans outline) := by
  intro spans outline
  have covers (px : Nat) (insidePx : px < Screen.width) (py : Nat) (insidePy : py < Screen.height) :=
    Oval.countP_covers_spans wide tall centerX centerY false insidePx insidePy
  refine ⟨?_, Oval.uncancelled_iff centerX centerY wide tall, ?_⟩
  · intro px insidePx py insidePy
    have covered := Oval.onOutline_iff centerX centerY radiusX radiusY px py
    have odd := Oval.odd_countP_covers_outline wide tall centerX centerY px py
    rw [← covers px insidePx py insidePy] at covered odd
    rw [pixel_paint target.base_le _ insidePx insidePy,
      pixel_paint target.base_le _ insidePx insidePy, ShapeMode.changed, ShapeMode.changed]
    refine ⟨congrArg _ ?_, congrArg _ ?_⟩ <;> apply Bool.eq_iff_iff.mpr
    · rw [bne_iff_ne]
      exact covered.symm
    · rw [beq_iff_eq, Bool.and_eq_true, Bool.not_eq_true']
      exact odd
  · intro positiveX positiveY slim
    apply draws_of_odd
    · intro px insidePx py insidePy onOutline
      rw [covers px insidePx py insidePy]
      apply (Oval.odd_countP_covers_outline wide tall centerX centerY px py).mpr
      refine ⟨onOutline, ?_⟩
      obtain ⟨point, member, here⟩ := Array.any_eq_true'.mp onOutline
      have kept :=
        (Oval.uncancelled_iff centerX centerY wide tall).mpr ⟨positiveX, positiveY, slim⟩ point member
      have single := (Oval.mem_outline.mp member).1
      simp only [Span.covers, decide_eq_true_eq] at here
      have column : point.left = px := by omega
      rwa [column, here.2.2] at kept
    · intro px insidePx py insidePy outside
      rw [covers px insidePx py insidePy]
      by_contra covered
      have onOutline := (Oval.onOutline_iff centerX centerY radiusX radiusY px py).mpr covered
      exact Bool.eq_false_iff.mp outside onOutline

/-- An oval four times as wide as high is not too flat, and the end of its axis is inverted. -/
theorem slim_outline_inverts_end :
    (blank.paint Target.graphics.base .invert (Oval.spans 20 10 8 2 false)).pixel
      Target.graphics.base 28 10 = true := by
  have wide : (0 : Int) ≤ 8 := by decide
  have tall : (0 : Int) ≤ 2 := by decide
  obtain ⟨-, -, drawn⟩ := outline_inverted_exact .graphics blank 20 10 wide tall
  have onOutline : Oval.onOutline 20 10 8 2 28 10 = true := by decide +kernel
  rw [(drawn (by decide) (by decide) (by decide)).invert 28 (by decide) 10 (by decide), onOutline]
  simp [pixel, byte, blank]

/-- An oval eight times as wide as high sets a point of its axis that it does not invert. -/
theorem flat_outline_cancels :
    (blank.paint Target.graphics.base .set (Oval.spans 20 10 8 1 false)).pixel
        Target.graphics.base 27 10 = true ∧
      (blank.paint Target.graphics.base .invert (Oval.spans 20 10 8 1 false)).pixel
        Target.graphics.base 27 10 = blank.pixel Target.graphics.base 27 10 := by
  have twice : (Oval.spans 20 10 8 1 false).toList.countP (Span.covers 27 10) = 2 := by
    decide +kernel
  have insidePx : 27 < Screen.width := by decide
  have insidePy : 10 < Screen.height := by decide
  rw [pixel_paint Target.graphics.base_le _ insidePx insidePy,
    pixel_paint Target.graphics.base_le _ insidePx insidePy, twice]
  simp [ShapeMode.changed]

end Ram

end Handheld
