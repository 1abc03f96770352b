import Mathlib.Data.List.Nodup
import Handheld.Proofs.Screen.Ovals

namespace Handheld

/-!
# Filled ovals

The walk through a quarter collects every offset of an outline, and of a filled
oval only the last one in each row. Both walks stand at the same cursor all the
time, so one invariant speaks of both: the rows collected reach as far to the side
as the points do, no row comes twice, and no point does. A row that lies on the
horizontal axis is drawn twice and then once more as the row through the center.
So filling touches every pixel an odd number of times or not at all.
-/

namespace Oval

/-- Whether the row of an offset is this one and reaches this far to the side. -/
def reaches
    (across row : Int)
    (offset : Int × Int) :
    Bool :=
  offset.2 = row ∧ -offset.1 ≤ across ∧ across ≤ offset.1

/-- Rows collected from the top downward, all of them above a given one. -/
structure Stacked
    (row : Int)
    (ends : Array (Int × Int)) :
    Prop where
  falling : (ends.toList.map Prod.snd).Pairwise (· > ·)
  above : ∀ offset ∈ ends, row < offset.2

/-- Points collected outward and downward, none twice and none beyond a given one. -/
structure Trail
    (x y : Int)
    (points : Array (Int × Int)) :
    Prop where
  nodup : points.toList.Nodup
  behind : ∀ offset ∈ points, offset.1 ≤ x ∧ y ≤ offset.2

/-- The next row down can be collected. -/
theorem Stacked.push
    {row : Int}
    {ends : Array (Int × Int)}
    (stacked : Stacked row ends)
    (x : Int) :
    Stacked (row - 1) (ends.push (x, row)) where
  falling := by
    rw [Array.toList_push, List.map_append, List.pairwise_append]
    refine ⟨stacked.falling, List.pairwise_singleton _ _, ?_⟩
    intro higher member last only
    obtain ⟨offset, collected, rfl⟩ := List.mem_map.mp member
    rw [List.map_singleton, List.mem_singleton] at only
    rw [only]
    exact stacked.above offset (Array.mem_toList_iff.mp collected)
  above := by
    intro offset member
    rcases Array.mem_push.mp member with earlier | rfl
    · have higher := stacked.above offset earlier
      omega
    · dsimp only
      omega

/-- A point farther out or farther down can be collected. -/
theorem Trail.push
    {x y nextX nextY : Int}
    {points : Array (Int × Int)}
    (trail : Trail x y points)
    (outward : x ≤ nextX)
    (downward : nextY ≤ y)
    (onward : x < nextX ∨ nextY < y) :
    Trail nextX nextY (points.push (nextX, nextY)) where
  nodup := by
    rw [Array.toList_push, List.nodup_append]
    refine ⟨trail.nodup, List.pairwise_singleton _ _, ?_⟩
    rintro offset collected last only rfl
    have behind := trail.behind offset (Array.mem_toList_iff.mp collected)
    rw [List.mem_singleton] at only
    rw [only] at behind
    omega
  behind := by
    intro offset member
    rcases Array.mem_push.mp member with earlier | rfl
    · have behind := trail.behind offset earlier
      omega
    · exact ⟨Int.le_refl _, Int.le_refl _⟩

section Together

variable {squareX squareY : Nat}

/--
What a step by columns keeps of both walks holds where they end, which is at the
same cursor.
-/
theorem flat_together
    {motive : Cursor → Array (Int × Int) → Array (Int × Int) → Prop}
    {positive : 0 < squareY}
    {cursor : Cursor}
    {ends : Array (Int × Int)}
    (points : Array (Int × Int))
    (keeps :
      ∀ cursor ends points,
        motive cursor ends points →
        cursor.slopeX < cursor.slopeY →
        let next := cursor.nextColumn squareX squareY
        motive next (if cursor.decision < 0 then ends else ends.push (cursor.x, cursor.y))
          (points.push (next.x, next.y)))
    (starts : motive cursor ends points) :
    let rows := flat squareX squareY positive true cursor ends
    let outline := flat squareX squareY positive false cursor points
    rows.1 = outline.1 ∧ motive rows.1 rows.2 outline.2 := by
  fun_induction flat squareX squareY positive true cursor ends generalizing points with
  | case1 cursor ends onward next now inductionHypothesis =>
      have after := keeps cursor ends points starts onward
      have step :
          flat squareX squareY positive false cursor points =
            flat squareX squareY positive false next (points.push (next.x, next.y)) := by
        rw [flat, if_pos onward]
        rfl
      rw [step]
      exact inductionHypothesis _ after
  | case2 cursor ends stopped =>
      rw [flat, if_neg stopped]
      exact ⟨rfl, starts⟩

/-- What a step by rows keeps of two collections holds where the walk ends. -/
theorem steep_together
    {motive : Cursor → Array (Int × Int) → Array (Int × Int) → Prop}
    {cursor : Cursor}
    {ends : Array (Int × Int)}
    (points : Array (Int × Int))
    (keeps :
      ∀ cursor ends points,
        motive cursor ends points →
        1 < cursor.y →
        let next := cursor.nextRow squareX squareY
        motive next (ends.push (next.x, next.y)) (points.push (next.x, next.y)))
    (starts : motive cursor ends points) :
    ∃ last, motive last (steep squareX squareY cursor ends) (steep squareX squareY cursor points) := by
  fun_induction steep squareX squareY cursor ends generalizing points with
  | case1 cursor ends onward next inductionHypothesis =>
      have after := keeps cursor ends points starts onward
      have step :
          steep squareX squareY cursor points =
            steep squareX squareY next (points.push (next.x, next.y)) := by
        rw [steep, if_pos onward]
      rw [step]
      exact inductionHypothesis _ after
  | case2 cursor ends stopped =>
      rw [steep, if_neg stopped]
      exact ⟨cursor, starts⟩

end Together

section Steps

variable
  {radiusY : Int}
  {squareX squareY : Nat}

/-- The next column is one further right. -/
theorem Cursor.x_nextColumn
    (cursor : Cursor) :
    (cursor.nextColumn squareX squareY).x = cursor.x + 1 := by
  unfold nextColumn
  split <;> rfl

/-- The next column is as high or one lower, as the decision says. -/
theorem Cursor.y_nextColumn
    (cursor : Cursor) :
    (cursor.nextColumn squareX squareY).y =
      if cursor.decision < 0 then cursor.y else cursor.y - 1 := by
  unfold nextColumn
  split <;> rfl

/-- The next row is as wide or one wider, as the decision says. -/
theorem Cursor.x_nextRow
    (cursor : Cursor) :
    (cursor.nextRow squareX squareY).x =
      if 0 < cursor.decision then cursor.x else cursor.x + 1 := by
  unfold nextRow
  split <;> rfl

/-- The next row is one lower. -/
theorem Cursor.y_nextRow
    (cursor : Cursor) :
    (cursor.nextRow squareX squareY).y = cursor.y - 1 := by
  unfold nextRow
  split <;> rfl

/--
Where a walk by columns can stand with what it has collected of a filled oval and of
an outline. The row of the cursor is not yet among the rows, and the top of the oval
is never among the points.
-/
structure Abreast
    (radiusY : Int)
    (cursor : Cursor)
    (ends points : Array (Int × Int)) :
    Prop where
  level :
    ∀ across row,
      (ends.push (cursor.x, cursor.y)).any (reaches across row) =
        (points.push (0, radiusY)).any (reaches across row)
  stacked : Stacked cursor.y ends
  trail : Trail cursor.x cursor.y points

/-- Where a walk by rows can stand with what it has collected of both. -/
structure Level
    (radiusY : Int)
    (cursor : Cursor)
    (ends points : Array (Int × Int)) :
    Prop where
  level :
    ∀ across row,
      ends.any (reaches across row) = (points.push (0, radiusY)).any (reaches across row)
  stacked : Stacked (cursor.y - 1) ends
  trail : Trail cursor.x cursor.y points

/-- At the start nothing is drawn, in outline or filled. -/
theorem abreast_start
    (squareX squareY : Nat)
    (radiusY : Int) :
    Abreast radiusY (start squareX squareY radiusY) #[] #[] where
  level _ _ := rfl
  stacked := ⟨List.Pairwise.nil, by simp⟩
  trail := ⟨List.Pairwise.nil, by simp⟩

/-- A row that goes on reaches farther than before; one that is left is collected as it is. -/
theorem Abreast.nextColumn
    {cursor : Cursor}
    {ends points : Array (Int × Int)}
    (abreast : Abreast radiusY cursor ends points) :
    let next := cursor.nextColumn squareX squareY
    Abreast radiusY next
      (if cursor.decision < 0 then ends else ends.push (cursor.x, cursor.y))
      (points.push (next.x, next.y)) := by
  intro next
  have nextX : next.x = cursor.x + 1 := cursor.x_nextColumn
  have nextY : next.y = if cursor.decision < 0 then cursor.y else cursor.y - 1 :=
    cursor.y_nextColumn
  have level := abreast.level
  have trail : Trail next.x next.y (points.push (next.x, next.y)) := by
    apply abreast.trail.push
    · omega
    · split at nextY <;> omega
    · omega
  by_cases stays : cursor.decision < 0
  · rw [if_pos stays] at nextY ⊢
    refine { level := ?_, stacked := ?_, trail := trail }
    · intro across row
      have before := level across row
      have farther :
          reaches across row (cursor.x, cursor.y) = true →
          reaches across row (next.x, next.y) = true := by
        simp only [reaches, decide_eq_true_eq]
        omega
      simp only [Array.any_push] at before ⊢
      grind
    · rw [nextY]
      exact abreast.stacked
  · rw [if_neg stays] at nextY ⊢
    refine { level := ?_, stacked := ?_, trail := trail }
    · intro across row
      have before := level across row
      simp only [Array.any_push] at before ⊢
      rw [before, Bool.or_right_comm]
    · rw [nextY]
      exact abreast.stacked.push cursor.x

/-- Where the walk by columns ends, its row is collected and the walk by rows begins. -/
theorem Abreast.turn
    {cursor : Cursor}
    {ends points : Array (Int × Int)}
    (abreast : Abreast radiusY cursor ends points)
    (decision : Int) :
    Level radiusY { cursor with decision := decision } (ends.push (cursor.x, cursor.y)) points where
  level := abreast.level
  stacked := abreast.stacked.push cursor.x
  trail := abreast.trail

/-- Going down a row keeps the filled oval level with its outline. -/
theorem Level.nextRow
    {cursor : Cursor}
    {ends points : Array (Int × Int)}
    (together : Level radiusY cursor ends points) :
    let next := cursor.nextRow squareX squareY
    Level radiusY next (ends.push (next.x, next.y)) (points.push (next.x, next.y)) := by
  intro next
  have nextX : next.x = if 0 < cursor.decision then cursor.x else cursor.x + 1 :=
    cursor.x_nextRow
  have nextY : next.y = cursor.y - 1 := cursor.y_nextRow
  refine { level := ?_, stacked := ?_, trail := ?_ }
  · intro across row
    have before := together.level across row
    simp only [Array.any_push] at before ⊢
    rw [before, Bool.or_right_comm]
  · rw [nextY]
    exact together.stacked.push next.x
  · apply together.trail.push
    · split at nextX <;> omega
    · omega
    · omega

end Steps

/-- The walk by columns of an oval; an oval without height has none. -/
def columns
    (radiusX radiusY : Int)
    (filled : Bool) :
    Cursor × Array (Int × Int) :=
  let squareX := radiusX.natAbs * radiusX.natAbs
  let squareY := radiusY.natAbs * radiusY.natAbs
  let first := start squareX squareY radiusY
  if positive : 0 < squareY then
    flat squareX squareY positive filled first #[]
  else
    (first, #[])

/-- Where columns end, the offsets are continued row by row. -/
theorem offsets_eq_steep
    (radiusX radiusY : Int)
    (filled : Bool) :
    offsets radiusX radiusY filled =
      let squareX := radiusX.natAbs * radiusX.natAbs
      let squareY := radiusY.natAbs * radiusY.natAbs
      let turn := (columns radiusX radiusY filled).1
      let visited := (columns radiusX radiusY filled).2
      steep squareX squareY
        { turn with decision := steepDecision squareX squareY turn.x turn.y }
        (if filled then visited.push (turn.x, turn.y) else visited) :=
  rfl

/-- What a step by columns keeps of both walks of an oval holds where they end. -/
theorem columns_together
    (radiusX radiusY : Int)
    {motive : Cursor → Array (Int × Int) → Array (Int × Int) → Prop}
    (starts :
      motive
        (start (radiusX.natAbs * radiusX.natAbs) (radiusY.natAbs * radiusY.natAbs) radiusY)
        #[] #[])
    (keeps :
      ∀ cursor ends points,
        motive cursor ends points →
        cursor.slopeX < cursor.slopeY →
        let next :=
          cursor.nextColumn (radiusX.natAbs * radiusX.natAbs) (radiusY.natAbs * radiusY.natAbs)
        motive next (if cursor.decision < 0 then ends else ends.push (cursor.x, cursor.y))
          (points.push (next.x, next.y))) :
    let rows := columns radiusX radiusY true
    let outline := columns radiusX radiusY false
    rows.1 = outline.1 ∧ motive rows.1 rows.2 outline.2 := by
  unfold columns
  dsimp only
  split
  · exact flat_together #[] keeps starts
  · exact ⟨rfl, starts⟩

/-- What the walks through a quarter collect of a filled oval and of an outline belongs together. -/
theorem level_offsets
    (radiusX radiusY : Int) :
    ∃ last, Level radiusY last (offsets radiusX radiusY true) (offsets radiusX radiusY false) := by
  obtain ⟨same, abreast⟩ :=
    columns_together radiusX radiusY (abreast_start _ _ radiusY) fun _ _ _ abreast _ =>
      Abreast.nextColumn abreast
  rw [offsets_eq_steep, offsets_eq_steep]
  dsimp only
  rw [if_pos rfl, if_neg Bool.false_ne_true, ← same]
  apply steep_together
  · intro cursor ends points together _
    exact together.nextRow
  · exact abreast.turn _

/-- Of rows that lie one below the other, at most one reaches a given place. -/
theorem Stacked.countP_reaches
    {bottom : Int}
    {ends : Array (Int × Int)}
    (stacked : Stacked bottom ends)
    (across row : Int) :
    ends.toList.countP (reaches across row) =
      if ends.any (reaches across row) then 1 else 0 := by
  have rows : (ends.toList.map Prod.snd).Nodup := stacked.falling.imp (by omega)
  have atMost : ends.toList.countP (reaches across row) ≤ 1 := by
    calc
      ends.toList.countP (reaches across row)
        ≤ ends.toList.countP ((· == row) ∘ Prod.snd) := by
          apply List.countP_mono_left
          intro offset _ reached
          simp only [reaches, decide_eq_true_eq] at reached
          simpa using reached.1
      _ = (ends.toList.map Prod.snd).count row := by
          rw [List.count_eq_countP, List.countP_map]
      _ ≤ 1 := List.nodup_iff_count_le_one.mp rows row
  rw [← Array.any_toList]
  split
  · rename_i some
    have positive := List.countP_pos_iff.mpr (List.any_eq_true.mp some)
    omega
  · rename_i none
    apply List.countP_eq_zero.mpr
    exact List.any_eq_false.mp (Bool.eq_false_iff.mpr none)

/-- The rows for an offset cover a pixel as the offset reaches it above or below the center. -/
theorem countP_covers_bands
    (centerX centerY : Int)
    (offsets : List (Int × Int))
    (px py : Nat) :
    (offsets.flatMap fun offset => (bands centerX centerY offset).toList).countP
        (Span.covers px py) =
      offsets.countP (reaches (px - centerX) (py - centerY)) +
        offsets.countP (reaches (px - centerX) (centerY - py)) := by
  induction offsets with
  | nil => rfl
  | cons offset rest inductionHypothesis =>
      have below :
          Span.covers px py
              { left := centerX - offset.1
                right := centerX + offset.1
                row := centerY + offset.2 } =
            reaches (px - centerX) (py - centerY) offset := by
        apply decide_eq_decide.mpr
        dsimp only
        omega
      have above :
          Span.covers px py
              { left := centerX - offset.1
                right := centerX + offset.1
                row := centerY - offset.2 } =
            reaches (px - centerX) (centerY - py) offset := by
        apply decide_eq_decide.mpr
        dsimp only
        omega
      rw [List.flatMap_cons, List.countP_append, inductionHypothesis]
      simp only [bands, List.countP_cons, List.countP_nil, below, above]
      omega

/--
Whether a pixel lies between an outline and the vertical axis: some point of the
outline in the row of the pixel is as far from the axis or farther.
-/
def hull
    (centerX centerY radiusX radiusY : Int)
    (px py : Nat) :
    Bool :=
  (allSpans centerX centerY radiusX radiusY false).any fun point =>
    point.row = py ∧ |(px : Int) - centerX| ≤ point.left - centerX

/-- An outline is made of four points for each offset and of the ends of both axes. -/
theorem mem_outline
    {centerX centerY radiusX radiusY : Int}
    {point : Span} :
    point ∈ allSpans centerX centerY radiusX radiusY false ↔
      point.right = point.left ∧
        ((∃ offset ∈ offsets radiusX radiusY false,
          (point.left = centerX - offset.1 ∨ point.left = centerX + offset.1) ∧
            (point.row = centerY - offset.2 ∨ point.row = centerY + offset.2)) ∨
        point.left = centerX ∧
          (point.row = centerY - radiusY ∨ point.row = centerY + radiusY) ∨
        point.row = centerY ∧
          (point.left = centerX - radiusX ∨ point.left = centerX + radiusX)) := by
  obtain ⟨left, right, row⟩ := point
  unfold allSpans
  dsimp only
  rw [if_neg Bool.false_ne_true, Array.mem_append, Array.mem_flatMap]
  simp only [corners, List.mem_toArray, List.mem_cons, List.not_mem_nil, or_false, Span.point,
    Span.mk.injEq]
  constructor
  · rintro (⟨offset, walked, corner⟩ | axis)
    · exact ⟨by omega, .inl ⟨offset, walked, by omega⟩⟩
    · exact ⟨by omega, .inr (by omega)⟩
  · rintro ⟨rfl, ⟨offset, walked, rfl | rfl, rfl | rfl⟩ | ⟨rfl, rfl | rfl⟩ | ⟨rfl, rfl | rfl⟩⟩
    · exact .inl ⟨offset, walked, .inl ⟨rfl, rfl, rfl⟩⟩
    · exact .inl ⟨offset, walked, .inr (.inl ⟨rfl, rfl, rfl⟩)⟩
    · exact .inl ⟨offset, walked, .inr (.inr (.inl ⟨rfl, rfl, rfl⟩))⟩
    · exact .inl ⟨offset, walked, .inr (.inr (.inr ⟨rfl, rfl, rfl⟩))⟩
    · exact .inr (.inr (.inl ⟨rfl, rfl, rfl⟩))
    · exact .inr (.inl ⟨rfl, rfl, rfl⟩)
    · exact .inr (.inr (.inr (.inr ⟨rfl, rfl, rfl⟩)))
    · exact .inr (.inr (.inr (.inl ⟨rfl, rfl, rfl⟩)))

section Filling

variable
  {radiusX radiusY : Int}
  (wide : 0 ≤ radiusX)
  (tall : 0 ≤ radiusY)

include wide tall

/-- On the screen an oval covers what all of its spans cover. -/
theorem countP_covers_spans
    (centerX centerY : Int)
    (filled : Bool)
    {px py : Nat}
    (insidePx : px < Screen.width)
    (insidePy : py < Screen.height) :
    (spans centerX centerY radiusX radiusY filled).toList.countP (Span.covers px py) =
      (allSpans centerX centerY radiusX radiusY filled).toList.countP (Span.covers px py) := by
  unfold spans
  split
  · rename_i misses
    exact (countP_covers_offScreen wide tall misses insidePx insidePy).symm
  · rfl

/-- The points of the offsets and the ends of the axes span what the offsets reach. -/
theorem hull_eq
    (centerX centerY : Int)
    (px py : Nat) :
    hull centerX centerY radiusX radiusY px py =
      (((offsets radiusX radiusY false).push (0, radiusY)).any
          (reaches (px - centerX) ((py : Int) - centerY).natAbs) ||
        reaches (px - centerX) (py - centerY) (radiusX, 0)) := by
  apply Bool.eq_iff_iff.mpr
  rw [hull, Bool.or_eq_true, Array.any_eq_true', Array.any_eq_true']
  simp only [reaches, decide_eq_true_eq, abs_le]
  constructor
  · rintro ⟨point, member, same, left, right⟩
    obtain ⟨-, ⟨offset, walked, corner⟩ | vertical | horizontal⟩ := mem_outline.mp member
    · obtain ⟨⟨inner, -⟩, low, -⟩ := boxed_of_mem_offsets wide tall offset walked
      exact .inl ⟨offset, Array.mem_push_of_mem _ walked, by omega⟩
    · exact .inl ⟨(0, radiusY), Array.mem_push_self, by omega⟩
    · exact .inr (by omega)
  · rintro (⟨offset, collected, level, left, right⟩ | ⟨level, left, right⟩)
    · refine ⟨Span.point (centerX + offset.1) py, ?_, rfl, by dsimp only [Span.point]; omega⟩
      apply mem_outline.mpr
      dsimp only [Span.point]
      rcases Array.mem_push.mp collected with walked | rfl
      · exact ⟨rfl, .inl ⟨offset, walked, by omega⟩⟩
      · exact ⟨rfl, .inr (by dsimp only at level ⊢; omega)⟩
    · refine ⟨Span.point (centerX + radiusX) centerY, ?_, by dsimp only [Span.point]; omega⟩
      exact mem_outline.mpr ⟨rfl, .inr (.inr ⟨rfl, .inr rfl⟩)⟩

/-- An offset does not lie below the axis and is not wider than the oval. -/
theorem any_reaches_filled
    {across row : Int}
    (reached : (offsets radiusX radiusY true).any (reaches across row) = true) :
    0 ≤ row ∧ reaches across 0 (radiusX, 0) = true := by
  obtain ⟨offset, walked, here⟩ := Array.any_eq_true'.mp reached
  obtain ⟨⟨inner, outer⟩, low, -⟩ := boxed_of_mem_offsets wide tall offset walked
  simp only [reaches, decide_eq_true_eq] at here ⊢
  exact ⟨by omega, trivial, by omega, by omega⟩

/-- Of the two rows of an offset off the axis one lies above the center and one below it. -/
theorem any_reaches_either
    (across : Int)
    {down : Int}
    (off : down ≠ 0) :
    ((if (offsets radiusX radiusY true).any (reaches across down) then 1 else 0) +
        if (offsets radiusX radiusY true).any (reaches across (-down)) then 1 else 0) =
      if (offsets radiusX radiusY true).any (reaches across down.natAbs) then 1 else 0 := by
  have none {row : Int} (low : row < 0) :
      (offsets radiusX radiusY true).any (reaches across row) = false := by
    apply Bool.eq_false_iff.mpr
    intro reached
    have high := (any_reaches_filled wide tall reached).1
    omega
  rcases lt_or_gt_of_ne off with above | below
  · have distance : (down.natAbs : Int) = -down := by omega
    rw [distance, none above, if_neg Bool.false_ne_true, Nat.zero_add]
  · have distance : (down.natAbs : Int) = down := by omega
    have mirrored : (offsets radiusX radiusY true).any (reaches across (-down)) = false :=
      none (by omega)
    rw [distance, mirrored, if_neg Bool.false_ne_true, Nat.add_zero]

/--
Filling an oval covers the pixels between its outline and the axis an odd number of
times, and no other pixel.
-/
theorem countP_covers_filled
    (centerX centerY : Int)
    (px py : Nat) :
    let times := (allSpans centerX centerY radiusX radiusY true).toList.countP (Span.covers px py)
    (hull centerX centerY radiusX radiusY px py = true → times % 2 = 1) ∧
      (hull centerX centerY radiusX radiusY px py = false → times = 0) := by
  intro times
  obtain ⟨last, level, stacked, -⟩ := level_offsets radiusX radiusY
  have axis :
      Span.covers px py
          { left := centerX - radiusX, right := centerX + radiusX, row := centerY } =
        reaches (px - centerX) (py - centerY) (radiusX, 0) := by
    apply decide_eq_decide.mpr
    dsimp only
    omega
  have total :
      times =
        ((if (offsets radiusX radiusY true).any (reaches (px - centerX) (py - centerY)) then 1
            else 0) +
          if (offsets radiusX radiusY true).any (reaches (px - centerX) (-(py - centerY))) then 1
            else 0) +
        if reaches (px - centerX) (py - centerY) (radiusX, 0) then 1 else 0 := by
    dsimp only [times, allSpans]
    rw [if_pos rfl, Array.toList_push, Array.toList_flatMap, List.countP_append,
      countP_covers_bands, List.countP_singleton, axis, stacked.countP_reaches,
      stacked.countP_reaches, Int.neg_sub]
  rw [hull_eq wide tall, ← level, total]
  generalize (py : Int) - centerY = down
  generalize (px : Int) - centerX = across
  by_cases off : down = 0
  · -- The row through the center is drawn once, and an offset on it is drawn twice.
    rw [off, Int.neg_zero, Int.natAbs_zero, Int.natCast_zero]
    cases onAxis : reaches across 0 (radiusX, 0) with
    | true => split <;> simp
    | false =>
        have none : (offsets radiusX radiusY true).any (reaches across 0) = false := by
          apply Bool.eq_false_iff.mpr
          intro reached
          have within := (any_reaches_filled wide tall reached).2
          exact Bool.false_ne_true (onAxis.symm.trans within)
        simp [none]
  · have elsewhere : reaches across down (radiusX, 0) = false :=
      decide_eq_false fun here => off here.1.symm
    rw [any_reaches_either wide tall across off, elsewhere]
    cases (offsets radiusX radiusY true).any (reaches across down.natAbs) <;> simp

end Filling

end Oval

namespace Ram

/--
Filled ovals match their outline.

Filling an oval sets, clears or inverts the same pixels: those of the screen between
the outline, as it would be on an unbounded screen, and the vertical axis.
-/
theorem filled_oval_exact
    (target : Target)
    (ram : Ram)
    (centerX centerY : Int)
    {radiusX radiusY : Int}
    (wide : 0 ≤ radiusX)
    (tall : 0 ≤ radiusY) :
    Draws target ram (Oval.spans centerX centerY radiusX radiusY true)
      (Oval.hull centerX centerY radiusX radiusY) := by
  apply draws_of_odd
  · intro px insidePx py insidePy inside
    rw [Oval.countP_covers_spans wide tall centerX centerY true insidePx insidePy]
    exact (Oval.countP_covers_filled wide tall centerX centerY px py).1 inside
  · intro px insidePx py insidePy outside
    rw [Oval.countP_covers_spans wide tall centerX centerY true insidePx insidePy]
    exact (Oval.countP_covers_filled wide tall centerX centerY px py).2 outside

/-- The center of a flat oval is covered three times, and inverting the oval inverts it. -/
theorem flat_oval_inverts_center :
    (blank.paint Target.graphics.base .invert (Oval.spans 20 10 8 1 true)).pixel
      Target.graphics.base 20 10 = true := by
  have wide : (0 : Int) ≤ 8 := by decide
  have tall : (0 : Int) ≤ 1 := by decide
  have drawn := filled_oval_exact .graphics blank 20 10 wide tall
  have inside : Oval.hull 20 10 8 1 20 10 = true := by
    apply Array.any_eq_true'.mpr
    exact ⟨Span.point 28 10, Oval.mem_outline.mpr ⟨rfl, .inr (.inr ⟨rfl, .inr rfl⟩)⟩, by decide⟩
  rw [drawn.invert 20 (by decide) 10 (by decide), inside]
  simp [pixel, byte, blank]

end Ram

end Handheld
