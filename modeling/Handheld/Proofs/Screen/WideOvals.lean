import Handheld.Proofs.Screen.FilledOvals
import Handheld.Proofs.Screen.WideWalk

namespace Handheld

/-!
# Ovals in wide words

For radii up to 20000 the walk in words always gives spans, and they are those of the
walk without bounds. The decision value is of the fourth degree in the radii and is only
ever added to. It stays small because it is the equation of the curve at a point of the
box, which `Cursor.Flat` and `Cursor.Steep` say of every place where a walk can stand.
-/

namespace Oval.Wide

section Collected

variable
  {squareX squareY : Nat}
  {centerX centerY : Int}
  (onX : Bounded 2147483648 centerX)
  (onY : Bounded 2147483648 centerY)
  {filled : Bool}
  {collected : Array (Int × Int)}
  {words : Array Span}
  (same : words.map Span.exact = collected.flatMap (exactShape filled centerX centerY))

include onX onY same

/-- What an offset adds in words is what it adds. -/
theorem shape_exact_append
    {cursor : Oval.Cursor}
    (columns : Bounded 20001 cursor.x)
    (rows : Bounded 20001 cursor.y) :
    ∃ added,
      shape filled (.ofInt centerX) (.ofInt centerY) (Cursor.ofExact cursor).x
          (Cursor.ofExact cursor).y =
          some added ∧
        (words ++ added).map Span.exact =
          (collected.push (cursor.x, cursor.y)).flatMap (exactShape filled centerX centerY) := by
  obtain ⟨added, computed, drawn⟩ := shape_exact onX onY columns rows filled
  refine ⟨added, computed, ?_⟩
  rw [Array.map_append, same, drawn, Array.flatMap_push]

/-- What a step by columns adds in words is what it adds. -/
theorem columnShape_exact_append
    {cursor : Oval.Cursor}
    (modest : Modest cursor) :
    let next := cursor.nextColumn squareX squareY
    ∃ added,
      columnShape filled (.ofInt centerX) (.ofInt centerY) (.ofExact cursor) (.ofExact next) =
          some added ∧
        (words ++ added).map Span.exact =
          (if filled then
            if cursor.decision < 0 then collected else collected.push (cursor.x, cursor.y)
          else
            collected.push (next.x, next.y)).flatMap (exactShape filled centerX centerY) := by
  intro next
  have columns := modest.x
  have rows := modest.y
  have decision := modest.decision
  have nextX : next.x = cursor.x + 1 := cursor.x_nextColumn
  have nextY : next.y = if cursor.decision < 0 then cursor.y else cursor.y - 1 :=
    cursor.y_nextColumn
  cases filled with
  | false =>
      have nextRow : Bounded 20001 next.y := by
        split at nextY <;> omega
      exact shape_exact_append onX onY same (by omega) nextRow
  | true =>
      have sign : (Cursor.ofExact cursor).decision < 0 ↔ cursor.decision < 0 := by
        rw [zero_eq_ofInt]
        exact lt_ofInt (by omega) (by omega)
      by_cases stays : cursor.decision < 0
      · refine ⟨#[], ?_, ?_⟩
        · unfold columnShape
          rw [if_pos rfl, if_pos (sign.mpr stays)]
        · rw [if_pos rfl, if_pos stays, Array.append_empty]
          exact same
      · have nextColumn : Bounded 20001 (cursor.x + 1) := by omega
        have row : Bounded 20001 cursor.y := by omega
        obtain ⟨added, computed, drawn⟩ := rowsBefore_exact onX onY nextColumn row
        rw [Int.add_sub_cancel] at drawn
        refine ⟨added, ?_, ?_⟩
        · rw [columnShape, if_pos rfl, if_neg (mt sign.mp stays)]
          unfold Cursor.ofExact
          rw [nextX]
          exact computed
        · rw [if_pos rfl, if_neg stays, Array.map_append, same, drawn, Array.flatMap_push]
          rfl

/-- A turn adds to the spans what it adds without bounds. -/
theorem turnShape_exact_append
    {turn : Oval.Cursor}
    (columns : Bounded 20000 turn.x)
    (rows : Bounded 20000 turn.y) :
    ∃ added,
      turnShape filled (.ofInt centerX) (.ofInt centerY) (.ofExact turn) = some added ∧
        (words ++ added).map Span.exact =
          (if filled then collected.push (turn.x, turn.y) else collected).flatMap
            (exactShape filled centerX centerY) := by
  cases filled with
  | false =>
      refine ⟨#[], rfl, ?_⟩
      rw [Array.append_empty]
      exact same
  | true =>
      have nearColumns : Bounded 20001 turn.x := by omega
      have nearRows : Bounded 20001 turn.y := by omega
      exact shape_exact_append onX onY same nearColumns nearRows

end Collected

/-- The row that was counted down is on the axis or below just when the walk stops. -/
theorem counted_row
    {cursor : Oval.Cursor}
    (rows : Bounded 20000 cursor.y) :
    sub (Cursor.ofExact cursor).y 1 = some (.ofInt (cursor.y - 1)) ∧
      (Int64.ofInt (cursor.y - 1) ≤ 0 ↔ cursor.y ≤ 1) := by
  rw [zero_eq_ofInt, one_eq_ofInt, le_ofInt (by omega) (by omega)]
  exact ⟨sub_ofInt (by omega) (by omega) (by omega), by omega⟩

/-- The square of an admitted radius. -/
theorem square_le
    {radius : Int}
    {square : Nat}
    (squared : (square : Int) = radius * radius)
    (bounded : Bounded 20000 radius) :
    square ≤ 400000000 := by
  have product := bounded_mul bounded bounded
  omega

/-- A cursor where the walk by columns ends, as the walk by rows takes it over. -/
def turned
    (squareX squareY : Nat)
    (cursor : Oval.Cursor) :
    Oval.Cursor :=
  { cursor with decision := Oval.steepDecision squareX squareY cursor.x cursor.y }

/-- Where a walk by columns ends: in the box, or where no walk by rows follows. -/
structure Turn
    (radiusX radiusY : Int)
    (squareX squareY : Nat)
    (cursor : Oval.Cursor) :
    Prop where
  x : Bounded 20000 cursor.x
  y : Bounded 20000 cursor.y
  steep : 1 < cursor.y → (turned squareX squareY cursor).Steep radiusX radiusY squareX squareY

section Walk

variable
  {radiusX radiusY : Int}
  {squareX squareY : Nat}
  (squaredX : (squareX : Int) = radiusX * radiusX)
  (squaredY : (squareY : Int) = radiusY * radiusY)
  (narrow : Bounded 20000 radiusX)
  (low : Bounded 20000 radiusY)

include squaredX squaredY narrow low

/-- In the box all but the decision value is small at once. -/
theorem modest_of_inside
    {cursor : Oval.Cursor}
    (inside : cursor.Inside radiusX radiusY squareX squareY)
    (decides :
      Bounded 20000 cursor.x →
      Bounded 20000 cursor.y →
      Bounded 1000000000000000000 cursor.decision) :
    Modest cursor := by
  have squareX_le := square_le squaredX narrow
  have squareY_le := square_le squaredY low
  obtain ⟨⟨left, right⟩, bottom, top⟩ := inside.boxed
  dsimp only at left right bottom top
  have columns : Bounded 20000 cursor.x := by omega
  have rows : Bounded 20000 cursor.y := by omega
  have twiceX : Bounded 800000000 (2 * squareX) := by omega
  have twiceY : Bounded 800000000 (2 * squareY) := by omega
  refine {
    x := columns
    y := rows
    slopeX := ?_
    slopeY := ?_
    decision := decides columns rows
  }
  · rw [inside.slopeX]
    exact bounded_mul twiceY columns
  · rw [inside.slopeY]
    exact bounded_mul twiceX rows

/-- Where a walk by columns can stand, it decides by the curve at a point of the box. -/
theorem modest_of_flat
    {cursor : Oval.Cursor}
    (stands : cursor.Flat radiusX radiusY squareX squareY) :
    Modest cursor := by
  have squareX_le := square_le squaredX narrow
  have squareY_le := square_le squaredY low
  have weightX : Bounded 400000000 squareX := by omega
  have weightY : Bounded 400000000 squareY := by omega
  apply modest_of_inside squaredX squaredY narrow low stands.toInside
  intro columns rows
  have next : Bounded 20001 (cursor.x + 1) := by omega
  have squaredRow : Bounded 400000000 (cursor.y * cursor.y) := bounded_mul rows rows
  have middle : Bounded 400020000 (cursor.y * cursor.y - cursor.y) := by omega
  have across := bounded_mul weightY (bounded_mul next next)
  have upward := bounded_mul weightX middle
  have area := bounded_mul weightX weightY
  rw [stands.decision, belowRow]
  omega

/-- Where a walk by rows can stand, it decides by the curve at a point of the box. -/
theorem modest_of_steep
    {cursor : Oval.Cursor}
    (stands : cursor.Steep radiusX radiusY squareX squareY) :
    Modest cursor := by
  have squareX_le := square_le squaredX narrow
  have squareY_le := square_le squaredY low
  apply modest_of_inside squaredX squaredY narrow low stands.toInside
  intro columns rows
  obtain ⟨edge, across, row, upward, area⟩ :=
    steepDecision_terms squareX_le squareY_le columns rows
  rw [stands.decision, Oval.steepDecision]
  omega

/-- A cursor that stands in the flat part is in range for one more turn. -/
theorem turn_of_flat
    {cursor : Oval.Cursor}
    (stands : cursor.Flat radiusX radiusY squareX squareY) :
    Turn radiusX radiusY squareX squareY cursor := by
  have modest := modest_of_flat squaredX squaredY narrow low stands
  refine { x := modest.x, y := modest.y, steep := ?_ }
  intro _
  exact {
    slopeX := stands.slopeX
    slopeY := stands.slopeY
    boxed := stands.boxed
    decision := rfl
  }

variable
  {centerX centerY : Int}
  (onX : Bounded 2147483648 centerX)
  (onY : Bounded 2147483648 centerY)
  {filled : Bool}

include onX onY

/-- The walk by columns in words ends where the walk does, with the same spans. -/
theorem flat_exact
    {positive : 0 < squareY}
    {cursor : Oval.Cursor}
    (stands : cursor.Flat radiusX radiusY squareX squareY)
    {collected : Array (Int × Int)}
    (words : Array Span)
    (same : words.map Span.exact = collected.flatMap (exactShape filled centerX centerY))
    (limit : Nat)
    (enough : (radiusX - cursor.x).toNat < limit) :
    let walked := Oval.flat squareX squareY positive filled cursor collected
    ∃ visited,
      flat limit (.ofInt centerX) (.ofInt centerY) (.ofSquares squareX squareY) filled
          (.ofExact cursor) words =
          some (.ofExact walked.1, visited) ∧
        visited.map Span.exact = walked.2.flatMap (exactShape filled centerX centerY) := by
  obtain ⟨rest, rfl⟩ : ∃ rest, limit = rest + 1 := ⟨limit - 1, by omega⟩
  -- Along the walk over integers: each round in words is one round of it, a column further.
  fun_induction Oval.flat squareX squareY positive filled cursor collected
    generalizing words rest with
  | case1 cursor collected onward next now inductionHypothesis =>
      have modest := modest_of_flat squaredX squaredY narrow low stands
      have slopeX := modest.slopeX
      have slopeY := modest.slopeY
      have ahead : (Cursor.ofExact cursor).slopeX < (Cursor.ofExact cursor).slopeY :=
        (lt_ofInt (by omega) (by omega)).mpr onward
      have stepped := nextColumn_exact (square_le squaredX narrow) (square_le squaredY low) modest
      obtain ⟨added, computed, drawn⟩ := columnShape_exact_append onX onY same modest
      have narrower := (stands.lt_radius squaredX onward).1
      have nextX : next.x = cursor.x + 1 := cursor.x_nextColumn
      obtain ⟨fewer, rfl⟩ : ∃ fewer, rest = fewer + 1 := ⟨rest - 1, by omega⟩
      rw [flat, if_pos ahead, stepped, Option.bind_eq_bind, Option.bind_some, computed]
      exact inductionHypothesis (stands.nextColumn squaredX onward) (words ++ added) drawn fewer
        (by omega)
  | case2 cursor collected stopped =>
      have modest := modest_of_flat squaredX squaredY narrow low stands
      have slopeX := modest.slopeX
      have slopeY := modest.slopeY
      have behind : ¬ (Cursor.ofExact cursor).slopeX < (Cursor.ofExact cursor).slopeY :=
        mt (lt_ofInt (by omega) (by omega)).mp stopped
      rw [flat, if_neg behind]
      exact ⟨words, rfl, same⟩

/-- The walk by rows in words gives the same spans. -/
theorem steep_exact
    (cursor : Oval.Cursor)
    (stands : 1 < cursor.y → cursor.Steep radiusX radiusY squareX squareY)
    (rows : Bounded 20000 cursor.y)
    {collected : Array (Int × Int)}
    (words : Array Span)
    (same : words.map Span.exact = collected.flatMap (exactShape filled centerX centerY))
    (limit : Nat)
    (enough : cursor.y.toNat < limit) :
    ∃ visited,
      steep limit (.ofInt centerX) (.ofInt centerY) (.ofSquares squareX squareY) filled
          (.ofExact cursor) words =
          some visited ∧
        visited.map Span.exact =
          (Oval.steep squareX squareY cursor collected).flatMap
            (exactShape filled centerX centerY) := by
  obtain ⟨rest, rfl⟩ : ∃ rest, limit = rest + 1 := ⟨limit - 1, by omega⟩
  fun_induction Oval.steep squareX squareY cursor collected generalizing words rest with
  | case1 cursor collected onward next inductionHypothesis =>
      have modest := modest_of_steep squaredX squaredY narrow low (stands onward)
      have columns := modest.x
      have nextX : next.x = if 0 < cursor.decision then cursor.x else cursor.x + 1 :=
        cursor.x_nextRow
      have nextY : next.y = cursor.y - 1 := cursor.y_nextRow
      have nextColumn : Bounded 20001 next.x := by
        split at nextX <;> omega
      have nextRow : Bounded 20001 next.y := by omega
      have further : next.Steep radiusX radiusY squareX squareY :=
        (stands onward).nextRow squaredX squaredY onward
      obtain ⟨counted, axis⟩ := counted_row rows
      have above : ¬ Int64.ofInt (cursor.y - 1) ≤ 0 := mt axis.mp (by omega)
      have stepped := nextRow_exact (square_le squaredX narrow) (square_le squaredY low) modest
      obtain ⟨added, computed, drawn⟩ := shape_exact_append onX onY same nextColumn nextRow
      obtain ⟨fewer, rfl⟩ : ∃ fewer, rest = fewer + 1 := ⟨rest - 1, by omega⟩
      rw [steep, counted, Option.bind_eq_bind, Option.bind_some, if_neg above, stepped,
        Option.bind_eq_bind, Option.bind_some, computed]
      exact inductionHypothesis (fun _ => further) (by omega) (words ++ added) drawn fewer
        (by omega)
  | case2 cursor collected stopped =>
      obtain ⟨counted, axis⟩ := counted_row rows
      have reached : Int64.ofInt (cursor.y - 1) ≤ 0 := axis.mpr (by omega)
      rw [steep, counted, Option.bind_eq_bind, Option.bind_some, if_pos reached]
      exact ⟨words, rfl, same⟩

end Walk

section Oval

variable
  {radiusX radiusY : Int}
  (narrow : Bounded 20000 radiusX)
  (low : Bounded 20000 radiusY)

include narrow low

/-- The weights of the radii are computed without overflow. -/
theorem weights_exact :
    weights (.ofInt radiusX) (.ofInt radiusY) =
      some
        (.ofSquares (radiusX.natAbs * radiusX.natAbs) (radiusY.natAbs * radiusY.natAbs)) := by
  have squareX := bounded_mul narrow narrow
  have squareY := bounded_mul low low
  unfold weights Weights.ofSquares
  rw [Int.natAbs_mul_self, Int.natAbs_mul_self]
  simp (disch := omega) only [two_eq_ofInt, mul_ofInt, Option.bind_eq_bind, Option.bind_some,
    Option.pure_def, Int.mul_comm 2]

omit narrow low in
/-- Without a positive height there is no walk by columns. -/
theorem slopeY_start_le
    (squareX squareY : Nat)
    (level : radiusY ≤ 0) :
    ¬ (Oval.start squareX squareY radiusY).slopeX < (Oval.start squareX squareY radiusY).slopeY := by
  have slope : 2 * (squareX : Int) * radiusY ≤ 0 :=
    mul_nonpos_of_nonneg_of_nonpos (by omega) level
  exact not_lt.mpr slope

omit narrow low in
/-- An oval without height has no columns to walk. -/
theorem columns_of_nonpos
    (level : radiusY ≤ 0)
    (filled : Bool) :
    columns radiusX radiusY filled =
      (Oval.start (radiusX.natAbs * radiusX.natAbs) (radiusY.natAbs * radiusY.natAbs) radiusY,
        #[]) := by
  unfold columns
  dsimp only
  split
  · rw [Oval.flat, if_neg (slopeY_start_le _ _ level)]
  · rfl

omit narrow in
/-- The walk in words stops at once for an oval without height, too. -/
theorem flat_of_nonpos
    {squareX squareY : Nat}
    (squareX_le : squareX ≤ 400000000)
    (level : radiusY ≤ 0)
    (limit : Nat)
    (centerX centerY : Int64)
    (filled : Bool) :
    flat (limit + 1) centerX centerY (.ofSquares squareX squareY) filled
        (.ofExact (Oval.start squareX squareY radiusY)) #[] =
      some (.ofExact (Oval.start squareX squareY radiusY), #[]) := by
  have twice : Bounded 800000000 (2 * squareX) := by omega
  have slope := bounded_mul twice low
  have slopeFits : Fits (2 * squareX * radiusY) := by omega
  have zeroFits : Fits 0 := by decide
  have behind :
      ¬ (Cursor.ofExact (Oval.start squareX squareY radiusY)).slopeX <
        (Cursor.ofExact (Oval.start squareX squareY radiusY)).slopeY :=
    mt (lt_ofInt zeroFits slopeFits).mp (slopeY_start_le squareX squareY level)
  rw [flat, if_neg behind]

variable
  {centerX centerY : Int}
  (onX : Bounded 2147483648 centerX)
  (onY : Bounded 2147483648 centerY)
  {limit : Nat}
  (enough : 20000 < limit)

include onX onY enough

/-- The walk by columns of an oval in words ends where the walk does, with the same spans. -/
theorem columns_exact
    (filled : Bool) :
    let squareX := radiusX.natAbs * radiusX.natAbs
    let squareY := radiusY.natAbs * radiusY.natAbs
    let walked := columns radiusX radiusY filled
    Turn radiusX.natAbs radiusY squareX squareY walked.1 ∧
      ∃ visited,
        flat limit (.ofInt centerX) (.ofInt centerY) (.ofSquares squareX squareY) filled
            (.ofExact (Oval.start squareX squareY radiusY)) #[] =
            some (.ofExact walked.1, visited) ∧
          visited.map Span.exact = walked.2.flatMap (exactShape filled centerX centerY) := by
  intro squareX squareY walked
  have squaredX : (squareX : Int) = radiusX.natAbs * radiusX.natAbs := Int.natCast_mul _ _
  have squaredY : (squareY : Int) = radiusY * radiusY := Int.natAbs_mul_self
  have narrowAbs : Bounded 20000 radiusX.natAbs := by omega
  have nothing :
      (#[] : Array Span).map Span.exact =
        (#[] : Array (Int × Int)).flatMap (exactShape filled centerX centerY) := by
    rw [Array.map_empty, Array.flatMap_empty]
  by_cases level : radiusY ≤ 0
  · have stays : walked = (Oval.start squareX squareY radiusY, #[]) := columns_of_nonpos level filled
    have origin : Bounded 20000 0 := by decide
    rw [stays]
    refine ⟨{ x := origin, y := low, steep := ?_ }, #[], ?_, nothing⟩
    · intro onward
      exact absurd (lt_of_lt_of_le onward level) (by decide)
    · obtain ⟨rest, rfl⟩ : ∃ rest, limit = rest + 1 := ⟨limit - 1, by omega⟩
      exact flat_of_nonpos low (square_le squaredX narrowAbs) level rest _ _ filled
  · have positive : 0 < squareY := Nat.mul_pos (by omega) (by omega)
    have walks :
        walked =
          Oval.flat squareX squareY positive filled (Oval.start squareX squareY radiusY) #[] :=
      dif_pos positive
    have begins :
        (Oval.start squareX squareY radiusY).Flat radiusX.natAbs radiusY squareX squareY :=
      flat_start squaredY (by omega) (by omega)
    rw [walks]
    have columns : ((radiusX.natAbs : Int) - 0).toNat < limit := by omega
    refine ⟨?_, flat_exact squaredX squaredY narrowAbs low onX onY begins #[] nothing limit columns⟩
    exact turn_of_flat squaredX squaredY narrowAbs low (boxed_of_mem_flat squaredX begins).1

/-- The spans of an oval in words are its spans. -/
theorem allSpans_exact
    (filled : Bool) :
    ∃ words,
      allSpans limit (.ofInt centerX) (.ofInt centerY) (.ofInt radiusX) (.ofInt radiusY) filled =
          some words ∧
        words.map Span.exact = Oval.allSpans centerX centerY radiusX radiusY filled := by
  have squaredX := Int.natCast_mul radiusX.natAbs radiusX.natAbs
  have squaredY : _ = radiusY * radiusY := Int.natAbs_mul_self
  have narrowAbs : Bounded 20000 radiusX.natAbs := by omega
  have squareX_le := square_le squaredX narrowAbs
  have squareY_le := square_le squaredY low
  have begins := start_exact squareX_le squareY_le low
  obtain ⟨turn, visited, walked, same⟩ := columns_exact narrow low onX onY enough filled
  have decides := steepDecision_exact squareX_le squareY_le turn.x turn.y
  obtain ⟨added, atTurn, sameAtTurn⟩ := turnShape_exact_append onX onY same turn.x turn.y
  have height := turn.y
  have enoughRows : (columns radiusX radiusY filled).1.y.toNat < limit := by omega
  obtain ⟨rows, descended, sameRows⟩ :=
    steep_exact squaredX squaredY narrowAbs low onX onY (turned _ _ _) turn.steep turn.y _
      sameAtTurn limit enoughRows
  obtain ⟨ends, reached, drawn⟩ :=
    axes_exact onX onY (by omega : Bounded 20001 radiusX) (by omega : Bounded 20001 radiusY) filled
  refine ⟨rows ++ ends, ?_, ?_⟩
  · unfold allSpans
    simp only [Option.bind_eq_bind, Option.bind_some, weights_exact narrow low, begins, walked,
      atTurn, decides, reached]
    exact Option.bind_eq_some_iff.mpr ⟨rows, descended, rfl⟩
  · rw [Array.map_append, sameRows, drawn, allSpans_eq_append, offsets_eq_steep]
    rfl

/-- The spans in words are those without bounds. -/
theorem spans_exact
    (filled : Bool) :
    ∃ words,
      spans limit (.ofInt centerX) (.ofInt centerY) (.ofInt radiusX) (.ofInt radiusY) filled =
          some words ∧
        words.map Span.exact = Oval.spans centerX centerY radiusX radiusY filled := by
  have columns : Bounded 20001 radiusX := by omega
  have rows : Bounded 20001 radiusY := by omega
  unfold spans Oval.spans
  rw [offScreen_exact onX onY columns rows, Option.bind_eq_bind, Option.bind_some]
  split
  · exact ⟨#[], rfl, Array.map_empty⟩
  · exact allSpans_exact narrow low onX onY enough filled

end Oval

/-- Words that stand for the same span are the same. -/
theorem exact_injective
    (left right : Span)
    (same : left.exact = right.exact) :
    left = right := by
  simp only [Span.exact, Handheld.Span.mk.injEq, Int64.toInt_inj] at same
  obtain ⟨sameLeft, sameRight, sameRow⟩ := same
  cases left
  cases right
  congr

/--
Oval arithmetic is exact for radii up to 20000.

For every center and all such radii, negative ones included, both loops in 64 bit words
end within 20000 rounds, so that a limit above that makes no difference. No operation on
the way wraps around, and the spans are those of the walk over all integers.
-/
theorem oval_arithmetic_exact
    (centerX centerY radiusX radiusY : Word)
    (narrow : -20000 ≤ radiusX.toInt ∧ radiusX.toInt ≤ 20000)
    (low : -20000 ≤ radiusY.toInt ∧ radiusY.toInt ≤ 20000)
    (filled : Bool) :
    ∃ words,
      (∀ limit > 20000,
        spans limit centerX.toInt64 centerY.toInt64 radiusX.toInt64 radiusY.toInt64 filled =
          some words) ∧
      words.map Span.exact =
        Oval.spans centerX.toInt centerY.toInt radiusX.toInt radiusY.toInt filled := by
  have widened (word : Word) : word.toInt64 = .ofInt word.toInt := by
    rw [← Int32.toInt_toInt64, Int64.ofInt_toInt]
  have centered (word : Word) : Bounded 2147483648 word.toInt :=
    ⟨word.le_toInt, word.toInt_lt.le⟩
  have walks (limit : Nat) (enough : 20000 < limit) :=
    spans_exact narrow low (centered centerX) (centered centerY) enough filled
  obtain ⟨words, -, same⟩ := walks 20001 (by decide)
  refine ⟨words, ?_, same⟩
  intro limit enough
  obtain ⟨others, computed, sameAgain⟩ := walks limit enough
  have unlimited : others = words :=
    (Array.map_inj_right exact_injective).mp (sameAgain.trans same.symm)
  rw [widened, widened, widened, widened, computed, unlimited]

/--
The largest circle around the middle of the screen is exact. One that is a hundred times
as large has slopes that no word can hold.
-/
theorem largest_circle_exact :
    (∃ words,
      (∀ limit > 20000,
        spans limit (80 : Word).toInt64 (40 : Word).toInt64 (20000 : Word).toInt64
          (20000 : Word).toInt64 true = some words) ∧
      words.map Span.exact = Oval.spans 80 40 20000 20000 true) ∧
    spans 20001 80 40 2000000 2000000 true = none := by
  have largest : -20000 ≤ (20000 : Word).toInt ∧ (20000 : Word).toInt ≤ 20000 := by decide
  exact ⟨oval_arithmetic_exact 80 40 20000 20000 largest largest true, rfl⟩

end Oval.Wide

end Handheld
