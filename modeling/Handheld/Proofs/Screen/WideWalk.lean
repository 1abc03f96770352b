import Mathlib.Algebra.Order.Ring.Abs
import Handheld.Screen.Oval

namespace Handheld

/-!
# The walk around an oval in wide words

Ovals are walked over integers without bounds. Here the same walk is written in
words of 64 bits, one operation after the other. An operation whose word is not the
number that it should stand for gives `none`, and so does a loop that goes on for too
many rounds.

From a cursor that is `Modest` every operation of a step is exact, and so is every
operation on the way from an offset to its spans.
-/

namespace Oval.Wide

/-- A word, provided that it stands for the given number. -/
def exactly
    (word : Int64)
    (value : Int) :
    Option Int64 :=
  if word.toInt = value then some word else none

/-- The sum of two words, if it does not wrap around. -/
def add
    (left right : Int64) :
    Option Int64 :=
  exactly (left + right) (left.toInt + right.toInt)

/-- The difference of two words, if it does not wrap around. -/
def sub
    (left right : Int64) :
    Option Int64 :=
  exactly (left - right) (left.toInt - right.toInt)

/-- The product of two words, if it does not wrap around. -/
def mul
    (left right : Int64) :
    Option Int64 :=
  exactly (left * right) (left.toInt * right.toInt)

/-- A word shifted down by two bits, if this is its quarter rounded down. -/
def quarter (word : Int64) : Option Int64 :=
  exactly (word >>> 2) (word.toInt / 4)

/-- A cursor in words. -/
structure Cursor where
  x : Int64
  y : Int64
  slopeX : Int64
  slopeY : Int64
  decision : Int64

/-- A span in words. -/
structure Span where
  left : Int64
  right : Int64
  row : Int64

/-- The squares of both radii and their doubles, by which the slopes change. -/
structure Weights where
  squareX : Int64
  squareY : Int64
  twiceX : Int64
  twiceY : Int64

/-- The weights for two radii. -/
def weights
    (radiusX radiusY : Int64) :
    Option Weights := do
  let squareX ← mul radiusX radiusX
  let squareY ← mul radiusY radiusY
  let twiceX ← mul squareX 2
  let twiceY ← mul squareY 2
  return { squareX, squareY, twiceX, twiceY }

/-- Where the walk by columns starts. -/
def start
    (weights : Weights)
    (radiusY : Int64) :
    Option Cursor := do
  let slopeY ← mul weights.twiceX radiusY
  let fall ← mul weights.squareX radiusY
  let rest ← sub weights.squareY fall
  let rounding ← quarter (← add weights.squareX 2)
  let decision ← add rest rounding
  return { x := 0, y := radiusY, slopeX := 0, slopeY, decision }

/-- Advance by one column, and by one row when the curve has dropped far enough. -/
def Cursor.nextColumn
    (weights : Weights)
    (cursor : Cursor) :
    Option Cursor := do
  let x ← add cursor.x 1
  let slopeX ← add cursor.slopeX weights.twiceY
  if cursor.decision < 0 then
    let change ← add weights.squareY slopeX
    let decision ← add cursor.decision change
    return { cursor with x, slopeX, decision }
  else
    let y ← sub cursor.y 1
    let slopeY ← sub cursor.slopeY weights.twiceX
    let change ← sub (← add weights.squareY slopeX) slopeY
    let decision ← add cursor.decision change
    return { x, y, slopeX, slopeY, decision }

/-- The decision value with which the walk by rows starts at an offset. -/
def steepDecision
    (weights : Weights)
    (x y : Int64) :
    Option Int64 := do
  let edge ← mul weights.squareY x
  let across ← mul edge x
  let below ← sub y 1
  let upward ← mul (← mul weights.squareX below) below
  let curve ← add (← add across edge) upward
  let area ← mul weights.squareX weights.squareY
  let rounding ← quarter (← add weights.squareY 2)
  add (← sub curve area) rounding

/-- Advance to the row `y`, and by one column when the curve has moved outward far enough. -/
def Cursor.nextRow
    (weights : Weights)
    (cursor : Cursor)
    (y : Int64) :
    Option Cursor := do
  let slopeY ← sub cursor.slopeY weights.twiceX
  if 0 < cursor.decision then
    let change ← sub weights.squareX slopeY
    let decision ← add cursor.decision change
    return { cursor with y, slopeY, decision }
  else
    let x ← add cursor.x 1
    let slopeX ← add cursor.slopeX weights.twiceY
    let change ← add (← sub weights.squareX slopeY) slopeX
    let decision ← add cursor.decision change
    return { x, y, slopeX, slopeY, decision }

/-- The span of a single pixel. -/
def Span.point
    (x y : Int64) :
    Span :=
  { left := x, right := x, row := y }

/-- The four points of an outline for an offset, or the two rows of a filled oval. -/
def shape
    (filled : Bool)
    (centerX centerY x y : Int64) :
    Option (Array Span) := do
  let left ← sub centerX x
  let right ← add centerX x
  let upper ← sub centerY y
  let lower ← add centerY y
  if filled then
    return #[{ left, right, row := lower }, { left, right, row := upper }]
  else
    return #[.point left upper, .point left lower, .point right upper, .point right lower]

/-- The two rows of a filled oval that end one column before an offset. -/
def rowsBefore
    (centerX centerY x y : Int64) :
    Option (Array Span) := do
  let left ← add (← sub centerX x) 1
  let right ← sub (← add centerX x) 1
  let lower ← add centerY y
  let upper ← sub centerY y
  return #[{ left, right, row := lower }, { left, right, row := upper }]

/-- What a step by columns adds: the rows that it leaves, or the points that it reaches. -/
def columnShape
    (filled : Bool)
    (centerX centerY : Int64)
    (cursor next : Cursor) :
    Option (Array Span) :=
  if filled then
    if cursor.decision < 0 then
      some #[]
    else
      rowsBefore centerX centerY next.x cursor.y
  else
    shape false centerX centerY next.x next.y

/-- What is added where the walk by columns ends: the rows that it has not left. -/
def turnShape
    (filled : Bool)
    (centerX centerY : Int64)
    (turn : Cursor) :
    Option (Array Span) :=
  if filled then
    shape true centerX centerY turn.x turn.y
  else
    some #[]

/-- Walk by columns, up to a number of rounds. -/
def flat
    (limit : Nat)
    (centerX centerY : Int64)
    (weights : Weights)
    (filled : Bool)
    (cursor : Cursor)
    (spans : Array Span) :
    Option (Cursor × Array Span) :=
  match limit with
  | 0 => none
  | rest + 1 =>
      if cursor.slopeX < cursor.slopeY then do
        let next ← cursor.nextColumn weights
        let added ← columnShape filled centerX centerY cursor next
        flat rest centerX centerY weights filled next (spans ++ added)
      else
        some (cursor, spans)

/--
Walk by rows, up to a number of rounds. A row is counted down before it is compared
with the axis.
-/
def steep
    (limit : Nat)
    (centerX centerY : Int64)
    (weights : Weights)
    (filled : Bool)
    (cursor : Cursor)
    (spans : Array Span) :
    Option (Array Span) :=
  match limit with
  | 0 => none
  | rest + 1 => do
      let y ← sub cursor.y 1
      if y ≤ 0 then
        some spans
      else
        let next ← cursor.nextRow weights y
        let added ← shape filled centerX centerY next.x next.y
        steep rest centerX centerY weights filled next (spans ++ added)

/-- The row through the center of a filled oval, or the ends of both axes of an outline. -/
def axes
    (filled : Bool)
    (centerX centerY radiusX radiusY : Int64) :
    Option (Array Span) := do
  let left ← sub centerX radiusX
  let right ← add centerX radiusX
  let upper ← sub centerY radiusY
  let lower ← add centerY radiusY
  if filled then
    return #[{ left, right, row := centerY }]
  else
    return #[.point centerX lower, .point centerX upper, .point right centerY, .point left centerY]

/-- The spans of an oval, whether or not they lie on the screen. -/
def allSpans
    (limit : Nat)
    (centerX centerY radiusX radiusY : Int64)
    (filled : Bool) :
    Option (Array Span) := do
  let weights ← weights radiusX radiusY
  let first ← start weights radiusY
  let (turn, visited) ← flat limit centerX centerY weights filled first #[]
  let atTurn ← turnShape filled centerX centerY turn
  let decision ← steepDecision weights turn.x turn.y
  let walked ←
    steep limit centerX centerY weights filled { turn with decision } (visited ++ atTurn)
  let ends ← axes filled centerX centerY radiusX radiusY
  return walked ++ ends

/-- Whether the box around an oval misses the screen. -/
def offScreen
    (centerX centerY radiusX radiusY : Int64) :
    Option Bool := do
  let left ← sub centerX radiusX
  let right ← add centerX radiusX
  let upper ← sub centerY radiusY
  let lower ← add centerY radiusY
  return left ≥ .ofInt Screen.width || right < 0 || upper ≥ .ofInt Screen.height || lower < 0

/-- The spans of an oval; none when the box around it misses the screen. -/
def spans
    (limit : Nat)
    (centerX centerY radiusX radiusY : Int64)
    (filled : Bool) :
    Option (Array Span) := do
  if ← offScreen centerX centerY radiusX radiusY then
    return #[]
  else
    allSpans limit centerX centerY radiusX radiusY filled

/-- The values that a word can stand for. -/
abbrev Fits (value : Int) : Prop :=
  -9223372036854775808 ≤ value ∧ value ≤ 9223372036854775807

/-- A number that fits is the value of its word. -/
theorem toInt_ofInt
    {value : Int}
    (fits : Fits value) :
    (Int64.ofInt value).toInt = value :=
  Int64.toInt_ofInt_of_le fits.1 (by omega)

/-- A word that has the exact value is accepted. -/
theorem exactly_ofInt
    {value : Int}
    (fits : Fits value) :
    exactly (.ofInt value) value = some (.ofInt value) :=
  if_pos (toInt_ofInt fits)

section Operations

variable
  {left right : Int}
  (leftFits : Fits left)
  (rightFits : Fits right)

include leftFits rightFits

/-- Addition succeeds where the sum fits. -/
theorem add_ofInt
    (fits : Fits (left + right)) :
    add (.ofInt left) (.ofInt right) = some (.ofInt (left + right)) := by
  rw [add, toInt_ofInt leftFits, toInt_ofInt rightFits, ← Int64.ofInt_add]
  exact exactly_ofInt fits

/-- Subtraction succeeds where the difference fits. -/
theorem sub_ofInt
    (fits : Fits (left - right)) :
    sub (.ofInt left) (.ofInt right) = some (.ofInt (left - right)) := by
  rw [sub, toInt_ofInt leftFits, toInt_ofInt rightFits, ← Int64.ofInt_sub]
  exact exactly_ofInt fits

/-- Multiplication succeeds where the product fits. -/
theorem mul_ofInt
    (fits : Fits (left * right)) :
    mul (.ofInt left) (.ofInt right) = some (.ofInt (left * right)) := by
  rw [mul, toInt_ofInt leftFits, toInt_ofInt rightFits, ← Int64.ofInt_mul]
  exact exactly_ofInt fits

theorem lt_ofInt :
    Int64.ofInt left < Int64.ofInt right ↔ left < right := by
  rw [Int64.lt_iff_toInt_lt, toInt_ofInt leftFits, toInt_ofInt rightFits]

theorem le_ofInt :
    Int64.ofInt left ≤ Int64.ofInt right ↔ left ≤ right := by
  rw [Int64.le_iff_toInt_le, toInt_ofInt leftFits, toInt_ofInt rightFits]

end Operations

/-- Shifting right by two places divides by four, rounding down. -/
theorem toInt_shiftRight_two (word : Int64) :
    (word >>> 2).toInt = word.toInt / 4 := by
  have amount : (2 : Int64).toBitVec.smod 64 = 2#64 := by decide
  rw [Int64.toInt, Int64.toBitVec_shiftRight, amount, BitVec.sshiftRight',
    BitVec.toInt_sshiftRight, Int.shiftRight_eq_div_pow]
  rfl

/-- A quarter always fits. -/
theorem quarter_ofInt
    {value : Int}
    (fits : Fits value) :
    quarter (.ofInt value) = some (.ofInt (value / 4)) := by
  have shifted : (Int64.ofInt value >>> 2).toInt = value / 4 := by
    rw [toInt_shiftRight_two, toInt_ofInt fits]
  rw [quarter, toInt_ofInt fits, exactly, if_pos shifted, ← shifted, Int64.ofInt_toInt]

/-- A cursor written in words. -/
def Cursor.ofExact (cursor : Oval.Cursor) : Cursor where
  x := .ofInt cursor.x
  y := .ofInt cursor.y
  slopeX := .ofInt cursor.slopeX
  slopeY := .ofInt cursor.slopeY
  decision := .ofInt cursor.decision

/-- Weights written in words. -/
def Weights.ofSquares (squareX squareY : Nat) : Weights where
  squareX := .ofInt squareX
  squareY := .ofInt squareY
  twiceX := .ofInt (2 * squareX)
  twiceY := .ofInt (2 * squareY)

/-- The span that the words of a span stand for. -/
def Span.exact (span : Span) : Handheld.Span where
  left := span.left.toInt
  right := span.right.toInt
  row := span.row.toInt

/-- Whether a number is at most as far from zero as a bound. -/
abbrev Bounded (bound value : Int) : Prop :=
  -bound ≤ value ∧ value ≤ bound

/-- A cursor from which every operation of a step is exact. -/
structure Modest (cursor : Oval.Cursor) : Prop where
  x : Bounded 20000 cursor.x
  y : Bounded 20000 cursor.y
  slopeX : Bounded 16000000000000 cursor.slopeX
  slopeY : Bounded 16000000000000 cursor.slopeY
  decision : Bounded 1000000000000000000 cursor.decision

/-- Bounds of factors bound the product. -/
theorem bounded_mul
    {left right leftBound rightBound : Int}
    (leftBounded : Bounded leftBound left)
    (rightBounded : Bounded rightBound right) :
    Bounded (leftBound * rightBound) (left * right) := by
  have leftSize : |left| ≤ leftBound := abs_le.mpr leftBounded
  have rightSize : |right| ≤ rightBound := abs_le.mpr rightBounded
  have positive : 0 ≤ leftBound := (abs_nonneg left).trans leftSize
  apply abs_le.mp
  rw [abs_mul]
  exact mul_le_mul leftSize rightSize (abs_nonneg right) positive

theorem zero_eq_ofInt : (0 : Int64) = .ofInt 0 := rfl

theorem one_eq_ofInt : (1 : Int64) = .ofInt 1 := rfl

theorem two_eq_ofInt : (2 : Int64) = .ofInt 2 := rfl

section Steps

variable
  {squareX squareY : Nat}
  (squareX_le : squareX ≤ 400000000)
  (squareY_le : squareY ≤ 400000000)

include squareX_le squareY_le

/-- A modest cursor goes to the next column without overflow. -/
theorem nextColumn_exact
    {cursor : Oval.Cursor}
    (modest : Modest cursor) :
    (Cursor.ofExact cursor).nextColumn (.ofSquares squareX squareY) =
      some (.ofExact (cursor.nextColumn squareX squareY)) := by
  obtain ⟨x, y, slopeX, slopeY, decision⟩ := modest
  unfold Cursor.nextColumn Oval.Cursor.nextColumn Cursor.ofExact Weights.ofSquares
  by_cases negative : cursor.decision < 0
  · simp (disch := omega) only [zero_eq_ofInt, one_eq_ofInt, add_ofInt, lt_ofInt, negative,
      if_true, Option.bind_eq_bind, Option.bind_some, Option.pure_def, Int.add_assoc]
  · simp (disch := omega) only [zero_eq_ofInt, one_eq_ofInt, add_ofInt, sub_ofInt, lt_ofInt,
      negative, if_false, Option.bind_eq_bind, Option.bind_some, Option.pure_def, Int.add_assoc,
      Int.add_sub_assoc]

/-- A modest cursor goes to the next row without overflow. -/
theorem nextRow_exact
    {cursor : Oval.Cursor}
    (modest : Modest cursor) :
    (Cursor.ofExact cursor).nextRow (.ofSquares squareX squareY) (.ofInt (cursor.y - 1)) =
      some (.ofExact (cursor.nextRow squareX squareY)) := by
  obtain ⟨x, y, slopeX, slopeY, decision⟩ := modest
  unfold Cursor.nextRow Oval.Cursor.nextRow Cursor.ofExact Weights.ofSquares
  by_cases outside : 0 < cursor.decision
  · simp (disch := omega) only [zero_eq_ofInt, add_ofInt, sub_ofInt, lt_ofInt, outside,
      if_true, Option.bind_eq_bind, Option.bind_some, Option.pure_def, Int.add_sub_assoc]
  · simp (disch := omega) only [zero_eq_ofInt, one_eq_ofInt, add_ofInt, sub_ofInt, lt_ofInt,
      outside, if_false, Option.bind_eq_bind, Option.bind_some, Option.pure_def, Int.add_assoc,
      Int.add_sub_assoc]

/-- The start of an admitted oval fits. -/
theorem start_exact
    {radiusY : Int}
    (bounded : Bounded 20000 radiusY) :
    start (.ofSquares squareX squareY) (.ofInt radiusY) =
      some (.ofExact (Oval.start squareX squareY radiusY)) := by
  have slope : Bounded (800000000 * 20000) (2 * squareX * radiusY) :=
    bounded_mul (by omega) bounded
  have fall : Bounded (400000000 * 20000) (squareX * radiusY) := bounded_mul (by omega) bounded
  unfold start Oval.start Cursor.ofExact Weights.ofSquares
  simp (disch := omega) only [zero_eq_ofInt, two_eq_ofInt, add_ofInt, sub_ofInt, mul_ofInt,
    quarter_ofInt, Option.bind_eq_bind, Option.bind_some, Option.pure_def]

/-- Every product of the decision between columns and rows is bounded. -/
theorem steepDecision_terms
    {x y : Int}
    (columns : Bounded 20000 x)
    (rows : Bounded 20000 y) :
    Bounded 8000000000000 (squareY * x) ∧
      Bounded 160000000000000000 (squareY * x * x) ∧
      Bounded 8000400000000 (squareX * (y - 1)) ∧
      Bounded 160016000400000000 (squareX * (y - 1) * (y - 1)) ∧
      Bounded 160000000000000000 (squareX * squareY) := by
  have below : Bounded 20001 (y - 1) := by omega
  have weightX : Bounded 400000000 squareX := by omega
  have weightY : Bounded 400000000 squareY := by omega
  have edge := bounded_mul weightY columns
  have upward := bounded_mul weightX below
  exact ⟨edge, bounded_mul edge columns, upward, bounded_mul upward below,
    bounded_mul weightX weightY⟩

/-- The decision between columns and rows is computed without overflow. -/
theorem steepDecision_exact
    {cursor : Oval.Cursor}
    (columns : Bounded 20000 cursor.x)
    (rows : Bounded 20000 cursor.y) :
    steepDecision (.ofSquares squareX squareY) (Cursor.ofExact cursor).x (Cursor.ofExact cursor).y =
      some (.ofInt (Oval.steepDecision squareX squareY cursor.x cursor.y)) := by
  obtain ⟨edge, across, row, upward, area⟩ :=
    steepDecision_terms squareX_le squareY_le columns rows
  unfold steepDecision Oval.steepDecision Weights.ofSquares Cursor.ofExact
  simp (disch := omega) only [one_eq_ofInt, two_eq_ofInt, add_ofInt, sub_ofInt, mul_ofInt,
    quarter_ofInt, Option.bind_eq_bind, Option.bind_some]

end Steps

/-- The points or rows of an oval for an offset. -/
def exactShape
    (filled : Bool)
    (centerX centerY : Int) :
    Int × Int → Array Handheld.Span :=
  if filled then bands centerX centerY else corners centerX centerY

/-- The row or the points of an oval on its axes. -/
def exactAxes
    (filled : Bool)
    (centerX centerY radiusX radiusY : Int) :
    Array Handheld.Span :=
  if filled then
    #[{ left := centerX - radiusX, right := centerX + radiusX, row := centerY }]
  else
    #[
      Handheld.Span.point centerX (centerY + radiusY),
      Handheld.Span.point centerX (centerY - radiusY),
      Handheld.Span.point (centerX + radiusX) centerY,
      Handheld.Span.point (centerX - radiusX) centerY
    ]

/-- An oval is made of what its offsets add and of what lies on its axes. -/
theorem allSpans_eq_append
    (filled : Bool)
    (centerX centerY radiusX radiusY : Int) :
    Oval.allSpans centerX centerY radiusX radiusY filled =
      (offsets radiusX radiusY filled).flatMap (exactShape filled centerX centerY) ++
        exactAxes filled centerX centerY radiusX radiusY := by
  cases filled with
  | false => rfl
  | true => exact Array.push_eq_append

section Shapes

variable
  {centerX centerY : Int}
  (onX : Bounded 2147483648 centerX)
  (onY : Bounded 2147483648 centerY)
  {x y : Int}
  (columns : Bounded 20001 x)
  (rows : Bounded 20001 y)

include onX onY columns rows

/-- The spans of an offset are computed without overflow. -/
theorem shape_exact
    (filled : Bool) :
    ∃ words,
      shape filled (.ofInt centerX) (.ofInt centerY) (.ofInt x) (.ofInt y) = some words ∧
        words.map Span.exact = exactShape filled centerX centerY (x, y) := by
  unfold shape
  simp (disch := omega) only [add_ofInt, sub_ofInt, Option.bind_eq_bind, Option.bind_some]
  cases filled with
  | false =>
      refine ⟨_, rfl, ?_⟩
      simp (disch := omega) only [List.map_toArray, List.map_cons, List.map_nil, Span.exact,
        Span.point, toInt_ofInt]
      rfl
  | true =>
      refine ⟨_, rfl, ?_⟩
      simp (disch := omega) only [List.map_toArray, List.map_cons, List.map_nil, Span.exact,
        toInt_ofInt]
      rfl

/-- To step back from a counted column is as exact as not to have counted it. -/
theorem rowsBefore_exact :
    ∃ words,
      rowsBefore (.ofInt centerX) (.ofInt centerY) (.ofInt x) (.ofInt y) = some words ∧
        words.map Span.exact = bands centerX centerY (x - 1, y) := by
  have left : centerX - x + 1 = centerX - (x - 1) := by omega
  have right : centerX + x - 1 = centerX + (x - 1) := by omega
  unfold rowsBefore
  simp (disch := omega) only [one_eq_ofInt, add_ofInt, sub_ofInt, Option.bind_eq_bind,
    Option.bind_some]
  refine ⟨_, rfl, ?_⟩
  simp (disch := omega) only [List.map_toArray, List.map_cons, List.map_nil, Span.exact,
    toInt_ofInt, left, right]
  rfl

/-- The spans on the axes are computed without overflow. -/
theorem axes_exact
    (filled : Bool) :
    ∃ words,
      axes filled (.ofInt centerX) (.ofInt centerY) (.ofInt x) (.ofInt y) = some words ∧
        words.map Span.exact = exactAxes filled centerX centerY x y := by
  unfold axes
  simp (disch := omega) only [add_ofInt, sub_ofInt, Option.bind_eq_bind, Option.bind_some]
  cases filled with
  | false =>
      refine ⟨_, rfl, ?_⟩
      simp (disch := omega) only [List.map_toArray, List.map_cons, List.map_nil, Span.exact,
        Span.point, toInt_ofInt]
      rfl
  | true =>
      refine ⟨_, rfl, ?_⟩
      simp (disch := omega) only [List.map_toArray, List.map_cons, List.map_nil, Span.exact,
        toInt_ofInt]
      rfl

/-- Words tell alike whether the oval has left the screen. -/
theorem offScreen_exact :
    offScreen (.ofInt centerX) (.ofInt centerY) (.ofInt x) (.ofInt y) =
      some (Oval.offScreen centerX centerY x y) := by
  unfold offScreen Oval.offScreen Screen.width Screen.height
  simp (disch := omega) only [zero_eq_ofInt, add_ofInt, sub_ofInt, lt_ofInt, le_ofInt, ge_iff_le,
    Option.bind_eq_bind, Option.bind_some, Option.pure_def]

end Shapes

end Oval.Wide

end Handheld
