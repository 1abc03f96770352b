import Handheld.Screen.Span

namespace Handheld

/-!
# Ovals

An oval is walked through one quarter, from the top of its vertical axis down to
its horizontal axis, by the midpoint rule. As long as the curve is flatter than
a diagonal the walk goes by columns (`Oval.flat`), after that by rows
(`Oval.steep`). Each visited offset stands for four points of an outline, or for
the two rows of a filled oval that reach that far to both sides.
-/

namespace Oval

/-- Where a walk stands: the offset from the center, both slopes and the decision value. -/
structure Cursor where
  x : Int
  y : Int
  slopeX : Int
  slopeY : Int
  decision : Int
  deriving DecidableEq, Repr

/-- Advance by one column, and by one row when the curve has dropped far enough. -/
def Cursor.nextColumn
    (squareX squareY : Nat)
    (cursor : Cursor) :
    Cursor :=
  let slopeX := cursor.slopeX + 2 * squareY
  if cursor.decision < 0 then
    { cursor with
      x := cursor.x + 1
      slopeX := slopeX
      decision := cursor.decision + squareY + slopeX }
  else
    let slopeY := cursor.slopeY - 2 * squareX
    {
      x := cursor.x + 1
      y := cursor.y - 1
      slopeX := slopeX
      slopeY := slopeY
      decision := cursor.decision + squareY + slopeX - slopeY
    }

/-- Walk by columns, collecting offsets: all of them, or only where a filled row ends. -/
def flat
    (squareX squareY : Nat)
    (positive : 0 < squareY)
    (filled : Bool)
    (cursor : Cursor)
    (offsets : Array (Int × Int)) :
    Cursor × Array (Int × Int) :=
  if cursor.slopeX < cursor.slopeY then
    let next := cursor.nextColumn squareX squareY
    let collected :=
      if filled then
        if cursor.decision < 0 then offsets else offsets.push (cursor.x, cursor.y)
      else
        offsets.push (next.x, next.y)
    flat squareX squareY positive filled next collected
  else
    (cursor, offsets)
termination_by (cursor.slopeY - cursor.slopeX).toNat
decreasing_by
  simp only [Cursor.nextColumn]
  split <;> simp only <;> omega

/-- Advance by one row, and by one column when the curve has moved outward far enough. -/
def Cursor.nextRow
    (squareX squareY : Nat)
    (cursor : Cursor) :
    Cursor :=
  let slopeY := cursor.slopeY - 2 * squareX
  if 0 < cursor.decision then
    { cursor with
      y := cursor.y - 1
      slopeY := slopeY
      decision := cursor.decision + squareX - slopeY }
  else
    let slopeX := cursor.slopeX + 2 * squareY
    {
      x := cursor.x + 1
      y := cursor.y - 1
      slopeX := slopeX
      slopeY := slopeY
      decision := cursor.decision + squareX - slopeY + slopeX
    }

/-- Walk by rows down to the one above the horizontal axis, collecting all offsets. -/
def steep
    (squareX squareY : Nat)
    (cursor : Cursor)
    (offsets : Array (Int × Int)) :
    Array (Int × Int) :=
  if 1 < cursor.y then
    let next := cursor.nextRow squareX squareY
    steep squareX squareY next (offsets.push (next.x, next.y))
  else
    offsets
termination_by cursor.y.toNat
decreasing_by
  simp only [Cursor.nextRow]
  split <;> simp only <;> omega

/-- Where the walk by columns starts. -/
def start
    (squareX squareY : Nat)
    (radiusY : Int) :
    Cursor where
  x := 0
  y := radiusY
  slopeX := 0
  slopeY := 2 * squareX * radiusY
  decision := squareY - squareX * radiusY + (squareX + 2) / 4

/-- The decision value with which the walk by rows starts at an offset. -/
def steepDecision
    (squareX squareY : Nat)
    (x y : Int) :
    Int :=
  squareY * x * x + squareY * x + squareX * (y - 1) * (y - 1) - squareX * squareY +
    (squareY + 2) / 4

/-- The offsets that a walk through a quarter visits. -/
def offsets
    (radiusX radiusY : Int)
    (filled : Bool) :
    Array (Int × Int) :=
  let squareX := radiusX.natAbs * radiusX.natAbs
  let squareY := radiusY.natAbs * radiusY.natAbs
  let first := start squareX squareY radiusY
  let (turn, visited) :=
    if positive : 0 < squareY then
      flat squareX squareY positive filled first #[]
    else
      (first, #[])
  let atTurn := if filled then visited.push (turn.x, turn.y) else visited
  steep squareX squareY
    { turn with decision := steepDecision squareX squareY turn.x turn.y } atTurn

/-- The points of an outline for one offset. -/
def corners
    (centerX centerY : Int)
    (offset : Int × Int) :
    Array Span :=
  #[
    Span.point (centerX - offset.1) (centerY - offset.2),
    Span.point (centerX - offset.1) (centerY + offset.2),
    Span.point (centerX + offset.1) (centerY - offset.2),
    Span.point (centerX + offset.1) (centerY + offset.2)
  ]

/-- The rows of a filled oval for one offset. -/
def bands
    (centerX centerY : Int)
    (offset : Int × Int) :
    Array Span :=
  #[
    { left := centerX - offset.1, right := centerX + offset.1, row := centerY + offset.2 },
    { left := centerX - offset.1, right := centerX + offset.1, row := centerY - offset.2 }
  ]

/-- The spans of an oval, whether or not they lie on the screen. -/
def allSpans
    (centerX centerY radiusX radiusY : Int)
    (filled : Bool) :
    Array Span :=
  let visited := offsets radiusX radiusY filled
  if filled then
    (visited.flatMap (bands centerX centerY)).push
      { left := centerX - radiusX, right := centerX + radiusX, row := centerY }
  else
    visited.flatMap (corners centerX centerY) ++
      #[
        Span.point centerX (centerY + radiusY),
        Span.point centerX (centerY - radiusY),
        Span.point (centerX + radiusX) centerY,
        Span.point (centerX - radiusX) centerY
      ]

/-- Whether the box around an oval misses the screen. -/
def offScreen
    (centerX centerY radiusX radiusY : Int) :
    Bool :=
  centerX - radiusX ≥ Screen.width || centerX + radiusX < 0 ||
    centerY - radiusY ≥ Screen.height || centerY + radiusY < 0

/-- The spans of an oval; none when the box around it misses the screen. -/
def spans
    (centerX centerY radiusX radiusY : Int)
    (filled : Bool) :
    Array Span :=
  if offScreen centerX centerY radiusX radiusY then
    #[]
  else
    allSpans centerX centerY radiusX radiusY filled

end Oval

end Handheld
