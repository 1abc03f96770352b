import Handheld.Screen.Span

namespace Handheld

/-!
# Lines

A line advances by one along the axis on which it is longer and decides at each
step, from a running error, whether to advance along the other. It is always
walked from the end with the smaller coordinate on the longer axis.
-/

namespace Line

/-- Where a walk along a line stands: both coordinates and the running error. -/
structure Cursor where
  major : Int
  minor : Int
  error : Int
  deriving DecidableEq, Repr

/-- Advance by one along the longer axis. -/
def Cursor.advance
    (length rise direction : Int)
    (cursor : Cursor) :
    Cursor :=
  if cursor.error < 0 then
    { major := cursor.major + 1, minor := cursor.minor, error := cursor.error + 2 * rise }
  else
    {
      major := cursor.major + 1
      minor := cursor.minor + direction
      error := cursor.error + 2 * (rise - length)
    }

/-- The next `count` points of a walk, behind those already visited. -/
def walk
    (length rise direction : Int)
    (count : Nat)
    (cursor : Cursor)
    (visited : Array (Int × Int)) :
    Array (Int × Int) :=
  match count with
  | 0 => visited
  | rest + 1 =>
      walk length rise direction rest (cursor.advance length rise direction)
        (visited.push (cursor.major, cursor.minor))

/-- The points from one end to the other, where the first end comes first on the longer axis. -/
def along
    (majorStart minorStart majorEnd minorEnd : Int) :
    Array (Int × Int) :=
  let length := majorEnd - majorStart
  let rise := (minorEnd - minorStart).natAbs
  let direction := if minorEnd < minorStart then -1 else 1
  walk length rise direction (length + 1).toNat
    { major := majorStart, minor := minorStart, error := 2 * rise - length } #[]

/-- The points of the line between two ends. -/
def points
    (x₁ y₁ x₂ y₂ : Int) :
    Array (Int × Int) :=
  if (y₂ - y₁).natAbs ≤ (x₂ - x₁).natAbs then
    if x₁ ≤ x₂ then
      along x₁ y₁ x₂ y₂
    else
      along x₂ y₂ x₁ y₁
  else
    let swapped := if y₁ ≤ y₂ then along y₁ x₁ y₂ x₂ else along y₂ x₂ y₁ x₁
    swapped.map Prod.swap

/-- The spans of the line between two ends. -/
def spans
    (x₁ y₁ x₂ y₂ : Int) :
    Array Span :=
  (points x₁ y₁ x₂ y₂).map fun point => Span.point point.1 point.2

end Line

end Handheld
