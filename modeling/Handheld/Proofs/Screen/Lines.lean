import Mathlib.Data.List.Nodup
import Mathlib.Data.List.ProdSigma
import Mathlib.Data.Prod.Basic
import Handheld.Proofs.Screen.Pixels

namespace Handheld

/-!
# Lines, point by point

A walk along a line keeps a running error and never divides. Its points are those
that division gives nevertheless: at every place on the longer axis, the height of
the straight line between the ends, rounded to the nearest. So a line is complete,
reaches both ends, and is the same from either end.
-/

namespace Line

/-- How far a line has risen at a place on its longer axis, rounded to the nearest. -/
def height
    (length rise : Int)
    (index : Nat) :
    Int :=
  (2 * rise * index + length) / (2 * length)

/-- The point at a place on the longer axis, counted from the start of a line. -/
def rounded
    (majorStart minorStart majorEnd minorEnd : Int)
    (index : Nat) :
    Int × Int :=
  (majorStart + index,
    minorStart +
      (minorEnd - minorStart).sign *
        height (majorEnd - majorStart) (minorEnd - minorStart).natAbs index)

/-- The points of a line at all places from one end to the other, in order. -/
def roundedPoints
    (majorStart minorStart majorEnd minorEnd : Int) :
    List (Int × Int) :=
  (List.range ((majorEnd - majorStart).toNat + 1)).map
    (rounded majorStart minorStart majorEnd minorEnd)

/-- Where a walk stands after a number of steps. -/
def Cursor.after
    (majorStart minorStart length rise direction : Int)
    (index : Nat) :
    Cursor where
  major := majorStart + index
  minor := minorStart + direction * height length rise index
  error := 2 * rise * index + 2 * rise - length - 2 * length * height length rise index

section Walking

variable
  {length rise : Int}
  (positive : 0 < length)
  (rising : 0 ≤ rise)
  (flat : rise ≤ length)

include positive

/-- The height is the number of steps closest to the line, half steps rounded up. -/
theorem height_eq_iff
    (index : Nat)
    (steps : Int) :
    height length rise index = steps ↔
      2 * length * steps ≤ 2 * rise * index + length ∧
        2 * rise * index + length < 2 * length * steps + 2 * length := by
  rw [height, Int.ediv_eq_iff_of_pos (by omega), Int.mul_comm steps]

/-- A line starts at its start. -/
theorem height_zero : height length rise 0 = 0 := by
  rw [height_eq_iff positive]
  omega

/-- A line without a rise stays at the height where it starts. -/
theorem height_level (index : Nat) : height length 0 index = 0 := by
  rw [height_eq_iff positive]
  omega

/-- At its end a line has risen all the way. -/
theorem height_length
    {index : Nat}
    (last : (index : Int) = length) :
    height length rise index = rise := by
  have product : 2 * rise * length = 2 * length * rise := by
    rw [Int.mul_assoc, Int.mul_assoc, Int.mul_comm rise]
  rw [height_eq_iff positive, last, product]
  omega

include rising flat

/-- The running error tells whether the next point is one higher. -/
theorem height_succ (index : Nat) :
    height length rise (index + 1) =
      if 2 * rise * index + 2 * rise - length - 2 * length * height length rise index < 0 then
        height length rise index
      else
        height length rise index + 1 := by
  obtain ⟨low, high⟩ := (height_eq_iff positive index _).mp (rfl : height length rise index = _)
  have next : 2 * rise * ((index + 1 : Nat) : Int) = 2 * rise * index + 2 * rise := by
    rw [Int.natCast_add, Int.mul_add, Int.natCast_one, Int.mul_one]
  rw [height_eq_iff positive, next]
  split
  · omega
  · rw [Int.mul_add, Int.mul_one]
    omega

/-- One step of a walk leads from one rounded point to the next. -/
theorem advance_after
    (majorStart minorStart direction : Int)
    (index : Nat) :
    (Cursor.after majorStart minorStart length rise direction index).advance
        length rise direction =
      Cursor.after majorStart minorStart length rise direction (index + 1) := by
  have taller := height_succ positive rising flat index
  have next : 2 * rise * ((index + 1 : Nat) : Int) = 2 * rise * index + 2 * rise := by
    rw [Int.natCast_add, Int.mul_add, Int.natCast_one, Int.mul_one]
  unfold Cursor.advance
  by_cases behind :
      2 * rise * index + 2 * rise - length - 2 * length * height length rise index < 0
  · rw [if_pos behind] at taller
    refine (if_pos behind).trans ?_
    simp only [Cursor.after, taller, next, Cursor.mk.injEq, true_and]
    omega
  · rw [if_neg behind] at taller
    refine (if_neg behind).trans ?_
    simp only [Cursor.after, taller, next, Cursor.mk.injEq, Int.mul_add direction, Int.mul_one,
      Int.mul_add (2 * length)]
    omega

/-- The walk visits, one place after the other, the height of the line there. -/
theorem toList_walk
    (majorStart minorStart direction : Int)
    (count index : Nat)
    (visited : Array (Int × Int)) :
    (walk length rise direction count
        (.after majorStart minorStart length rise direction index) visited).toList =
      visited.toList ++
        (List.range' index count).map fun (place : Nat) =>
          (majorStart + place, minorStart + direction * height length rise place) := by
  induction count generalizing index visited with
  | zero => simp [walk]
  | succ rest inductionHypothesis =>
      rw [walk, advance_after positive rising flat, inductionHypothesis, Array.toList_push,
        List.range'_succ, List.map_cons, List.append_assoc, List.singleton_append]
      rfl

end Walking

section Ends

variable
  {majorStart minorStart majorEnd minorEnd : Int}
  (ordered : majorStart ≤ majorEnd)
  (flat : (minorEnd - minorStart).natAbs ≤ (majorEnd - majorStart).natAbs)

/-- A line passes no point twice. -/
theorem nodup_roundedPoints :
    (roundedPoints majorStart minorStart majorEnd minorEnd).Nodup := by
  rw [roundedPoints, List.Nodup, List.pairwise_map]
  refine List.nodup_range.imp ?_
  intro index later different same
  have places := congrArg Prod.fst same
  simp only [rounded] at places
  omega

include ordered

/-- A line starts where it should. -/
theorem start_mem_roundedPoints :
    (majorStart, minorStart) ∈ roundedPoints majorStart minorStart majorEnd minorEnd := by
  refine List.mem_map.mpr ⟨0, List.mem_range.mpr (by omega), ?_⟩
  have level : height (majorEnd - majorStart) (minorEnd - minorStart).natAbs 0 = 0 := by
    by_cases single : majorStart = majorEnd
    · simp [single, height]
    · exact height_zero (by omega)
  rw [rounded, level]
  simp

/-- There is one point at each place on the longer axis, and no other point. -/
theorem one_at_each_place (place : Int) :
    majorStart ≤ place ∧ place ≤ majorEnd ↔
      ∃ minor,
        (place, minor) ∈ roundedPoints majorStart minorStart majorEnd minorEnd ∧
          ∀ other,
            (place, other) ∈ roundedPoints majorStart minorStart majorEnd minorEnd →
            other = minor := by
  simp only [roundedPoints, List.mem_map, List.mem_range, rounded, Prod.mk.injEq]
  constructor
  · intro between
    refine ⟨_, ⟨(place - majorStart).toNat, by omega, by omega, rfl⟩, ?_⟩
    rintro other ⟨index, -, here, rfl⟩
    have same : index = (place - majorStart).toNat := by omega
    rw [same]
  · rintro ⟨minor, ⟨index, near, here, -⟩, -⟩
    omega

include flat

/-- A line ends where it should. -/
theorem end_mem_roundedPoints :
    (majorEnd, minorEnd) ∈ roundedPoints majorStart minorStart majorEnd minorEnd := by
  have last : ((majorEnd - majorStart).toNat : Int) = majorEnd - majorStart := by omega
  refine List.mem_map.mpr ⟨(majorEnd - majorStart).toNat, List.mem_range.mpr (by omega), ?_⟩
  rw [rounded, last]
  by_cases single : majorStart = majorEnd
  · have level : minorEnd = minorStart := by omega
    simp [single, level]
  · rw [height_length (by omega) last, Int.sign_mul_natAbs]
    ext <;> dsimp only <;> omega

/-- The points of a walk are the rounded points. -/
theorem toList_along :
    (along majorStart minorStart majorEnd minorEnd).toList =
      roundedPoints majorStart minorStart majorEnd minorEnd := by
  have count : (majorEnd - majorStart + 1).toNat = (majorEnd - majorStart).toNat + 1 := by omega
  unfold along roundedPoints
  dsimp only
  rw [count]
  by_cases single : majorStart = majorEnd
  · subst single
    simp [walk, rounded, height]
  · have positive : 0 < majorEnd - majorStart := by omega
    have start :
        ({ major := majorStart
           minor := minorStart
           error := 2 * (minorEnd - minorStart).natAbs - (majorEnd - majorStart) } : Cursor) =
          .after majorStart minorStart (majorEnd - majorStart) (minorEnd - minorStart).natAbs
            (if minorEnd < minorStart then -1 else 1) 0 := by
      simp [Cursor.after, height_zero positive]
    rw [start, toList_walk positive (by omega) (by omega), List.range_eq_range', List.nil_append]
    apply List.map_congr_left
    intro place _
    unfold rounded
    by_cases level : minorStart = minorEnd
    · subst level
      simp [height_level positive]
    · have direction :
          (if minorEnd < minorStart then -1 else 1) = (minorEnd - minorStart).sign := by
        split
        · exact (Int.sign_eq_neg_one_of_neg (by omega)).symm
        · exact (Int.sign_eq_one_of_pos (by omega)).symm
      rw [direction]

end Ends

section Points

variable {x₁ y₁ x₂ y₂ : Int}

/-- A flat line is walked along its columns. -/
theorem toList_points_of_flat
    (flat : (y₂ - y₁).natAbs ≤ (x₂ - x₁).natAbs)
    (ordered : x₁ ≤ x₂) :
    (points x₁ y₁ x₂ y₂).toList = roundedPoints x₁ y₁ x₂ y₂ := by
  rw [points, if_pos flat, if_pos ordered, toList_along ordered flat]

/-- A steep line is walked along its rows. -/
theorem toList_points_of_steep
    (steep : (x₂ - x₁).natAbs < (y₂ - y₁).natAbs)
    (ordered : y₁ ≤ y₂) :
    (points x₁ y₁ x₂ y₂).toList = (roundedPoints y₁ x₁ y₂ x₂).map Prod.swap := by
  rw [points, if_neg (by omega), if_pos ordered, Array.toList_map,
    toList_along ordered (by omega)]

/-- A line is walked in the same direction from whichever end it is asked for. -/
theorem points_comm
    (x₁ y₁ x₂ y₂ : Int) :
    points x₂ y₂ x₁ y₁ = points x₁ y₁ x₂ y₂ := by
  unfold points
  by_cases flat : (y₂ - y₁).natAbs ≤ (x₂ - x₁).natAbs
  · rw [if_pos flat, if_pos (by omega)]
    by_cases single : x₁ = x₂
    · have level : y₁ = y₂ := by omega
      rw [single, level]
    · by_cases ordered : x₁ ≤ x₂
      · rw [if_pos ordered, if_neg (by omega)]
      · rw [if_neg ordered, if_pos (by omega)]
  · rw [if_neg flat, if_neg (by omega)]
    by_cases ordered : y₁ ≤ y₂
    · rw [if_pos ordered, if_neg (by omega)]
    · rw [if_neg ordered, if_pos (by omega)]

end Points

/-- Whether a place lies between two ends, given in any order. -/
def Between (first place second : Int) : Prop :=
  first ≤ place ∧ place ≤ second ∨ second ≤ place ∧ place ≤ first

/--
What makes points a line: none comes twice, both ends are among them, and on the
longer axis each place between the ends has one of them and no other place has any.
-/
structure Traces
    (x₁ y₁ x₂ y₂ : Int)
    (points : List (Int × Int)) :
    Prop where
  nodup : points.Nodup
  first_mem : (x₁, y₁) ∈ points
  second_mem : (x₂, y₂) ∈ points
  columns :
    (y₂ - y₁).natAbs ≤ (x₂ - x₁).natAbs →
    ∀ column,
      Between x₁ column x₂ ↔
        ∃ row, (column, row) ∈ points ∧ ∀ other, (column, other) ∈ points → other = row
  rows :
    (x₂ - x₁).natAbs < (y₂ - y₁).natAbs →
    ∀ row,
      Between y₁ row y₂ ↔
        ∃ column, (column, row) ∈ points ∧ ∀ other, (other, row) ∈ points → other = column

/-- What lies between two places lies between them the other way around. -/
theorem between_comm
    {first place second : Int} :
    Between first place second ↔ Between second place first :=
  Or.comm

/-- Between two ordered places lies what is not below the first nor above the second. -/
theorem between_of_le
    {first second : Int}
    (ordered : first ≤ second)
    (place : Int) :
    Between first place second ↔ first ≤ place ∧ place ≤ second := by
  unfold Between
  omega

/-- A line traces the same points from either end. -/
theorem Traces.symm
    {x₁ y₁ x₂ y₂ : Int}
    {points : List (Int × Int)}
    (traces : Traces x₁ y₁ x₂ y₂ points) :
    Traces x₂ y₂ x₁ y₁ points where
  nodup := traces.nodup
  first_mem := traces.second_mem
  second_mem := traces.first_mem
  columns flat column := between_comm.trans (traces.columns (by omega) column)
  rows steep row := between_comm.trans (traces.rows (by omega) row)

/-- A flat line from left to right traces what it should. -/
theorem traces_of_flat
    {x₁ y₁ x₂ y₂ : Int}
    (flat : (y₂ - y₁).natAbs ≤ (x₂ - x₁).natAbs)
    (ordered : x₁ ≤ x₂) :
    Traces x₁ y₁ x₂ y₂ (points x₁ y₁ x₂ y₂).toList := by
  rw [toList_points_of_flat flat ordered]
  exact {
    nodup := nodup_roundedPoints
    first_mem := start_mem_roundedPoints ordered
    second_mem := end_mem_roundedPoints ordered flat
    columns := fun _ column =>
      (between_of_le ordered column).trans (one_at_each_place ordered column)
    rows := fun steep => (Nat.not_lt.mpr flat steep).elim
  }

/-- A steep line from top to bottom traces what it should. -/
theorem traces_of_steep
    {x₁ y₁ x₂ y₂ : Int}
    (steep : (x₂ - x₁).natAbs < (y₂ - y₁).natAbs)
    (ordered : y₁ ≤ y₂) :
    Traces x₁ y₁ x₂ y₂ (points x₁ y₁ x₂ y₂).toList := by
  rw [toList_points_of_steep steep ordered]
  exact {
    nodup := nodup_roundedPoints.map Prod.swap_injective
    first_mem := (List.mem_map_swap _ _ _).mpr (start_mem_roundedPoints ordered)
    second_mem := (List.mem_map_swap _ _ _).mpr (end_mem_roundedPoints ordered (by omega))
    columns := fun flat => (Nat.not_lt.mpr flat steep).elim
    rows := by
      intro _ row
      simp only [List.mem_map_swap]
      exact (between_of_le ordered row).trans (one_at_each_place ordered row)
  }

/-- Whatever its ends, a line is traced by its points. -/
theorem traces_points
    (x₁ y₁ x₂ y₂ : Int) :
    Traces x₁ y₁ x₂ y₂ (points x₁ y₁ x₂ y₂).toList := by
  by_cases flat : (y₂ - y₁).natAbs ≤ (x₂ - x₁).natAbs
  · by_cases ordered : x₁ ≤ x₂
    · exact traces_of_flat flat ordered
    · rw [← points_comm]
      exact (traces_of_flat (by omega) (by omega)).symm
  · by_cases ordered : y₁ ≤ y₂
    · exact traces_of_steep (by omega) ordered
    · rw [← points_comm]
      exact (traces_of_steep (by omega) (by omega)).symm

/-- A level line covers the pixels of its row from one end to the other. -/
theorem any_covers_level
    {x₁ x₂ y : Int}
    (ordered : x₁ < x₂)
    (px py : Nat) :
    (spans x₁ y x₂ y).toList.any (Span.covers px py) =
      decide (x₁ ≤ px ∧ px ≤ x₂ ∧ y = py) := by
  have list :
      (points x₁ y x₂ y).toList =
        (List.range ((x₂ - x₁).toNat + 1)).map fun (index : Nat) => (x₁ + index, y) := by
    rw [toList_points_of_flat (by omega) (by omega)]
    simp [roundedPoints, rounded]
  rw [spans, Array.toList_map, list, List.map_map, List.any_map]
  apply Bool.eq_iff_iff.mpr
  simp only [List.any_eq_true, List.mem_range, Function.comp_apply, Span.covers, Span.point,
    decide_eq_true_eq]
  constructor
  · rintro ⟨index, near, covered⟩
    omega
  · intro covered
    exact ⟨(px - x₁).toNat, by omega, by omega⟩

end Line

/-- Single points cover a pixel as often as it is among them. -/
theorem Span.countP_covers_points
    (points : Array (Int × Int))
    (px py : Nat) :
    ((points.map fun point => Span.point point.1 point.2).toList.countP (Span.covers px py)) =
      points.toList.count ((px : Int), (py : Int)) := by
  rw [Array.toList_map, List.countP_map, List.count_eq_countP]
  apply List.countP_congr
  intro point _
  simp [Span.covers, Span.point, Prod.ext_iff]
  omega

namespace Ram

/--
Lines are drawn exactly.

From the end that comes first on the longer axis, the points of a line are the
straight line between the ends, rounded to the nearest at each place of that axis.
Each point comes once, both ends are among them, and there is one for each place.
Of the pixels of the screen those on the line are changed, each once, and all else
stays as it is. It makes no difference which end is given first.
-/
theorem line_exact
    (target : Target)
    (ram : Ram)
    (mode : ShapeMode)
    (x₁ y₁ x₂ y₂ : Int) :
    let points := (Line.points x₁ y₁ x₂ y₂).toList
    let drawn := ram.paint target.base mode (Line.spans x₁ y₁ x₂ y₂)
    ((y₂ - y₁).natAbs ≤ (x₂ - x₁).natAbs →
      x₁ ≤ x₂ →
      points = Line.roundedPoints x₁ y₁ x₂ y₂) ∧
    ((x₂ - x₁).natAbs < (y₂ - y₁).natAbs →
      y₁ ≤ y₂ →
      points = (Line.roundedPoints y₁ x₁ y₂ x₂).map Prod.swap) ∧
    Line.Traces x₁ y₁ x₂ y₂ points ∧
    (∀ px < Screen.width, ∀ py < Screen.height,
      (((px : Int), (py : Int)) ∈ points →
        drawn.pixel target.base px py = mode.changed 1 (ram.pixel target.base px py)) ∧
      (((px : Int), (py : Int)) ∉ points →
        drawn.pixel target.base px py = ram.pixel target.base px py)) ∧
    SameOutside target.base Screen.bitmapBytes ram drawn ∧
    Line.points x₂ y₂ x₁ y₁ = Line.points x₁ y₁ x₂ y₂ ∧
    ram.paint target.base mode (Line.spans x₂ y₂ x₁ y₁) = drawn := by
  intro points drawn
  have fits := target.base_le
  have traces : Line.Traces x₁ y₁ x₂ y₂ points := Line.traces_points x₁ y₁ x₂ y₂
  refine ⟨Line.toList_points_of_flat, Line.toList_points_of_steep, traces, ?_,
    sameOutside_paint fits mode ram _, Line.points_comm x₁ y₁ x₂ y₂, ?_⟩
  · intro px insidePx py insidePy
    have painted :
        drawn.pixel target.base px py =
          mode.changed (points.count ((px : Int), (py : Int))) (ram.pixel target.base px py) := by
      rw [← Span.countP_covers_points]
      exact pixel_paint fits mode insidePx insidePy ram _
    refine ⟨?_, ?_⟩
    · intro member
      rw [painted, traces.nodup.count, if_pos member]
    · intro elsewhere
      rw [painted, List.count_eq_zero.mpr elsewhere, mode.changed_zero]
  · rw [Line.spans, Line.points_comm]
    rfl

end Ram

end Handheld
