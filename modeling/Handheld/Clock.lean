import Handheld.Word

namespace Handheld

/-!
# The clock

An instant is a number of seconds since the start of 1970 with a fraction in
nanoseconds, read at an offset from universal time. The calendar date follows
the Gregorian rules: 146097 days make 400 years, and years are counted from
March so that a leap day ends its year.
-/

/-- An instant and the offset, in seconds, of the place where it is read. -/
structure Clock where
  seconds : Int
  nanoseconds : Nat := 0
  offset : Int := 0
  deriving DecidableEq, Repr

/-- A date and time of day. Months and days count from one, Sunday is day one of the week. -/
structure Calendar where
  year : Int
  month : Nat
  day : Nat
  hour : Nat
  minute : Nat
  second : Nat
  weekday : Nat
  deriving DecidableEq, Repr

namespace Clock

/-- Whole milliseconds since the start of 1970, rounded toward zero. -/
def milliseconds (clock : Clock) : Int :=
  (clock.seconds * 1000000000 + clock.nanoseconds).tdiv 1000000

/-- The part of the current second that has passed, in 256ths. -/
def ticks (clock : Clock) : Nat :=
  (clock.milliseconds.emod 1000).toNat * 256 / 1000

/-- Year, month and day of a count of days since the start of 1970. -/
def date (days : Int) : Int × Nat × Nat :=
  -- Day zero of the shifted calendar is the first of March of year zero.
  let shifted := days + 719468
  let cycle := shifted.fdiv 146097
  let dayOfCycle := (shifted.fmod 146097).toNat
  let yearOfCycle :=
    (dayOfCycle - dayOfCycle / 1460 + dayOfCycle / 36524 - dayOfCycle / 146096) / 365
  let dayOfYear := dayOfCycle - (365 * yearOfCycle + yearOfCycle / 4 - yearOfCycle / 100)
  let monthFromMarch := (5 * dayOfYear + 2) / 153
  let day := dayOfYear - (153 * monthFromMarch + 2) / 5 + 1
  let month := if monthFromMarch < 10 then monthFromMarch + 3 else monthFromMarch - 9
  let year := cycle * 400 + yearOfCycle
  (if month ≤ 2 then year + 1 else year, month, day)

/-- What the clock shows. -/
def calendar (clock : Clock) : Calendar :=
  let shown := clock.seconds + clock.offset
  let days := shown.fdiv 86400
  let secondOfDay := (shown.fmod 86400).toNat
  let (year, month, day) := date days
  {
    year := year
    month := month
    day := day
    hour := secondOfDay / 3600
    minute := secondOfDay / 60 % 60
    second := secondOfDay % 60
    weekday := ((days + 4).fmod 7).toNat + 1
  }

end Clock

end Handheld
