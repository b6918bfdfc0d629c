/-!
# Moments of wall-clock time

A moment is a number of milliseconds since the start of 1970, universal time. It is written as a time of
day, and as a date and time. Years are counted from March here, so that the day that comes and goes is
the last one of its year.
-/

namespace Multipath

structure Moment where
  milliseconds : Nat
  deriving DecidableEq, Repr

namespace Moment

/-- A number in at least `width` digits. -/
def padded (width n : Nat) : String :=
  let text := toString n
  String.ofList (List.replicate (width - text.length) '0') ++ text

def time (m : Moment) : String :=
  let seconds := m.milliseconds / 1000
  s!"{padded 2 (seconds / 3600 % 24)}:{padded 2 (seconds / 60 % 60)}:{padded 2 (seconds % 60)}" ++
    "." ++ padded 3 (m.milliseconds % 1000)

/-- Days since the first of March of the year 0. -/
def days (m : Moment) : Nat := m.milliseconds / 86400000 + 719468

/-- The year from March to February and the day in it, both from 0. A span of 400 years has 146097
days. -/
def marchYear (m : Moment) : Nat × Nat :=
  let span := m.days / 146097
  let day := m.days % 146097
  let year := (day - day / 1460 + day / 36524 - day / 146096) / 365
  (span * 400 + year, day - (365 * year + year / 4 - year / 100))

/-- Year, month and day. Five months from March on have 153 days. -/
def date (m : Moment) : Nat × Nat × Nat :=
  let (year, day) := m.marchYear
  let month := (5 * day + 2) / 153
  let dayOfMonth := day - (153 * month + 2) / 5 + 1
  if month < 10 then (year, month + 3, dayOfMonth) else (year + 1, month - 9, dayOfMonth)

def dateTime (m : Moment) : String :=
  let (year, month, day) := m.date
  s!"{padded 4 year}-{padded 2 month}-{padded 2 day}T{m.time}Z"

end Moment

end Multipath
