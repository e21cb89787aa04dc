import Concordance.Value.Wording

/-!
# Moments

A moment within a year, as journals write it: in ten digits in the name of a file,
and with separators before a line. Moments are counted in seconds from the first
of January 1970; a year begins in March here, so that the leap day is its last.
-/

namespace Concordance

/-- A month, a day and a time of day. -/
structure Moment where
  month : Nat
  day : Nat
  hour : Nat
  minute : Nat
  second : Nat
  deriving DecidableEq, Repr

namespace Moment

/-- A moment in ten digits. -/
def stamp (moment : Moment) : String :=
  String.join
    ([moment.month, moment.day, moment.hour, moment.minute, moment.second].map
      (Value.padded 2))

/-- A moment before a line. -/
def lineStart (moment : Moment) : String :=
  Value.padded 2 moment.month ++ "-" ++ Value.padded 2 moment.day ++ " " ++
    ":".intercalate ([moment.hour, moment.minute, moment.second].map (Value.padded 2)) ++ " "

/-- The month and the day of a day counted from the first of March of a leap
cycle's beginning. A cycle of 400 years has 146097 days. -/
def dateOfDay (day : Nat) : Nat × Nat :=
  let inCycle := day % 146097
  let year := (inCycle - inCycle / 1460 + inCycle / 36524 - inCycle / 146096) / 365
  let inYear := inCycle - (365 * year + year / 4 - year / 100)
  let month := (5 * inYear + 2) / 153
  (if month < 10 then month + 3 else month - 9, inYear - (153 * month + 2) / 5 + 1)

/-- The moment at a number of seconds from the first of January 1970, which is day
719468 of the count of days. -/
def ofSeconds (seconds : Nat) : Moment :=
  let (month, day) := dateOfDay (seconds / 86400 + 719468)
  let inDay := seconds % 86400
  { month, day, hour := inDay / 3600, minute := inDay / 60 % 60, second := inDay % 60 }

end Moment
end Concordance
