import Rulebook.Sum

/-!
Dates and times of the calendar without a beginning or an end.
-/

namespace Rulebook

/-- A point in time of a calendar day, with an optional distance from universal time in seconds. -/
structure Moment where
  year : Nat
  month : Nat
  day : Nat
  hour : Nat
  minute : Nat
  second : Nat
  microsecond : Nat
  offset : Option Int
  deriving DecidableEq, Repr

namespace Calendar

def isLeap (year : Nat) : Bool := year % 4 = 0 && (year % 100 ≠ 0 || year % 400 = 0)

def daysIn (year month : Nat) : Nat :=
  if month = 2 then if isLeap year then 29 else 28
  else if [4, 6, 9, 11].contains month then 30 else 31

/-- The days before a date since the first day of the year 1. -/
def daysBefore (year month day : Nat) : Nat :=
  let years := year - 1
  let months := (List.range (month - 1)).map fun earlier => daysIn year (earlier + 1)
  365 * years + years / 4 - years / 100 + years / 400 + sumOf months + (day - 1)

end Calendar

/-- The microseconds of universal time before a moment, if its distance from that is known. -/
def Moment.instant? (moment : Moment) : Option Int :=
  moment.offset.map fun offset =>
    let days := Calendar.daysBefore moment.year moment.month moment.day
    let seconds : Int := 86400 * days + 3600 * moment.hour + 60 * moment.minute + moment.second
    1000000 * (seconds - offset) + moment.microsecond

end Rulebook
