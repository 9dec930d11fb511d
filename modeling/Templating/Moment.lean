/-!
# Moments

A moment is a time on a day, with or without the zone that its clock keeps. Two moments whose zones
are known are the same if they are one point in time; otherwise only what the clocks show counts.
-/

namespace Templating

/-- How many days a month has. -/
def daysIn (year month : Nat) : Nat :=
  if month = 2 then (if year % 4 = 0 ∧ (year % 100 ≠ 0 ∨ year % 400 = 0) then 29 else 28)
  else if month = 4 ∨ month = 6 ∨ month = 9 ∨ month = 11 then 30
  else 31

/-- A day and what the clock shows. -/
structure Moment where
  year : Nat
  month : Nat
  day : Nat
  hour : Nat
  minute : Nat
  second : Nat := 0
  microsecond : Nat := 0
  /-- By how many minutes the clock is ahead of universal time, if that is known. -/
  zone : Option Int := none
deriving DecidableEq, Repr

namespace Moment

/-- The number of the day, where the first day of the year 1 has number 1. -/
def dayNumber (m : Moment) : Nat :=
  let past := m.year - 1
  365 * past + past / 4 - past / 100 + past / 400 +
    (List.range (m.month - 1)).foldl (fun n i => n + daysIn m.year (i + 1)) 0 + m.day

/-- The point in time in microseconds, if the zone is known. -/
def instant? (m : Moment) : Option Int :=
  m.zone.map fun ahead =>
    let minutes : Int := (m.dayNumber * 24 + m.hour) * 60 + m.minute - ahead
    (minutes * 60 + m.second) * 1000000 + m.microsecond

/-- Whether two moments are the same. -/
def isSame (m n : Moment) : Bool :=
  match m.instant?, n.instant? with
  | some a, some b => a == b
  | none, none => m == n
  | _, _ => false

example : isSame ⟨2001, 12, 31, 23, 30, 0, 0, some (-60)⟩ ⟨2002, 1, 1, 2, 0, 0, 0, some 90⟩ := by
  decide +kernel

end Moment

end Templating
