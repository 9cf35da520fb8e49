/-!
# The calendar

Days are counted from the first of January 1970.  The calendar is the one in use today, also for
the times before it was, and the year before the year one is the year zero.
-/

set_option autoImplicit false

namespace SourceHost.Calendar

/-- The year has a leap day. -/
def isLeap (year : Int) : Bool := year % 4 = 0 && (year % 100 ≠ 0 || year % 400 = 0)

/-- The days of a month. -/
def daysInMonth (year : Int) (month : Nat) : Nat :=
  if month = 2 then (if isLeap year then 29 else 28)
  else if month = 4 ∨ month = 6 ∨ month = 9 ∨ month = 11 then 30 else 31

/-- The days of a year. -/
def daysInYear (year : Int) : Nat := if isLeap year then 366 else 365

/-- The days of a year before a month. -/
def daysBefore (year : Int) (month : Nat) : Nat :=
  (List.range (month - 1)).foldl (fun days i ↦ days + daysInMonth year (i + 1)) 0

/-- The first day of a year. -/
def firstDay (year : Int) : Int :=
  let y := year - 1
  365 * y + y / 4 - y / 100 + y / 400 - 719162

/-- The day with a year, a month and a day of the month. -/
def day (year : Int) (month dayOfMonth : Nat) : Int :=
  firstDay year + daysBefore year month + dayOfMonth - 1

/-- The day of the week, with Sunday as the first. -/
def weekday (day : Int) : Nat := ((day + 4) % 7).toNat

/-- The first Sunday from a day on. -/
def sundayFrom (day : Int) : Int := day + ((7 - weekday day) % 7 : Nat)

/-- The last Sunday up to a day. -/
def sundayUpTo (day : Int) : Int := day - weekday day

/-- The last Sunday of a month. -/
def lastSunday (year : Int) (month : Nat) : Int :=
  sundayUpTo (day year month (daysInMonth year month))

/-- The calendar has the year. -/
def hasYear (year : Int) : Bool := -262143 ≤ year && year ≤ 262142

/-- The seconds of a day. -/
def secondsPerDay : Int := 86400

end SourceHost.Calendar
