import SourceHost.Date.Calendar
import SourceHost.Date.Zone

/-!
# Tables of zones

A zone in which clocks are put forward and back now and then is given by a table of the changes.
`ZoneBook.small` is a book of a few such zones, with the changes of the years from 1980 on at
least.
-/

set_option autoImplicit false

namespace SourceHost

/-- How local time changes in the course of time: how many seconds it is ahead at first, and from
which moments on it is ahead how far. -/
structure ZoneTable where
  /-- How far local time is ahead at first. -/
  first : Int
  /-- The changes, in order: the second of the change, and how far local time is ahead after
  it. -/
  changes : List (Int × Int) := []
deriving DecidableEq, Repr

namespace ZoneTable

/-- How far local time is ahead at a second, if it is ahead by `offset` until the first of some
changes. -/
def aheadFrom (offset : Int) : (changes : List (Int × Int)) → (second : Int) → Int
  | [], _ => offset
  | (change, next) :: changes, t => if t < change then offset else aheadFrom next changes t

/-- How far local time is ahead when clocks show a time, in order, if it is ahead by `offset` from
second `start` on until the first of some changes. -/
def showingFrom (start : Option Int) (offset : Int) : (changes : List (Int × Int)) →
    (localTime : Int) → List Int
  | [], t => if start.all (· ≤ t - offset) then [offset] else []
  | (change, next) :: changes, t =>
    let later := showingFrom (some change) next changes t
    if start.all (· ≤ t - offset) ∧ t - offset < change then offset :: later else later

/-- The zone with a table. -/
def zone (z : ZoneTable) : Zone where
  aheadAt := aheadFrom z.first z.changes
  aheadWhen t := match showingFrom none z.first z.changes t with
    | [] => .never
    | [ahead] => .once ahead
    | first :: second :: _ => .twice first second

/-! ## Zones with a name -/

/-- The second of a day at which a clock of a zone shows a time. -/
def clock (day : Int) (hour : Int) : Int := day * Calendar.secondsPerDay + hour * 3600

/-- The changes of a zone that puts its clocks forward and back every year: the seconds of both
changes in a year, for so many years, and how far local time is ahead in between and else. -/
def yearly (summer winter : Int) (forward back : Int → Int) (first count : Nat) :
    List (Int × Int) :=
  (List.range count).flatMap fun i ↦
    let year : Int := ((first + i : Nat) : Int)
    [(forward year, summer), (back year, winter)]

/-- Berlin, since 1980: clocks go forward and back at one o'clock of universal time. -/
def berlin : ZoneTable :=
  let forward (year : Int) : Int :=
    if year = 1980 then clock (Calendar.day 1980 4 6) 1 else clock (Calendar.lastSunday year 3) 1
  let back (year : Int) : Int := clock (Calendar.lastSunday year (if year < 1996 then 9 else 10)) 1
  ⟨3600, yearly 7200 3600 forward back 1980 120⟩

/-- New York, since clocks go forward and back by law: at two o'clock of local time, in two years
early in the year. -/
def newYork : ZoneTable :=
  let forward (year : Int) : Int :=
    clock (if 2007 ≤ year then Calendar.sundayFrom (Calendar.day year 3 8)
      else if 1987 ≤ year then Calendar.sundayFrom (Calendar.day year 4 1)
      else if year = 1975 then Calendar.day 1975 2 23
      else if year = 1974 then Calendar.day 1974 1 6
      else Calendar.lastSunday year 4) 7
  let back (year : Int) : Int :=
    clock (if 2007 ≤ year then Calendar.sundayFrom (Calendar.day year 11 1)
      else Calendar.lastSunday year 10) 6
  ⟨-18000, yearly (-14400) (-18000) forward back 1967 133⟩

/-- Tokyo: local time of the place before 1888, and summer time in four years. -/
def tokyo : ZoneTable :=
  ⟨33539, [(-2587712400, 32400), (-683802000, 36000), (-672310800, 32400), (-654771600, 36000),
    (-640861200, 32400), (-620298000, 36000), (-609411600, 32400), (-588848400, 36000),
    (-577962000, 32400)]⟩

/-- Kolkata: local times of places before 1906, and war time. -/
def kolkata : ZoneTable :=
  ⟨21208, [(-3645237208, 21200), (-3155694800, 19270), (-2019705670, 19800), (-891581400, 23400),
    (-872058600, 19800), (-862637400, 23400), (-764145000, 19800)]⟩

/-- The hours in the name of a zone of whole hours, which count towards the west. -/
def hoursWest (s : List Char) : Option Int :=
  let sizes := (List.range 15).map fun n ↦ (toString n).toList
  match s with
  | '+' :: rest => (sizes.take 13).findIdx? (· = rest) |>.map fun n ↦ (n : Int)
  | '-' :: rest => sizes.findIdx? (· = rest) |>.map fun n ↦ -(n : Int)
  | _ => none

end ZoneTable

open ZoneTable in
/-- A book of a few zones. -/
def ZoneBook.small : ZoneBook := fun name ↦
  if name = "Europe/Berlin" then some berlin.zone
  else if name = "America/New_York" then some newYork.zone
  else if name = "Asia/Tokyo" then some tokyo.zone
  else if name = "Asia/Kolkata" then some kolkata.zone
  else if "Etc/GMT".isPrefixOf name then
    (hoursWest (name.toList.drop 7)).map fun hours ↦ .fixed (-hours * 3600)
  else none

end SourceHost
