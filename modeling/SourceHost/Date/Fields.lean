import SourceHost.Date.Calendar
import SourceHost.Date.Pattern
import SourceHost.Text.Blank

/-!
# Reading the fields of a date

`DateFields.read` reads a text along the parts of a template and collects the fields it finds.  A
field that is found twice has to have the same value both times.

What has been collected need not be enough for a date, or may contradict itself:
`DateFields.day?` and `DateFields.timeOfDay?` put a day and a time together, and refuse what does
not fit.
-/

set_option autoImplicit false

namespace SourceHost

/-- What is known of a date. -/
structure DateFields where
  /-- The year. -/
  year : Option Int := none
  /-- The last two digits of the year. -/
  yearOfCentury : Option Nat := none
  /-- The month, from one. -/
  month : Option Nat := none
  /-- The day of the month, from one. -/
  day : Option Nat := none
  /-- The day of the year, from one. -/
  dayOfYear : Option Nat := none
  /-- The day of the week, from Sunday as zero. -/
  weekday : Option Nat := none
  /-- The half of the day, from zero. -/
  half : Option Nat := none
  /-- The hour in the half of the day, from zero. -/
  hourOfHalf : Option Nat := none
  /-- The minute. -/
  minute : Option Nat := none
  /-- The second; the sixtieth is a leap second. -/
  second : Option Nat := none
  /-- The fraction of the second, in billionths. -/
  billionths : Option Nat := none
  /-- How many seconds the time is ahead. -/
  offset : Option Int := none
deriving DecidableEq, Repr

namespace DateFields

/-! ## Collecting -/

/-- A field with a value, unless it has another one already. -/
def agree {α : Type} [DecidableEq α] (old : Option α) (new : α) : Option (Option α) :=
  match old with
  | none => some (some new)
  | some v => if v = new then some (some v) else none

/-- A value that is in a range. -/
def within (low high value : Nat) : Option Nat :=
  if low ≤ value ∧ value ≤ high then some value else none

/-- The fields with a half of the day. -/
def setHalf (d : DateFields) (half : Nat) : Option DateFields :=
  (agree d.half half).map fun half ↦ { d with half }

/-- The fields with an hour of a half of the day. -/
def setHourOfHalf (d : DateFields) (hour : Nat) : Option DateFields :=
  (agree d.hourOfHalf hour).map fun hourOfHalf ↦ { d with hourOfHalf }

/-- The fields with an hour of the day. -/
def setHour (d : DateFields) (hour : Nat) : Option DateFields := do
  let d ← d.setHalf (hour / 12)
  d.setHourOfHalf (hour % 12)

/-- The fields with a month. -/
def setMonth (d : DateFields) (month : Nat) : Option DateFields :=
  (agree d.month month).map fun month ↦ { d with month }

/-- The fields with a day of the week. -/
def setWeekday (d : DateFields) (weekday : Nat) : Option DateFields :=
  (agree d.weekday weekday).map fun weekday ↦ { d with weekday }

/-! ## Reading -/

/-- The number that digits spell. -/
def number (digits : List Char) : Nat := digits.foldl (fun n c ↦ n * 10 + (c.toNat - 48)) 0

/-- A number of at most so many digits, and what follows it. -/
def takeNumber (width : Nat) (s : List Char) : Option (Nat × List Char) :=
  let digits := (s.take width).takeWhile Char.isDigit
  if digits.isEmpty then none else some (number digits, s.drop digits.length)

/-- A number of exactly so many digits, and what follows it. -/
def takeDigits (width : Nat) (s : List Char) : Option (Nat × List Char) :=
  let digits := (s.take width).takeWhile Char.isDigit
  if digits.length < width then none else some (number digits, s.drop width)

/-- A year: of at most four digits, or with a sign and of any number of digits. -/
def takeYear (s : List Char) : Option (Int × List Char) :=
  match s with
  | '-' :: rest => (takeNumber rest.length rest).map fun (n, rest) ↦ (-(n : Int), rest)
  | '+' :: rest => (takeNumber rest.length rest).map fun (n, rest) ↦ ((n : Int), rest)
  | _ => (takeNumber 4 s).map fun (n, rest) ↦ ((n : Int), rest)

/-- What follows a word, in whatever case it is written. -/
def takeWord (word s : List Char) : Option (List Char) :=
  if (s.take word.length).map Char.toLower = word then some (s.drop word.length) else none

/-- The place in a list of the first of several words that the text begins with, and what follows
the word. -/
def takeOneOf : (words : List (List Char)) → List Char → Option (Nat × List Char)
  | [], _ => none
  | word :: words, s =>
    match takeWord word s with
    | some rest => some (0, rest)
    | none => (takeOneOf words s).map fun (i, rest) ↦ (i + 1, rest)

/-- The names of the months, of which the first three letters are the short forms. -/
def monthNames : List (List Char) :=
  ["january", "february", "march", "april", "may", "june", "july", "august", "september",
    "october", "november", "december"].map String.toList

/-- The names of the days of the week, of which the first three letters are the short forms. -/
def weekdayNames : List (List Char) :=
  ["sunday", "monday", "tuesday", "wednesday", "thursday", "friday", "saturday"].map String.toList

/-- The place of a name given by its short form, and what follows the short form. -/
def takeShort (names : List (List Char)) (s : List Char) : Option (Nat × List Char) :=
  takeOneOf (names.map (·.take 3)) s

/-- The place of a name given in full or by its short form, and what follows it. -/
def takeName (names : List (List Char)) (s : List Char) : Option (Nat × List Char) := do
  let (i, rest) ← takeShort names s
  some (i, (takeWord ((names.getD i []).drop 3) rest).getD rest)

/-- The seconds an offset is ahead, and what follows it: a sign, two digits for the hours and two
for the minutes, with colons or blanks between them or without. -/
def takeOffset (s : List Char) : Option (Int × List Char) := do
  let (negative, rest) ← match s with
    | '+' :: rest => some (false, rest)
    | '-' :: rest => some (true, rest)
    | '\u2212' :: rest => some (true, rest)
    | _ => none
  let (hours, rest) ← takeDigits 2 rest
  let (minutes, rest) ← takeDigits 2 (rest.dropWhile fun c ↦ c = ':' || isBlank c)
  let minutes ← within 0 59 minutes
  let seconds : Int := (hours * 3600 + minutes * 60 : Nat)
  some (if negative then -seconds else seconds, rest)

/-- The fields after a number in a range has been read into one of them. -/
def readNumber (width low high : Nat) (set : Nat → Option DateFields) (s : List Char) :
    Option (DateFields × List Char) := do
  let (n, rest) ← takeNumber width (skipBlanks s)
  let d ← set (← within low high n)
  some (d, rest)

/-- The fields after a fraction of a second has been read, in units of so many billionths. -/
def readFraction (d : DateFields) (width unit : Nat) (s : List Char) :
    Option (DateFields × List Char) := do
  let (n, rest) ← takeDigits width s
  let billionths ← agree d.billionths (n * unit)
  some ({ d with billionths }, rest)

/-- The fields after an offset has been read. -/
def readOffset (d : DateFields) (s : List Char) : Option (DateFields × List Char) := do
  let (seconds, rest) ← takeOffset (skipBlanks s)
  let offset ← agree d.offset seconds
  some ({ d with offset }, rest)

/-- The fields after one of them has been read at the front of a text, and what follows it.
Numbers and offsets may have blanks before them, names may not. -/
def readField (d : DateFields) : DateField → List Char → Option (DateFields × List Char)
  | .year, s => do
    let (n, rest) ← takeYear (skipBlanks s)
    let year ← agree d.year n
    some ({ d with year }, rest)
  | .yearOfCentury, s =>
    readNumber 2 0 99 (fun n ↦ (agree d.yearOfCentury n).map ({ d with yearOfCentury := · })) s
  | .month, s => readNumber 2 1 12 d.setMonth s
  | .monthShort, s => do
    let (i, rest) ← takeShort monthNames s
    some (← d.setMonth (i + 1), rest)
  | .monthLong, s => do
    let (i, rest) ← takeName monthNames s
    some (← d.setMonth (i + 1), rest)
  | .day, s => readNumber 2 1 31 (fun n ↦ (agree d.day n).map ({ d with day := · })) s
  | .dayOfYear, s =>
    readNumber 3 1 366 (fun n ↦ (agree d.dayOfYear n).map ({ d with dayOfYear := · })) s
  | .weekdayShort, s => do
    let (i, rest) ← takeShort weekdayNames s
    some (← d.setWeekday i, rest)
  | .weekdayLong, s => do
    let (i, rest) ← takeName weekdayNames s
    some (← d.setWeekday i, rest)
  | .half, s => do
    let (i, rest) ← takeOneOf ["am".toList, "pm".toList] s
    some (← d.setHalf i, rest)
  | .hour, s => readNumber 2 0 23 d.setHour s
  | .hourOfHalf, s => readNumber 2 1 12 (fun n ↦ d.setHourOfHalf (n % 12)) s
  | .minute, s => readNumber 2 0 59 (fun n ↦ (agree d.minute n).map ({ d with minute := · })) s
  | .second, s => readNumber 2 0 60 (fun n ↦ (agree d.second n).map ({ d with second := · })) s
  | .thousandths, s => d.readFraction 3 1000000 s
  | .millionths, s => d.readFraction 6 1000 s
  | .billionths, s => d.readFraction 9 1 s
  | .offset, s => d.readOffset s
  | .offsetWithColon, s => d.readOffset s
  | .zoneName, s => some (d, s.dropWhile fun c ↦ !isBlank c)

/-- The fields after a text has been read along some parts to its end.  A blank among the parts
stands for any number of blanks, also for none. -/
def read (d : DateFields) : List DateItem → List Char → Option DateFields
  | [], s => if s.isEmpty then some d else none
  | .field f :: items, s =>
    match d.readField f s with
    | some (d, rest) => read d items rest
    | none => none
  | .literal c :: items, s =>
    if isBlank c then read d items (skipBlanks s)
    else match s with
      | a :: rest => if a = c then read d items rest else none
      | [] => none

/-! ## Putting together -/

/-- The year: as it is given, or the one from 1970 on with the last two digits given.  A year
before the year zero has no last two digits. -/
def fullYear? (d : DateFields) : Option Int :=
  match d.year, d.yearOfCentury with
  | some y, some r => if 0 ≤ y ∧ y % 100 = r then some y else none
  | some y, none => some y
  | none, some r => some (if r < 70 then 2000 + r else 1900 + r)
  | none, none => none

/-- A field is not given, or has a value. -/
def fits (field : Option Nat) (value : Nat) : Bool := field.all (· = value)

/-- The day of the year of a day in it. -/
def ordinal (year day : Int) : Nat := (day - Calendar.firstDay year + 1).toNat

/-- The day, from the month and the day in it if both are given, and else from the day of the
year; what else is given has to fit. -/
def day? (d : DateFields) : Option Int := do
  let year ← d.fullYear?
  if !Calendar.hasYear year then none
  match d.month, d.day, d.dayOfYear with
  | some month, some dayOfMonth, _ =>
    if month = 0 ∨ 12 < month ∨ dayOfMonth = 0 ∨ Calendar.daysInMonth year month < dayOfMonth then
      none
    else
      let day := Calendar.day year month dayOfMonth
      if fits d.weekday (Calendar.weekday day) ∧ fits d.dayOfYear (ordinal year day) then some day
      else none
  | month, dayOfMonth, some n =>
    if n = 0 ∨ Calendar.daysInYear year < n then none
    else
      let day := Calendar.firstDay year + n - 1
      let first (m : Nat) : Nat := Calendar.daysBefore year m
      let monthFits := month.all fun m ↦ first m < n && n ≤ first m + Calendar.daysInMonth year m
      let dayFits := dayOfMonth.all fun k ↦
        (List.range 12).any fun m ↦ first (m + 1) + k = n && k ≤ Calendar.daysInMonth year (m + 1)
      if fits d.weekday (Calendar.weekday day) ∧ monthFits ∧ dayFits then some day else none
  | _, _, none => none

/-- The time of day: the second of the day, and the billionths after it.  A leap second is a
second that is twice as long. -/
def timeOfDay? (d : DateFields) : Option (Nat × Nat) := do
  let hour := (← d.half) * 12 + (← d.hourOfHalf)
  let minute ← d.minute
  let second := d.second.getD 0
  if d.second.isNone ∧ d.billionths.isSome then none
  let whole := hour * 3600 + minute * 60 + min second 59
  some (whole, (if second = 60 then 1000000000 else 0) + d.billionths.getD 0)

end DateFields

end SourceHost
