import SourceHost.Text.Blank

/-!
# Time zones

A zone says how far local time is ahead at every second, and how far it may be ahead when clocks
show a time.  When clocks are put back a local time comes twice, and the first one counts; when
they are put forward some local times do not come at all.

A zone is given as a number (`+09:00`, `-0530`, `GMT+8`) or by a name.  Which names there are, a
book of zones tells.  What is neither stands for universal time.
-/

set_option autoImplicit false

namespace SourceHost

/-- How far local time is ahead when clocks show a time. -/
inductive Showing where
  /-- Clocks do not show it. -/
  | never
  /-- They show it once. -/
  | once (ahead : Int)
  /-- They show it twice. -/
  | twice (first second : Int)
deriving DecidableEq, Repr

/-- How far local time is ahead when clocks show the time first. -/
def Showing.first? : Showing → Option Int
  | never => none
  | once ahead => some ahead
  | twice first _ => some first

/-- A time zone. -/
structure Zone where
  /-- How far local time is ahead at a second. -/
  aheadAt : (second : Int) → Int
  /-- How far it is ahead when clocks show a time. -/
  aheadWhen : (localTime : Int) → Showing

/-- The zones that have a name. -/
abbrev ZoneBook := String → Option Zone

namespace Zone

/-- The zone in which local time is always ahead by so much. -/
def fixed (offset : Int) : Zone := ⟨fun _ ↦ offset, fun _ ↦ .once offset⟩

/-- Universal time. -/
def universal : Zone := fixed 0

/-- What a clock shows at a second. -/
def localAt (z : Zone) (second : Int) : Int := second + z.aheadAt second

/-- The first second that a local time names. -/
def earliest (z : Zone) (localTime : Int) : Option Int :=
  (z.aheadWhen localTime).first?.map (localTime - ·)

/-! ## Zones that a text gives -/

/-- The seconds that a number with a sign is ahead.  Its digits are one or two for the hours, or
four for hours and minutes; colons among them do not count. -/
def parseOffset (s : List Char) : Option Int := do
  let (sign, rest) ← match s with
    | '+' :: rest => some ((1 : Int), rest)
    | '-' :: rest => some (-1, rest)
    | _ => none
  if !rest.all fun c ↦ c.isDigit || c = ':' then none
  let digits := (rest.filter Char.isDigit).map fun c ↦ ((c.toNat - 48 : Nat) : Int)
  let seconds ← match digits with
    | [h] => some (h * 3600)
    | [g, h] => some ((g * 10 + h) * 3600)
    | [g, h, m, n] => some ((g * 10 + h) * 3600 + (m * 10 + n) * 60)
    | _ => none
  if seconds < 86400 then some (sign * seconds) else none

/-- What follows a prefix of a text. -/
def dropPrefix? (front s : List Char) : Option (List Char) :=
  if front.isPrefixOf s then some (s.drop front.length) else none

/-- The zone that a text gives. -/
def resolve (zones : ZoneBook) (timezone : Option String) : Zone :=
  match timezone with
  | none => universal
  | some text =>
    let name := trimBlanks text.toList
    let number := (dropPrefix? "GMT".toList name <|> dropPrefix? "UTC".toList name).getD name
    if name.map Char.toLower = "current".toList ∨ number.isEmpty then universal
    else match parseOffset number with
      | some offset => fixed offset
      | none => (zones (String.ofList name)).getD universal

end Zone

end SourceHost
