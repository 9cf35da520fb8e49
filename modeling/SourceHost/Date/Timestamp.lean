import SourceHost.Date.Fields
import SourceHost.Date.Zone
import SourceHost.Wire.Shape

/-!
# Dates in a text

`Timestamp.parse?` reads a date along a pattern and tells the moment it names, in milliseconds
since the start of 1970.  A date without a time of day names the start of the day.  An offset in
the text itself counts more than a time zone given beside it.
-/

set_option autoImplicit false

namespace SourceHost.Timestamp

/-- An offset that a zone can have: less than a day. -/
def validOffset (offset : Int) : Option Int :=
  if -86400 < offset ∧ offset < 86400 then some offset else none

/-- The zone in which a local time with some fields is meant. -/
def zoneOf (zones : ZoneBook) (d : DateFields) (timezone : Option String) : Zone :=
  match d.offset.bind validOffset with
  | some offset => .fixed offset
  | none => .resolve zones timezone

/-- The moment that some fields name, in milliseconds. -/
def ofFields (zones : ZoneBook) (d : DateFields) (timezone : Option String) : Option Int := do
  let day ← d.day?
  let (second, billionths) := d.timeOfDay?.getD (0, 0)
  let seconds ← (zoneOf zones d timezone).earliest (day * Calendar.secondsPerDay + second)
  let instant ← Instant.ofSeconds seconds
  some (instant.seconds * 1000 + (billionths / 1000000 : Nat))

/-- The moment that a text names when it is read along a pattern. -/
def parse? (zones : ZoneBook) (input pattern : String) (timezone : Option String) :
    Option Int := do
  let items ← Template.items? (Pattern.template pattern).toList
  let fields ← DateFields.read {} items (trimBlanks input.toList)
  ofFields zones fields timezone

end SourceHost.Timestamp
