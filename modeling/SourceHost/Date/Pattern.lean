/-!
# Date patterns

A date pattern says how a date is written: runs of a letter stand for fields (`yyyy-MM-dd`), text
in quotes and all other characters for themselves.  Two quotes are one quote, inside quotes and
outside.  A quoted text that is not closed runs to the end.

A pattern is first put into another notation, a *template*, in which a field is a percent sign and
a code.  `Pattern.items` takes a pattern apart, `Pattern.template` writes its template, and
`Template.items?` takes a template apart.
-/

set_option autoImplicit false

namespace SourceHost

/-- The fields of a date that can be written. -/
inductive DateField where
  | year
  | yearOfCentury
  | month
  | monthShort
  | monthLong
  | day
  | dayOfYear
  | weekdayShort
  | weekdayLong
  | half
  | hour
  | hourOfHalf
  | minute
  | second
  | thousandths
  | millionths
  | billionths
  | offset
  | offsetWithColon
  | zoneName
deriving DecidableEq, Repr

/-- A part of a pattern or a template: a field, or a character that stands for itself. -/
inductive DateItem where
  | field (field : DateField)
  | literal (char : Char)
deriving DecidableEq, Repr

namespace DateField

/-- The field that a run of a letter stands for. -/
def ofRun (letter : Char) (count : Nat) : Option DateField :=
  if letter = 'y' ∨ letter = 'u' then some (if count = 2 then yearOfCentury else year)
  else if letter = 'M' ∨ letter = 'L' then
    some (if count ≤ 2 then month else if count = 3 then monthShort else monthLong)
  else if letter = 'd' then some day
  else if letter = 'D' then some dayOfYear
  else if letter = 'E' then some (if count ≤ 3 then weekdayShort else weekdayLong)
  else if letter = 'a' then some half
  else if letter = 'H' ∨ letter = 'k' then some hour
  else if letter = 'h' ∨ letter = 'K' then some hourOfHalf
  else if letter = 'm' then some minute
  else if letter = 's' then some second
  else if letter = 'S' then
    some (if count = 6 then millionths else if count = 9 then billionths else thousandths)
  else if letter = 'Z' then some (if count ≤ 3 then offset else offsetWithColon)
  else if letter = 'X' ∨ letter = 'x' then some (if count ≤ 2 then offset else offsetWithColon)
  else if letter = 'z' then some zoneName
  else none

/-- The code of a field in a template. -/
def code : DateField → String
  | year => "Y"
  | yearOfCentury => "y"
  | month => "m"
  | monthShort => "b"
  | monthLong => "B"
  | day => "d"
  | dayOfYear => "j"
  | weekdayShort => "a"
  | weekdayLong => "A"
  | half => "p"
  | hour => "H"
  | hourOfHalf => "I"
  | minute => "M"
  | second => "S"
  | thousandths => "3f"
  | millionths => "6f"
  | billionths => "9f"
  | offset => "z"
  | offsetWithColon => ":z"
  | zoneName => "Z"

/-- The field with a code of one character. -/
def ofCode : Char → Option DateField
  | 'Y' => some year
  | 'y' => some yearOfCentury
  | 'm' => some month
  | 'b' => some monthShort
  | 'B' => some monthLong
  | 'd' => some day
  | 'j' => some dayOfYear
  | 'a' => some weekdayShort
  | 'A' => some weekdayLong
  | 'p' => some half
  | 'H' => some hour
  | 'I' => some hourOfHalf
  | 'M' => some minute
  | 'S' => some second
  | 'z' => some offset
  | 'Z' => some zoneName
  | _ => none

end DateField

namespace Pattern

/-- The characters of a quoted text that has been opened, and what follows its end. -/
def quoted : List Char → List Char × List Char
  | [] => ([], [])
  | ['\''] => ([], [])
  | '\'' :: '\'' :: rest =>
    let (text, rest) := quoted rest
    ('\'' :: text, rest)
  | c :: rest =>
    if c = '\'' then ([], rest)
    else
      let (text, rest) := quoted rest
      (c :: text, rest)

theorem length_quoted (s : List Char) : (quoted s).2.length ≤ s.length := by
  fun_induction quoted s <;> simp_all <;> omega

/-- The parts of a pattern.  A run of a letter that stands for no field is left out. -/
def items : List Char → List DateItem
  | [] => []
  | '\'' :: '\'' :: rest => .literal '\'' :: items rest
  | c :: rest =>
    if c = '\'' then
      (quoted rest).1.map .literal ++ items (quoted rest).2
    else if c.isAlpha then
      let run := rest.takeWhile (· = c)
      ((DateField.ofRun c (run.length + 1)).map .field).toList ++ items (rest.drop run.length)
    else .literal c :: items rest
termination_by s => s.length
decreasing_by
  · simp only [List.length_cons]; omega
  · have := length_quoted rest; simp only [List.length_cons]; omega
  · simp only [List.length_cons, List.length_drop]; omega
  · simp only [List.length_cons]; omega

/-- A part in the notation of templates; a percent sign that stands for itself is doubled. -/
def itemText : DateItem → List Char
  | .field f => '%' :: f.code.toList
  | .literal c => if c = '%' then ['%', '%'] else [c]

/-- The template of a pattern. -/
def template (pattern : String) : String :=
  String.ofList ((items pattern.toList).flatMap itemText)

end Pattern

namespace Template

/-- The parts of a template, unless it has a code that no field has. -/
def items? : List Char → Option (List DateItem)
  | [] => some []
  | '%' :: '%' :: rest => (items? rest).map (.literal '%' :: ·)
  | '%' :: '3' :: 'f' :: rest => (items? rest).map (.field .thousandths :: ·)
  | '%' :: '6' :: 'f' :: rest => (items? rest).map (.field .millionths :: ·)
  | '%' :: '9' :: 'f' :: rest => (items? rest).map (.field .billionths :: ·)
  | '%' :: ':' :: 'z' :: rest => (items? rest).map (.field .offsetWithColon :: ·)
  | '%' :: c :: rest => (DateField.ofCode c).bind fun f ↦ (items? rest).map (.field f :: ·)
  | ['%'] => none
  | c :: rest => (items? rest).map (.literal c :: ·)

end Template

end SourceHost
