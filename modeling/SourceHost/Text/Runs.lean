import SourceHost.Text.Hex
import SourceHost.Text.Pieces

/-!
# Runs of characters

A property that changes seldom from one character to the next is written down as runs: what the
first characters have in common, how many of them there are, what the next ones have in common,
and so on until every character has been counted.

The runs are written as words.  A word is a value, followed by a colon and the number of characters
in hexadecimal if there is more than one: `L:1a ON` says that twenty-six characters are `L` and
that the one after them is `ON`.  A table of runs is searched by halves.
-/

set_option autoImplicit false

namespace SourceHost

/-- A property of characters. -/
structure RunTable (α : Type) where
  /-- Where each run begins, in ascending order, and what it is a run of. -/
  runs : Array (Nat × α)

namespace RunTable

variable {α : Type}

/-- The table that is written as words. -/
def read (value : List Char → α) (text : String) : RunTable α :=
  let found := (words text.toList).foldl (fun (runs, start) word ↦
    let name := word.takeWhile (· ≠ ':')
    let count := word.drop (name.length + 1)
    (runs.push (start, value name), start + if count.isEmpty then 1 else Hex.number count)) (#[], 0)
  ⟨found.1⟩

/-- The table has a run of that index, and it begins no later than `n`. -/
def begun (t : RunTable α) (n i : Nat) : Bool := (t.runs[i]?).any (·.1 ≤ n)

/-- Among the runs from `low` on and before `high`, the last one that has begun at `n`. -/
def locate (t : RunTable α) (n low high : Nat) : Nat :=
  if low + 1 < high then
    let middle := (low + high) / 2
    if t.begun n middle then locate t n middle high else locate t n low middle
  else low
termination_by high - low

/-- The run that a character belongs to: where it begins, and what it is a run of. -/
def run? (t : RunTable α) (c : Char) : Option (Nat × α) :=
  t.runs[t.locate c.toNat 0 t.runs.size]?

/-- What holds of a character. -/
def get (t : RunTable α) (default : α) (c : Char) : α := ((t.run? c).map Prod.snd).getD default

end RunTable

end SourceHost
