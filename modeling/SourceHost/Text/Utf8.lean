import SourceHost.Bytes

/-!
# Text as bytes

Texts travel as UTF-8.  Reading is done by a machine that takes one byte at a time: between
characters it holds nothing, inside one it holds what has been read of it and the range the next
byte has to lie in.  A byte that cannot continue the character makes the bytes held so far one
*fault*, and is then looked at afresh, so a fault is always the longest run of bytes that could
still have begun a character.

* `Utf8.scan` lists what the bytes hold, characters and faults in order.
* `Utf8.decode` is the text when there is no fault.
* `Utf8.lossy` is the text with the replacement character standing for each fault.
-/

set_option autoImplicit false

namespace SourceHost.Utf8

/-- A character of which some bytes are still missing. -/
structure Partial where
  /-- The value of the bytes read so far. -/
  value : Nat
  /-- How many bytes must follow the next one. -/
  later : Nat
  /-- The least byte that may come next. -/
  low : UInt8
  /-- The greatest byte that may come next. -/
  high : UInt8
deriving DecidableEq

/-- The bytes of a character of which `a` is the first, when `a` can begin one of several bytes.
The second byte of some characters is narrower than the range of all later bytes: that rules out
overlong forms, surrogates, and values beyond the last code point. -/
def lead (a : UInt8) : Option Partial :=
  if 0xC2 ≤ a ∧ a ≤ 0xDF then some ⟨a.toNat - 0xC0, 0, 0x80, 0xBF⟩
  else if a = 0xE0 then some ⟨0, 1, 0xA0, 0xBF⟩
  else if a = 0xED then some ⟨0xD, 1, 0x80, 0x9F⟩
  else if 0xE1 ≤ a ∧ a ≤ 0xEF then some ⟨a.toNat - 0xE0, 1, 0x80, 0xBF⟩
  else if a = 0xF0 then some ⟨0, 2, 0x90, 0xBF⟩
  else if 0xF1 ≤ a ∧ a ≤ 0xF3 then some ⟨a.toNat - 0xF0, 2, 0x80, 0xBF⟩
  else if a = 0xF4 then some ⟨4, 2, 0x80, 0x8F⟩
  else none

/-- What has been found in the bytes: a character, or `none` for a fault. -/
abbrev Item := Option Char

/-- A byte met between two characters. -/
def start (a : UInt8) : List Item × Option Partial :=
  if a < 0x80 then ([some (Char.ofNat a.toNat)], none)
  else match lead a with
    | some p => ([], some p)
    | none => ([none], none)

/-- One byte more. -/
def step : Option Partial → UInt8 → List Item × Option Partial
  | none, a => start a
  | some p, a =>
    if p.low ≤ a ∧ a ≤ p.high then
      let value := p.value * 64 + (a.toNat - 0x80)
      match p.later with
      | 0 => ([some (Char.ofNat value)], none)
      | later + 1 => ([], some ⟨value, later, 0x80, 0xBF⟩)
    else
      let (items, next) := start a
      (none :: items, next)

/-- The end of the bytes: a character still waiting for bytes is a fault. -/
def finish : Option Partial → List Item
  | none => []
  | some _ => [none]

/-- The items of `b` behind those of `found`, which is in reverse. -/
def scanFrom (held : Option Partial) (found : List Item) : Bytes → List Item
  | [] => ((finish held) ++ found).reverse
  | a :: rest =>
    let (items, next) := step held a
    scanFrom next (items.reverse ++ found) rest

/-- The characters and faults of `b`, in order. -/
def scan (b : Bytes) : List Item := scanFrom none [] b

/-- The text `b` spells, if it has no fault. -/
def decode (b : Bytes) : Option String :=
  let items := scan b
  if items.all Option.isSome then some (String.ofList (items.filterMap id)) else none

/-- The text `b` spells, each fault replaced. -/
def lossy (b : Bytes) : String :=
  String.ofList ((scan b).map fun item ↦ item.getD '\uFFFD')

/-- The bytes of a text. -/
def encode (s : String) : Bytes := s.toList.flatMap String.utf8EncodeChar

end SourceHost.Utf8
