import SourceHost.Text.Canonical
import SourceHost.Url.Domain.Direction
import SourceHost.Url.Domain.Joiner
import SourceHost.Url.Domain.Mapping
import SourceHost.Url.Punycode

/-!
# Names

The name of a host consists of labels with dots between them.  A label can be written in any script
or in its ASCII form, which begins with `xn--`.  `Domain.ascii?` brings a name into the form with
ASCII labels only: its characters are mapped and composed, then its labels are checked, and those
that are not ASCII are encoded.
-/

set_option autoImplicit false

namespace SourceHost.Domain

/-- An ASCII character. -/
def isAscii (c : Char) : Bool := c.toNat < 128

/-- What the ASCII form of a label begins with. -/
def mark : List Char := "xn--".toList

/-- The longest label that is encoded. -/
def longestEncoded : Nat := 1000

/-- The longest label that is decoded. -/
def longestDecoded : Nat := 2000

/-- A name in lower case and in composed form. -/
def fold? (s : List Char) : Option (List Char) :=
  if s.all isAscii then some (s.map Char.toLower)
  else (s.mapM mapped?).map fun parts ↦ Canonical.normal parts.flatten

/-- The label that an ASCII form stands for, if it is the form of a label. -/
def decoded? (code : List Char) : Option (List Char) :=
  if code.isEmpty ∨ code.getLast? = some '-' ∨ longestDecoded < code.length then none
  else (Punycode.decode? code).filter fun label ↦
    label.all isKept && Canonical.normal label = label

/-- The characters that a label means. -/
def meant? (label : List Char) : Option (List Char) :=
  if mark.isPrefixOf label then decoded? (label.drop mark.length) else some label

/-- What a label means can stand in a name. -/
def isLabel (forbidden : Char → Bool) (label : List Char) : Bool :=
  !label.any (fun c ↦ forbidden c || c = '.')
    && (label.all isAscii
      || (!label.head?.any isMark && joinersFit [] label && label.length ≤ longestEncoded))

/-- The ASCII form of a label. -/
def asciiLabel (label : List Char) : List Char :=
  if label.all isAscii then label else mark ++ Punycode.encode label

/-- A name with ASCII labels only, if it is one. -/
def ascii? (forbidden : Char → Bool) (s : List Char) : Option (List Char) := do
  let name ← fold? s
  let labels ← (splitAt '.' name).mapM meant?
  if labels.all (isLabel forbidden) ∧ (labels.all (·.all isAscii) ∨ directionsFit labels) then
    some (['.'].intercalate (labels.map asciiLabel))
  else none

end SourceHost.Domain
