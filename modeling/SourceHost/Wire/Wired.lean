import Std.Data.ExtTreeMap
import SourceHost.Wire.Decode
import SourceHost.Wire.Encode

/-!
# Types with a wire form

A type is `Wired` when it comes with a shape and two functions, one that lays a value out along
the shape and one that assembles a value from its parts.  Neither function can fail: what cannot
be refused by the shape is not refused at all.

The instances here are those of the standard types.  The names are not on the wire, so the order
of the parts in `Wired.shape` *is* the format.
-/

set_option autoImplicit false

namespace SourceHost

/-- A table from texts to texts, in the order of its keys. -/
abbrev TextMap := Std.ExtTreeMap String String

/-- A type whose values can be sent. -/
class Wired (α : Type) where
  /-- How values look on the wire. -/
  shape : Shape
  /-- The parts of a value. -/
  toWire : α → shape.Value
  /-- The value with the given parts. -/
  ofWire : shape.Value → α

namespace Wired

variable {α : Type} [Wired α]

/-- The bytes of a value. -/
def encode (a : α) : Except WireError Bytes := (shape α).encode (toWire a)

/-- The value at the front of the bytes, and the bytes after it. -/
def take (b : Bytes) : Except WireError (α × Bytes) := do
  let (v, rest) ← (shape α).take b
  return (ofWire v, rest)

/-- The value that all the bytes together spell. -/
def decode (b : Bytes) : Except WireError α := do
  let v ← (shape α).decode b
  return ofWire v

end Wired

/-! ## Standard types -/

instance : Wired Bool := ⟨.bool, id, id⟩

instance : Wired String := ⟨.text, id, id⟩

instance : Wired Single := ⟨.f32, id, id⟩

instance : Wired (Signed 32) := ⟨.signed .w32, id, id⟩

instance : Wired (Signed 64) := ⟨.signed .w64, id, id⟩

instance : Wired (Unsigned 16) := ⟨.unsigned .w16, id, id⟩

instance : Wired Instant := ⟨.instant, id, id⟩

instance {α : Type} [Wired α] : Wired (Option α) where
  shape := .option (Wired.shape α)
  toWire a := a.map Wired.toWire
  ofWire v := v.map Wired.ofWire

instance {α : Type} [Wired α] : Wired (List α) where
  shape := .seq (Wired.shape α)
  toWire l := l.map Wired.toWire
  ofWire vs := vs.map Wired.ofWire

/-- A table is written in the order of its keys.  Entries are read in any order, and of several
with one key the last one counts. -/
instance {α : Type} [Wired α] : Wired (Std.ExtTreeMap String α) where
  shape := .map .text (Wired.shape α)
  toWire m := m.toList.map fun e ↦ (e.1, Wired.toWire e.2)
  ofWire entries := .ofList (entries.map fun e ↦ (e.1, Wired.ofWire e.2))

end SourceHost
