import SourceHost.Bytes
import SourceHost.Wire.Error

/-!
# Shapes

Nothing on the wire says what it is, so both sides have to know the *shape* of what is sent.
`Shape` lists the shapes there are, and `Shape.Value` is the type of the values of a shape.  A
value is therefore well-formed by being given at all.

Products of several parts are built from `Shape.pair`; names of fields are not on the wire, so a
tuple and a structure of the same parts have the same shape (`Shape.record`), and a wrapper around
one part has the shape of its part.  A sum has a number of variants, each with the shape of its
payload (`Shape.oneOf`); a variant without a payload carries `Shape.unit`.

`Shape.unsupported` is a place in a type where the format has nothing to offer.  Such shapes exist
so that asking for them can be answered.
-/

set_option autoImplicit false

namespace SourceHost

/-- The widths a whole number on the wire can have, besides one byte. -/
inductive Width where
  | w16
  | w32
  | w64
  | w128
deriving DecidableEq, Repr

/-- The width in bits. -/
def Width.bits : Width → Nat
  | w16 => 16
  | w32 => 32
  | w64 => 64
  | w128 => 128

theorem Width.bits_pos (w : Width) : 0 < w.bits := by cases w <;> decide

/-- A moment, in whole seconds since the start of 1970.  The bounds are those of the calendar: the
years -262143 to 262142. -/
structure Instant where
  /-- Seconds since the start of 1970. -/
  seconds : Int
  /-- No moment is before the first of the calendar. -/
  le_seconds : -8334601228800 ≤ seconds
  /-- No moment is after the last of the calendar. -/
  seconds_le : seconds ≤ 8210266876799
deriving DecidableEq

/-- The moment `seconds` after the start of 1970, if the calendar has it. -/
def Instant.ofSeconds (seconds : Int) : Option Instant :=
  if h : -8334601228800 ≤ seconds ∧ seconds ≤ 8210266876799 then some ⟨seconds, h.1, h.2⟩ else none

/-- The shapes values on the wire can have. -/
inductive Shape where
  /-- A truth value, in one byte. -/
  | bool
  /-- A number in one byte. -/
  | u8
  /-- A signed number in one byte. -/
  | i8
  /-- A natural number of a width, as a varint. -/
  | unsigned (width : Width)
  /-- An integer of a width, as a varint. -/
  | signed (width : Width)
  /-- A single-precision number: its 32 bits. -/
  | f32
  /-- A double-precision number: its 64 bits. -/
  | f64
  /-- One character. -/
  | char
  /-- A text. -/
  | text
  /-- A string of bytes. -/
  | bytes
  /-- The only value, of no bytes at all. -/
  | unit
  /-- A value that may be absent. -/
  | option (item : Shape)
  /-- A list of values of one shape. -/
  | seq (item : Shape)
  /-- A list of keys with values, in the order of the wire. -/
  | map (key value : Shape)
  /-- One value after the other. -/
  | pair (first second : Shape)
  /-- One of several variants. -/
  | sum (count : Nat) (payload : Fin count → Shape)
  /-- A moment: a 64-bit integer that has to lie in the calendar. -/
  | instant
  /-- Something the format cannot carry. -/
  | unsupported (what : Unsupported)

namespace Shape

/-- The values of a shape. -/
@[reducible] def Value : Shape → Type
  | bool => Bool
  | u8 => UInt8
  | i8 => Signed 8
  | unsigned w => Unsigned w.bits
  | signed w => Signed w.bits
  | f32 => Unsigned 32
  | f64 => Unsigned 64
  | char => Char
  | text => String
  | bytes => Bytes
  | unit => Unit
  | option s => Option s.Value
  | seq s => List s.Value
  | map k v => List (k.Value × v.Value)
  | pair a b => a.Value × b.Value
  | sum n p => (i : Fin n) × (p i).Value
  | instant => Instant
  | unsupported _ => Unit

/-- Values of several shapes, one after the other. -/
def record : List Shape → Shape
  | [] => unit
  | [s] => s
  | s :: t :: rest => pair s (record (t :: rest))

/-- A value of one of several shapes. -/
def oneOf (variants : List Shape) : Shape := sum variants.length fun i ↦ variants[i]

/-- One of `count` variants without payload. -/
def choice (count : Nat) : Shape := sum count fun _ ↦ unit

/-- Values of this shape take no bytes. -/
def isZeroWidth : Shape → Bool
  | unit => true
  | pair a b => a.isZeroWidth && b.isZeroWidth
  | _ => false

end Shape

end SourceHost
