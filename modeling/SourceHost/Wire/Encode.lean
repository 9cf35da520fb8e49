import SourceHost.Text.Utf8
import SourceHost.Wire.Shape
import SourceHost.Wire.Varint

/-!
# Values to bytes

`Shape.encode` walks a value along its shape and writes its parts one after the other: lengths and
counts as varints in front of what they count, a byte of presence in front of an optional value,
the index of the variant in one byte in front of its payload.

Writing fails in two cases only, both of them properties of the value: it reaches a variant whose
index does not fit in a byte, or something the format cannot carry.
-/

set_option autoImplicit false

namespace SourceHost

/-- A length and then the bytes it measures. -/
def Bytes.counted (b : Bytes) : Bytes := Varint.encode b.length ++ b

/-- Every item of a list written in turn. -/
def encodeEach {α : Type} (write : α → Except WireError Bytes) : List α → Except WireError Bytes
  | [] => .ok []
  | a :: rest => do
    let front ← write a
    let back ← encodeEach write rest
    return front ++ back

/-- The byte of a variant index. -/
def encodeIndex (index : Nat) : Except WireError Bytes :=
  if index < 256 then .ok [UInt8.ofNat index] else .error (.invalidDiscriminant index)

/-- The bytes of a value. -/
def Shape.encode : (s : Shape) → s.Value → Except WireError Bytes
  | .bool, b => .ok [if b then 1 else 0]
  | .u8, n => .ok [n]
  | .i8, i => .ok [UInt8.ofNat (i.val % 256).toNat]
  | .unsigned _, n => .ok (Varint.encode n.val)
  | .signed _, i => .ok (Varint.encode (Varint.zigzag i.val))
  | .f32, n => .ok (Bytes.littleEndian 4 n.val)
  | .f64, n => .ok (Bytes.littleEndian 8 n.val)
  | .char, c => .ok (Bytes.counted (String.utf8EncodeChar c))
  | .text, t => .ok (Bytes.counted (Utf8.encode t))
  | .bytes, b => .ok (Bytes.counted b)
  | .unit, () => .ok []
  | .option _, none => .ok [0]
  | .option s, some v => do return 1 :: (← s.encode v)
  | .seq s, vs => do
    let items ← encodeEach s.encode vs
    return Varint.encode vs.length ++ items
  | .map k v, entries => do
    let items ← encodeEach (fun (key, value) ↦ do
      let front ← k.encode key
      let back ← v.encode value
      return front ++ back) entries
    return Varint.encode entries.length ++ items
  | .pair a b, (x, y) => do
    let front ← a.encode x
    let back ← b.encode y
    return front ++ back
  | .sum _ p, ⟨i, v⟩ => do
    let front ← encodeIndex i.val
    let back ← (p i).encode v
    return front ++ back
  | .instant, t => .ok (Varint.encode (Varint.zigzag t.seconds))
  | .unsupported what, () => .error (.unsupported what)

end SourceHost
