import SourceHost.Text.Utf8
import SourceHost.Wire.Shape
import SourceHost.Wire.Varint

/-!
# Bytes to values

`Shape.take` reads a value of a given shape off the front of some bytes and returns it with the
bytes after it; `Shape.decode` wants the value to be all there is.

A length in front of bytes must be backed by the bytes that follow.  A count in front of a sequence
or a map need not be, since elements may take no bytes at all, but a count that exceeds both the
bytes that follow and `maxUnbackedCount` is refused before the first element is read.  That bounds
what a few hostile bytes can demand.
-/

set_option autoImplicit false

namespace SourceHost

/-- The largest count that is accepted without a byte to back each element. -/
def maxUnbackedCount : Nat := 65536

namespace Bytes

/-- The first byte. -/
def takeByte : Bytes → Except WireError (UInt8 × Bytes)
  | [] => .error .unexpectedEnd
  | a :: rest => .ok (a, rest)

/-- The first `count` bytes. -/
def takeExactly (count : Nat) (b : Bytes) : Except WireError (Bytes × Bytes) :=
  if b.length < count then .error .unexpectedEnd else .ok (b.take count, b.drop count)

/-- A length and the bytes it measures. -/
def takeCounted (b : Bytes) : Except WireError (Bytes × Bytes) := do
  let (length, rest) ← Varint.decode 64 b
  if rest.length < length.val then .error (.lengthOutOfRange length.val)
  else return (rest.take length.val, rest.drop length.val)

/-- A length and the UTF-8 text it measures. -/
def takeText (b : Bytes) : Except WireError (String × Bytes) := do
  let (content, rest) ← takeCounted b
  match Utf8.decode content with
  | some t => return (t, rest)
  | none => .error .invalidUtf8

/-- How many elements follow. -/
def takeCount (b : Bytes) : Except WireError (Nat × Bytes) := do
  let (count, rest) ← Varint.decode 64 b
  if rest.length < count.val ∧ maxUnbackedCount < count.val then
    .error (.lengthOutOfRange count.val)
  else return (count.val, rest)

/-- A number laid out over `count` bytes. -/
def takeLittleEndian (count bits : Nat) (b : Bytes) : Except WireError (Unsigned bits × Bytes) := do
  let (content, rest) ← takeExactly count b
  return (Unsigned.wrap bits (ofLittleEndian content), rest)

end Bytes

/-- `count` items, read one after the other; those of `found`, in reverse, come before them. -/
def takeEach {α : Type} (read : Bytes → Except WireError (α × Bytes)) :
    (count : Nat) → (found : List α) → Bytes → Except WireError (List α × Bytes)
  | 0, found, b => .ok (found.reverse, b)
  | count + 1, found, b =>
    match read b with
    | .error e => .error e
    | .ok (a, rest) => takeEach read count (a :: found) rest

/-- The value of a shape at the front of the bytes, and the bytes after it. -/
def Shape.take : (s : Shape) → Bytes → Except WireError (s.Value × Bytes)
  | .bool, b => do
    let (a, rest) ← b.takeByte
    return (a != 0, rest)
  | .u8, b => b.takeByte
  | .i8, b => do
    let (a, rest) ← b.takeByte
    return (Signed.ofInt 8 ((a.toNat : Int).bmod 256), rest)
  | .unsigned w, b => Varint.decode w.bits b
  | .signed w, b => do
    let (n, rest) ← Varint.decode w.bits b
    return (Varint.unzigzagWide w.bits_pos n, rest)
  | .f32, b => b.takeLittleEndian 4 32
  | .f64, b => b.takeLittleEndian 8 64
  | .char, b => do
    let (t, rest) ← b.takeText
    match t.toList with
    | [c] => return (c, rest)
    | _ => .error .invalidChar
  | .text, b => b.takeText
  | .bytes, b => b.takeCounted
  | .unit, b => .ok ((), b)
  | .option s, b => do
    let (a, rest) ← b.takeByte
    if a = 0 then return (none, rest)
    else
      let (v, rest) ← s.take rest
      return (some v, rest)
  | .seq s, b => do
    let (count, rest) ← b.takeCount
    takeEach s.take count [] rest
  | .map k v, b => do
    let (count, rest) ← b.takeCount
    takeEach (fun b ↦ do
      let (key, rest) ← k.take b
      let (value, rest) ← v.take rest
      return ((key, value), rest)) count [] rest
  | .pair s t, b => do
    let (x, rest) ← s.take b
    let (y, rest) ← t.take rest
    return ((x, y), rest)
  | .sum n p, b => do
    let (a, rest) ← b.takeByte
    if h : a.toNat < n then
      let (v, rest) ← (p ⟨a.toNat, h⟩).take rest
      return (⟨⟨a.toNat, h⟩, v⟩, rest)
    else .error (.invalidDiscriminant a.toNat)
  | .instant, b => do
    let (n, rest) ← Varint.decode 64 b
    match Instant.ofSeconds (Varint.unzigzag n.val) with
    | some t => return (t, rest)
    | none => .error (.timestampOutOfRange (Varint.unzigzag n.val))
  | .unsupported what, _ => .error (.unsupported what)

/-- The value of a shape that all the bytes together spell. -/
def Shape.decode (s : Shape) (b : Bytes) : Except WireError s.Value := do
  let (v, rest) ← s.take b
  if rest.isEmpty then return v else .error (.trailingBytes rest.length)

end SourceHost
