import SourceHost.Text.Hex
import SourceHost.Text.Utf8

/-!
# Percent-encoding

In an address a byte can stand for itself or be written as a percent sign and two hexadecimal
digits.  Which characters have to be written that way depends on where they stand; each place has
its own set, and the sets grow from `control` to `userInfo`.
-/

set_option autoImplicit false

namespace SourceHost.Percent

/-- Control characters, and everything beyond ASCII. -/
def control (c : Char) : Bool := c.toNat < 0x20 || 0x7E < c.toNat

/-- What is encoded in a fragment. -/
def fragment (c : Char) : Bool := control c || " \"<>\x60".toList.contains c

/-- What is encoded in a query. -/
def query (c : Char) : Bool := control c || " \"#<>".toList.contains c

/-- What is encoded in the query of an address of the web. -/
def specialQuery (c : Char) : Bool := query c || c == '\''

/-- What is encoded in a path. -/
def path (c : Char) : Bool := fragment c || "#?\x7b\x7d".toList.contains c

/-- What is encoded in a name or password. -/
def userInfo (c : Char) : Bool := path c || "/:;=@[\\]^|".toList.contains c

/-- A hexadecimal digit. -/
def digit (n : Nat) : Char := if n < 10 then Char.ofNat (48 + n) else Char.ofNat (55 + n)

/-- The encoded form of a byte. -/
def encodeByte (a : UInt8) : List Char := ['%', digit (a.toNat / 16), digit (a.toNat % 16)]

/-- A text with the characters of a set encoded. -/
def encode (set : Char → Bool) (s : List Char) : List Char :=
  s.flatMap fun c ↦ if set c then (String.utf8EncodeChar c).flatMap encodeByte else [c]

/-- The bytes a text stands for; a percent sign without two digits after it stands for itself. -/
def decode : List Char → Bytes
  | '%' :: x :: y :: rest =>
    match Hex.value x, Hex.value y with
    | some h, some l => UInt8.ofNat (16 * h + l) :: decode rest
    | _, _ => 0x25 :: decode (x :: y :: rest)
  | c :: rest => String.utf8EncodeChar c ++ decode rest
  | [] => []

end SourceHost.Percent
