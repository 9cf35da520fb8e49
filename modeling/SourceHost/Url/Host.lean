import SourceHost.Url.Domain.Basic
import SourceHost.Url.Percent

/-!
# Hosts

The host of an address is a name or a number.  Names of the web have ASCII labels only, whatever
they are written in.  Numbers are recognised in every form that can be written, and come out in
one.
-/

set_option autoImplicit false

namespace SourceHost

/-- A host. -/
inductive UrlHost where
  /-- A name. -/
  | name (name : String)
  /-- A number of 32 bits. -/
  | v4 (address : Nat)
  /-- A number of 128 bits, in eight pieces. -/
  | v6 (pieces : List Nat)
deriving DecidableEq, Repr

namespace UrlHost

/-! ## Text -/

/-- The longest run of zeros of length at least two, the first of several: its start and
length. -/
def zeroRun (pieces : List Nat) : Option (Nat × Nat) :=
  let runs := (List.range pieces.length).map fun i ↦ (i, ((pieces.drop i).takeWhile (· = 0)).length)
  runs.foldl (fun best run ↦
    if 2 ≤ run.2 ∧ (best.map Prod.snd).getD 0 < run.2 then some run else best) none

/-- Pieces in hexadecimal, with colons between them. -/
def joinPieces (pieces : List Nat) : String :=
  String.intercalate ":" (pieces.map fun n ↦ String.ofList (Nat.toDigits 16 n))

/-- The text of a host. -/
def text : UrlHost → String
  | name n => n
  | v4 a =>
    String.intercalate "." ([a / 16777216, a / 65536 % 256, a / 256 % 256, a % 256].map toString)
  | v6 pieces => match zeroRun pieces with
    | none => "[" ++ joinPieces pieces ++ "]"
    | some (start, length) =>
      "[" ++ joinPieces (pieces.take start) ++ "::" ++ joinPieces (pieces.drop (start + length))
        ++ "]"

/-! ## Numbers of 32 bits -/

/-- The number that digits of a base spell. -/
def number (base : Nat) (digits : List Char) : Option Nat :=
  digits.foldlM (fun n c ↦ (Hex.value c).bind fun d ↦
    if d < base then some (n * base + d) else none) 0

/-- The number a part of a dotted number spells, in the base its beginning announces. -/
def partNumber : List Char → Option Nat
  | [] => none
  | '0' :: 'x' :: rest => number 16 rest
  | '0' :: 'X' :: rest => number 16 rest
  | '0' :: c :: rest => number 8 (c :: rest)
  | part => number 10 part

/-- The parts of a dotted number; a dot at the end is not a part. -/
def dottedParts (s : List Char) : List (List Char) :=
  let parts := splitAt '.' s
  if parts.length > 1 ∧ parts.getLast? = some [] then parts.dropLast else parts

/-- The last part is a number, so nothing but a number is meant. -/
def endsInNumber (s : List Char) : Bool :=
  match (dottedParts s).getLast? with
  | some part => (!part.isEmpty && part.all Char.isDigit) || (partNumber part).isSome
  | none => false

/-- The number that parts spell when each but the last is a byte and the last one fills up the
rest. -/
def combine : (bytes : Nat) → List Nat → Option Nat
  | bytes, [last] => if last < capacity (8 * bytes) then some last else none
  | bytes + 1, n :: rest =>
    if n < 256 then (combine bytes rest).map (n * capacity (8 * bytes) + ·) else none
  | _, _ => none

/-- The dotted number a text spells. -/
def parseV4 (s : List Char) : Option UrlHost := do
  let parts ← (dottedParts s).mapM partNumber
  if parts.length ≤ 4 then (combine 4 parts).map v4 else none

/-! ## Numbers of 128 bits -/

/-- A decimal number below 256 without superfluous zeros. -/
def byteNumber (s : List Char) : Option Nat :=
  if s.isEmpty ∨ (s.length > 1 ∧ s.head? = some '0') ∨ !s.all Char.isDigit then none
  else (number 10 s).bind fun n ↦ if n < 256 then some n else none

/-- The pieces that a part between colons stands for: one, or two when it is a dotted number. -/
def pieceNumbers (last : Bool) (s : List Char) : Option (List Nat) :=
  if last ∧ s.contains '.' then do
    let bytes ← (splitAt '.' s).mapM byteNumber
    match bytes with
    | [a, b, c, d] => some [a * 256 + b, c * 256 + d]
    | _ => none
  else if s.isEmpty ∨ 4 < s.length then none
  else (number 16 s).map ([·])

/-- The pieces that parts stand for; the last of them may be dotted if nothing follows. -/
def pieces (closing : Bool) : List (List Char) → Option (List Nat)
  | [] => some []
  | [part] => pieceNumbers closing part
  | part :: rest => do return (← pieceNumbers false part) ++ (← pieces closing rest)

/-- The text before the first two colons in a row, and the text after them. -/
def breakAtGap : List Char → Option (List Char × List Char)
  | ':' :: ':' :: rest => some ([], rest)
  | c :: rest => (breakAtGap rest).map fun (front, back) ↦ (c :: front, back)
  | [] => none

/-- The parts of one side of the gap. -/
def side (s : List Char) : List (List Char) := if s.isEmpty then [] else splitAt ':' s

/-- The number of 128 bits a text between brackets spells. -/
def parseV6 (s : List Char) : Option UrlHost := do
  match breakAtGap s with
  | none =>
    let all ← pieces true (side s)
    if all.length = 8 then some (v6 all) else none
  | some (front, back) =>
    let front ← pieces false (side front)
    let back ← pieces true (side back)
    if front.length + back.length < 8 then
      some (v6 (front ++ List.replicate (8 - front.length - back.length) 0 ++ back))
    else none

/-! ## Names -/

/-- What no host may contain. -/
def forbidden (c : Char) : Bool := "\x00\t\n\r #/:<>?@[\\]^|".toList.contains c

/-- What no name of the web may contain. -/
def forbiddenInName (c : Char) : Bool := forbidden c || c.toNat ≤ 0x20 || c = '\x7F' || c = '%'

/-- The host that a text in brackets is. -/
def parseBracketed (s : List Char) : Option UrlHost :=
  if s.getLast? = some ']' then parseV6 s.dropLast else none

/-- The host of an address of the web. -/
def parse (s : List Char) : Option UrlHost :=
  match s with
  | '[' :: rest => parseBracketed rest
  | _ =>
    match Domain.ascii? forbiddenInName (Utf8.lossy (Percent.decode s)).toList with
    | none => none
    | some ascii =>
      if ascii.isEmpty then none
      else if endsInNumber ascii then parseV4 ascii
      else some (name (String.ofList ascii))

/-- The host of any other address. -/
def parseOpaque (s : List Char) : Option UrlHost :=
  match s with
  | '[' :: rest => parseBracketed rest
  | _ =>
    if s.any forbidden then none
    else some (name (String.ofList (Percent.encode Percent.control s)))

end UrlHost

end SourceHost
