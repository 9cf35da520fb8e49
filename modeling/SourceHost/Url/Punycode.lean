import SourceHost.Bytes

/-!
# Punycode

The ASCII form of a label with other characters in it: the ASCII characters first, and behind a
hyphen the others, in ascending order, each as its distance from the one before.  A distance is
written in digits of a mixed radix whose thresholds follow a bias, and the bias adapts to the
distances seen so far.

`encode` writes the ASCII form of a label and `decode?` reads it.
-/

set_option autoImplicit false

namespace SourceHost.Punycode

/-- A digit: letters first, then figures. -/
def digit (n : Nat) : Char := if n < 26 then Char.ofNat (97 + n) else Char.ofNat (22 + n)

/-- The threshold of the digit at weight `k`. -/
def threshold (bias k : Nat) : Nat := min 26 (max 1 (k - bias))

/-- The digits of a distance, the first at weight `k`. -/
def digits (bias : Nat) : (fuel : Nat) → (k q : Nat) → List Char
  | 0, _, _ => []
  | fuel + 1, k, q =>
    let t := threshold bias k
    if q < t then [digit q]
    else digit (t + (q - t) % (36 - t)) :: digits bias fuel (k + 36) ((q - t) / (36 - t))

/-- How often a distance has to be scaled down, and what is left of it. -/
def scale (delta k : Nat) : Nat × Nat :=
  if 455 < delta then scale (delta / 35) (k + 36) else (delta, k)
termination_by delta

/-- The bias after a distance, when `points` characters have been placed. -/
def adapt (delta points : Nat) (first : Bool) : Nat :=
  let delta := if first then delta / 700 else delta / 2
  let (delta, k) := scale (delta + delta / points) 0
  k + 36 * delta / (delta + 38)

/-- What has been written of a label, and where the next distance starts. -/
structure Progress where
  /-- The digits so far, in reverse. -/
  written : List Char
  /-- The distance so far. -/
  delta : Nat
  /-- The bias. -/
  bias : Nat
  /-- How many characters have been placed. -/
  placed : Nat

/-- One character of the label, when the code point to place is `m` and `basic` characters are
ASCII. -/
def visit (basic m : Nat) (p : Progress) (c : Char) : Progress :=
  if c.toNat < m then { p with delta := p.delta + 1 }
  else if c.toNat = m then
    { written := (digits p.bias (p.delta + 1) 36 p.delta).reverse ++ p.written
      delta := 0
      bias := adapt p.delta (p.placed + 1) (p.placed == basic)
      placed := p.placed + 1 }
  else p

/-- The code points of `points`, ascending and none of them below `n`, placed one after the
other. -/
def place (label : List Char) (basic : Nat) : (points : List Nat) → (n : Nat) → Progress → Progress
  | [], _, p => p
  | m :: points, n, p =>
    let p := label.foldl (visit basic m) { p with delta := p.delta + (m - n) * (p.placed + 1) }
    place label basic points (m + 1) { p with delta := p.delta + 1 }

/-- The ASCII form of a label. -/
def encode (label : List Char) : List Char :=
  let basic := label.filter (·.toNat < 128)
  let points := ((label.map Char.toNat).filter (128 ≤ ·)).mergeSort.eraseDups
  let p := place label basic.length points 128 ⟨[], 0, 72, basic.length⟩
  (if basic.isEmpty then [] else basic ++ ['-']) ++ p.written.reverse

/-! ## Reading -/

/-- The value of a digit. -/
def digitValue (c : Char) : Option Nat :=
  if 'a' ≤ c ∧ c ≤ 'z' then some (c.toNat - 97)
  else if c.isDigit then some (c.toNat - 22)
  else none

/-- The sum of `sum` and the distance at the front of digits, the first of which has some weight,
and the digits after it.  Neither the sum nor a weight may reach 32 bits. -/
def distance (bias : Nat) : (k weight sum : Nat) → List Char → Option (Nat × List Char)
  | _, _, _, [] => none
  | k, weight, sum, c :: rest => do
    let d ← digitValue c
    let sum := sum + d * weight
    let t := threshold bias k
    let next := weight * (36 - t)
    if capacity 32 ≤ sum then none
    else if d < t then some (sum, rest)
    else if capacity 32 ≤ next then none
    else distance bias (k + 36) next sum rest

/-- The label that digits stand for, when the characters in `placed` are there already, the last of
them was the code point `n`, and the next one comes at place `i` or later.  Every character takes a
digit at least. -/
def placeAll : (fuel : Nat) → (bias n i : Nat) → (placed : List Char) → (digits : List Char) →
    Option (List Char)
  | _, _, _, _, placed, [] => some placed
  | 0, _, _, _, _, _ => none
  | fuel + 1, bias, n, i, placed, digits => do
    let (sum, rest) ← distance bias 36 1 i digits
    let count := placed.length + 1
    let code := n + sum / count
    let c := Char.ofNat code
    if c.toNat = code then
      placeAll fuel (adapt (sum - i) count (i == 0)) code (sum % count + 1)
        (placed.insertIdx (sum % count) c) rest
    else none

/-- The label with an ASCII form.  What stands before the last hyphen is ASCII; a hyphen at the
front is no digit. -/
def decode? (code : List Char) : Option (List Char) :=
  let digits := (code.reverse.takeWhile (· ≠ '-')).reverse
  let front := code.take (code.length - digits.length)
  match front with
  | ['-'] => none
  | _ =>
    if front.all (·.toNat < 128) then placeAll digits.length 72 128 0 front.dropLast digits
    else none

end SourceHost.Punycode
