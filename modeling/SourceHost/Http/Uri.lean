import SourceHost.Text.Utf8

/-!
# Request targets

The address a request is sent to, as far as it is sent: a scheme, an authority and a path with a
query.  An address is read more strictly here than a `Url` is.  One without an authority is no
target, unless it consists of nothing but an authority; and what comes after a number sign is not
part of it.
-/

set_option autoImplicit false

namespace SourceHost

/-- A request target. -/
structure Uri where
  /-- The scheme; absent when there is only an authority, or only a path. -/
  scheme : Option String
  /-- The authority, which is only empty where there is no scheme. -/
  authority : String
  /-- The path. -/
  path : String
  /-- The query. -/
  query : Option String
deriving DecidableEq, Repr

namespace Uri

/-- No target is longer than this many bytes. -/
def maxLength : Nat := 65534

/-- A scheme is no longer than this, unless it is one of the web. -/
def maxSchemeLength : Nat := 64

/-- The text of a target.  A target with a scheme has a path, be it only a slash. -/
def text (u : Uri) : String :=
  let path := if u.scheme.isSome ∧ u.path.isEmpty then "/" else u.path
  (u.scheme.map (· ++ "://")).getD "" ++ u.authority ++ path ++ (u.query.map ("?" ++ ·)).getD ""

/-- What a scheme is made of. -/
def inScheme (c : Char) : Bool := c.isAlphanum || c = '+' || c = '-' || c = '.'

/-- What an authority is made of, besides the percent sign. -/
def inAuthority (c : Char) : Bool := c.isAlphanum || "!$&'()*+,-.:;=@[]_~".toList.contains c

/-- What a path is made of. -/
def inPath (c : Char) : Bool :=
  let n := c.toNat
  n = 0x21 || n = 0x22 || (0x24 ≤ n && n ≤ 0x3B) || n = 0x3D || (0x40 ≤ n && n ≤ 0x5F)
    || (0x61 ≤ n && n != 0x60)

/-- What a query is made of. -/
def inQuery (c : Char) : Bool :=
  let n := c.toNat
  n = 0x21 || (0x24 ≤ n && n ≤ 0x3B) || n = 0x3D || 0x3F ≤ n

/-- The scheme with the two slashes behind it, and what follows: `none` if the scheme is too
long, and no scheme if there is none. -/
def takeScheme (s : List Char) : Option (Option String × List Char) :=
  let name := s.takeWhile inScheme
  match s.drop name.length with
  | ':' :: '/' :: '/' :: rest =>
    if maxSchemeLength < name.length then none else some (some (String.ofList name), rest)
  | _ => some (none, s)

/-- What has been seen of an authority. -/
structure Seen where
  /-- Colons that may stand before a port. -/
  colons : Nat := 0
  /-- A bracket has been opened. -/
  opened : Bool := false
  /-- It has been closed. -/
  closed : Bool := false
  /-- There is a percent sign that may be in the host. -/
  percent : Bool := false

/-- One character of an authority.  What has been counted before an at sign was not in the host,
and what has been counted before a closing bracket was inside it. -/
def Seen.next (seen : Seen) (c : Char) : Option Seen :=
  if c = ':' then if 8 ≤ seen.colons then none else some { seen with colons := seen.colons + 1 }
  else if c = '[' then
    if seen.percent ∨ seen.opened then none else some { seen with opened := true }
  else if c = ']' then
    if !seen.opened ∨ seen.closed then none
    else some { seen with closed := true, colons := 0, percent := false }
  else if c = '@' then some { seen with colons := 0, percent := false }
  else if c = '%' then some { seen with percent := true }
  else if inAuthority c then some seen
  else none

/-- A text can be an authority. -/
def isAuthority (s : List Char) : Bool :=
  match s.foldlM Seen.next {} with
  | none => false
  | some seen =>
    seen.opened = seen.closed && seen.colons ≤ 1 && s.getLast? ≠ some '@' && !seen.percent

/-- The target with the given scheme and authority whose path and query a text spells. -/
def withPath (scheme : Option String) (authority : String) (s : List Char) : Option Uri :=
  let s := s.takeWhile (· ≠ '#')
  let path := s.takeWhile (· ≠ '?')
  let query := s.drop path.length
  if path.all inPath ∧ (query.drop 1).all inQuery then
    some
      { scheme, authority, path := String.ofList path
        query := if query.isEmpty then none else some (String.ofList (query.drop 1)) }
  else none

/-- The target that a text spells. -/
def parse? (t : String) : Option Uri :=
  let s := t.toList
  if maxLength < t.utf8ByteSize ∨ s.isEmpty then none
  else if s.head? = some '/' then withPath none "" s
  else do
    let (scheme, rest) ← takeScheme s
    let authority := rest.takeWhile fun c ↦ c ≠ '/' ∧ c ≠ '?' ∧ c ≠ '#'
    let place := rest.drop authority.length
    if !isAuthority authority then none
    else if scheme.isNone then
      if place.isEmpty then withPath none (String.ofList authority) [] else none
    else if authority.isEmpty then none
    else withPath scheme (String.ofList authority) place

end Uri

end SourceHost
