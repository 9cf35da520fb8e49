import SourceHost.Url.Host

/-!
# Addresses

An address consists of a scheme and what the scheme leads to: for most schemes an authority with
a path below it, for some only a text.  `Url.parse?` reads an absolute address, in all the ways in
which one can be written, and `Url.text` writes it in one way, so that equal addresses are equal
texts.

The schemes of the web and of files are *special*: there the host has a meaning, the path is never
empty, and a backslash is as good as a slash.
-/

set_option autoImplicit false

namespace SourceHost

/-- Where an address leads inside its scheme: whose place it is. -/
structure UrlAuthority where
  /-- The name of the caller, encoded. -/
  username : String := ""
  /-- The password of the caller, encoded. -/
  password : String := ""
  /-- The host; absent for files of this machine. -/
  host : Option UrlHost
  /-- The port, if it is not the usual one. -/
  port : Option Nat := none
deriving DecidableEq, Repr

/-- What comes after the authority. -/
inductive UrlPath where
  /-- A text without structure, encoded. -/
  | plain (text : String)
  /-- Segments, each encoded, each with a slash before it. -/
  | segments (segments : List String)
deriving DecidableEq, Repr

/-- An absolute address. -/
structure Url where
  /-- The scheme, in lower case. -/
  scheme : String
  /-- Whose place it is. -/
  authority : Option UrlAuthority
  /-- What comes after that. -/
  path : UrlPath
  /-- What comes after a question mark, encoded. -/
  query : Option String := none
  /-- What comes after a number sign, encoded. -/
  fragment : Option String := none
deriving DecidableEq, Repr

namespace Url

/-! ## Text -/

/-- The text of an authority, with the slashes before it. -/
def authorityText (a : UrlAuthority) : String :=
  let caller :=
    if a.username.isEmpty ∧ a.password.isEmpty then ""
    else if a.password.isEmpty then a.username ++ "@"
    else a.username ++ ":" ++ a.password ++ "@"
  let port := match a.port with
    | some port => ":" ++ toString port
    | none => ""
  "//" ++ caller ++ (a.host.map UrlHost.text).getD "" ++ port

/-- The text of a path. -/
def pathText : UrlPath → String
  | .plain text => text
  | .segments segments => String.join (segments.map ("/" ++ ·))

/-- The text of an address.  A path that begins with two slashes could be taken for an authority,
and is kept apart where there is none. -/
def text (u : Url) : String :=
  let path := pathText u.path
  let place := match u.authority with
    | some a => authorityText a
    | none => if "//".isPrefixOf path then "/." else ""
  let query := (u.query.map ("?" ++ ·)).getD ""
  let fragment := (u.fragment.map ("#" ++ ·)).getD ""
  u.scheme ++ ":" ++ place ++ path ++ query ++ fragment

/-! ## Schemes -/

/-- The usual port of a scheme of the web. -/
def usualPort (scheme : String) : Option Nat :=
  [("http", 80), ("https", 443), ("ws", 80), ("wss", 443), ("ftp", 21)].lookup scheme

/-- The scheme is one of the web or of files. -/
def isSpecial (scheme : String) : Bool := (usualPort scheme).isSome || scheme = "file"

/-- The scheme at the front of an address, before a colon. -/
def takeScheme (s : List Char) : Option String :=
  let name := s.takeWhile fun c ↦ c.isAlphanum || c = '+' || c = '-' || c = '.'
  match name, s.drop name.length with
  | c :: _, ':' :: _ => if c.isAlpha then some (String.ofList (name.map Char.toLower)) else none
  | _, _ => none

/-! ## Path -/

/-- A line break or a tabulator.  They do not count in an address. -/
def isBreak (c : Char) : Bool := c = '\t' || c = '\n' || c = '\r'

/-- The characters that count. -/
def withoutBreaks (s : List Char) : List Char := s.filter (!isBreak ·)

/-- A character ends a segment. -/
def isSlash (special : Bool) (c : Char) : Bool := c = '/' || (special && c = '\\')

/-- A segment that stands for the place itself. -/
def isSingleDot (s : List Char) : Bool :=
  [".", "%2e"].contains (String.ofList (s.map Char.toLower))

/-- A segment that stands for the place above. -/
def isDoubleDot (s : List Char) : Bool :=
  ["..", ".%2e", "%2e.", "%2e%2e"].contains (String.ofList (s.map Char.toLower))

/-- A letter and a sign: the name of a drive. -/
def isDrive : List Char → Bool
  | [c, d] => c.isAlpha && (d = ':' || d = '|')
  | _ => false

/-- A drive at the front of a segment, and more after it, when a break keeps them apart. -/
def breakDrive? (s : List Char) : Option (List Char × List Char) :=
  match s.dropWhile isBreak with
  | [] => none
  | c :: rest => match rest.dropWhile isBreak with
    | ':' :: rest =>
      let more := withoutBreaks rest
      if c.isAlpha ∧ rest.head?.any isBreak ∧ !more.isEmpty then some ([c, ':'], more) else none
    | _ => none

/-- The segments without the last one; a drive is not left. -/
def shorten (segments : Array (List Char)) : Array (List Char) :=
  if segments.back?.any isDrive then segments else segments.pop

/-- A place that segments lead to. -/
structure Place where
  /-- The segments of the way to it. -/
  segments : Array (List Char) := #[]
  /-- The way begins with a drive. -/
  onDrive : Bool := false

/-- The place that a segment leads to from another place.  Among files the first segment can be a
drive, which is then written in one way. -/
def Place.step (isFile : Bool) (p : Place) (raw : List Char) (last : Bool) : Place :=
  let segment := Percent.encode Percent.path (withoutBreaks raw)
  let close (segments : Array (List Char)) : Place :=
    { p with segments := if last then segments.push [] else segments }
  if isDoubleDot segment then close (shorten p.segments)
  else if isSingleDot segment then close p.segments
  else if isFile ∧ p.segments.isEmpty then
    match breakDrive? raw with
    | some (drive, more) => { p with segments := #[drive, Percent.encode Percent.path more] }
    | none =>
      if isDrive segment then { segments := #[segment.take 1 ++ [':']], onDrive := true }
      else { p with segments := #[segment] }
  else { p with segments := p.segments.push segment }

/-- The place that segments lead to from another place. -/
def Place.follow (isFile : Bool) : Place → List (List Char) → Place
  | p, [] => p
  | p, raw :: rest => Place.follow isFile (p.step isFile raw rest.isEmpty) rest

/-- The place that a path leads to, written without its first slash. -/
def Place.ofSegments (scheme : String) (s : List Char) : Place :=
  let s := if isSpecial scheme then s.map fun c ↦ if c = '\\' then '/' else c else s
  Place.follow (scheme = "file") {} (splitAt '/' s)

/-- The place that a path after an authority leads to. -/
def Place.ofPath (scheme : String) (s : List Char) : Place :=
  match s.dropWhile isBreak with
  | [] => { segments := if isSpecial scheme then #[[]] else #[] }
  | c :: rest => Place.ofSegments scheme (if isSlash (isSpecial scheme) c then rest else s)

/-- The path to a place.  Among files it does not begin with empty segments. -/
def Place.path (scheme : String) (p : Place) : UrlPath :=
  let segments :=
    if scheme = "file" then
      let rest := p.segments.toList.dropWhile List.isEmpty
      if rest.isEmpty then [[]] else rest
    else p.segments.toList
  .segments (segments.map String.ofList)

/-! ## Authority -/

/-- The name and password before an at sign. -/
def parseCaller (s : List Char) : String × String :=
  let name := s.takeWhile (· ≠ ':')
  let password := (s.drop name.length).drop 1
  (String.ofList (Percent.encode Percent.userInfo name),
    String.ofList (Percent.encode Percent.userInfo password))

/-- What stands before the last at sign, if there is one, and what stands after it. -/
def breakAtLast (s : List Char) : Option (List Char) × List Char :=
  let back := (s.reverse.takeWhile (· ≠ '@')).reverse
  if back.length < s.length then (some (s.take (s.length - back.length - 1)), back)
  else (none, s)

/-- The host and what follows it: a colon inside brackets does not end it. -/
def breakHost (bracketed : Bool) : List Char → List Char × List Char
  | [] => ([], [])
  | c :: rest =>
    if c = ':' ∧ !bracketed then ([], c :: rest)
    else
      let (front, back) := breakHost (if c = '[' then true else if c = ']' then false else bracketed)
        rest
      (c :: front, back)

/-- The port that a text after a host gives, if it is not the usual one. -/
def parsePort (scheme : String) : List Char → Option (Option Nat)
  | ':' :: digits =>
    if !digits.all Char.isDigit then none
    else if digits.isEmpty then some none
    else
      let port := digits.foldl (fun n c ↦ n * 10 + (c.toNat - 48)) 0
      if 65535 < port then none
      else some (if usualPort scheme = some port then none else some port)
  | _ => some none

/-- The authority that a text spells.  An at sign at its front counts for nothing, but when the
address goes on after it (`more`) there has to be a host in between. -/
def parseAuthority (scheme : String) (more : Bool) (s : List Char) : Option UrlAuthority := do
  let (caller, place) := breakAtLast s
  if more ∧ caller = some [] ∧ place.isEmpty then none
  let (username, password) := parseCaller (caller.getD [])
  let (hostText, portText) := breakHost false place
  if hostText.isEmpty then
    if isSpecial scheme ∨ !portText.isEmpty ∨ !username.isEmpty ∨ !password.isEmpty then none
    else some { host := none }
  else
    let host ← if isSpecial scheme then UrlHost.parse hostText else UrlHost.parseOpaque hostText
    let port ← parsePort scheme portText
    some { username, password, host, port }

/-! ## Address -/

/-- Everything between the scheme and the query of an address of the web: slashes before the
authority do not count. -/
def parseWeb (scheme : String) (s : List Char) : Option (Option UrlAuthority × UrlPath) := do
  let s := s.dropWhile (isSlash true)
  let place := s.takeWhile (!isSlash true ·)
  let authority ← parseAuthority scheme true place
  some (some authority, (Place.ofPath scheme (s.drop place.length)).path scheme)

/-- What follows a slash at the front. -/
def afterSlash? (s : List Char) : Option (List Char) :=
  match s.dropWhile isBreak with
  | c :: rest => if isSlash true c then some rest else none
  | [] => none

/-- Everything between the scheme and the query of an address of a file, with the breaks in it.  A
place on a drive has no host.  Where a host could have been given and is not, a slash after it
ends an empty segment. -/
def parseFile (s : List Char) : Option (Option UrlAuthority × UrlPath) := do
  match (afterSlash? s).bind afterSlash? with
  | none => some (some { host := none }, (Place.ofPath "file" s).path "file")
  | some rest =>
    let raw := rest.takeWhile (!isSlash true ·)
    let name := withoutBreaks raw
    if isDrive name then some (some { host := none }, (Place.ofSegments "file" rest).path "file")
    else
      let host ← if name.isEmpty then some none else (UrlHost.parse name).map some
      let rest := rest.drop raw.length
      if host = none ∨ host = some (.name "localhost") then
        some (some { host := none }, (Place.ofSegments "file" rest).path "file")
      else
        let place := Place.ofPath "file" rest
        some (some { host := if place.onDrive then none else host }, place.path "file")

/-- What stands before the path, in a text without slashes: a backslash after a port begins the
path. -/
def beforePath (s : List Char) : List Char :=
  let after := (breakHost false (breakAtLast s).2).2.dropWhile (· ≠ '\\')
  s.take (s.length - after.length)

/-- Everything between any other scheme and the query, which may follow (`more`). -/
def parsePlain (scheme : String) (more : Bool) (s : List Char) :
    Option (Option UrlAuthority × UrlPath) :=
  match s with
  | '/' :: '/' :: rest => do
    let place := beforePath (rest.takeWhile (!isSlash false ·))
    let path := rest.drop place.length
    let authority ← parseAuthority scheme (more || !path.isEmpty) place
    some (some authority, (Place.ofPath scheme path).path scheme)
  | '/' :: rest => some (none, (Place.ofSegments scheme rest).path scheme)
  | _ => some (none, .plain (String.ofList (Percent.encode Percent.control s)))

/-- The text without the blanks and control characters around it. -/
def trimmed (s : List Char) : List Char :=
  let blank (c : Char) : Bool := c.toNat ≤ 0x20
  ((s.dropWhile blank).reverse.dropWhile blank).reverse

/-- What stands before the first character of a kind, and what stands after it, if there is
one. -/
def breakAt (c : Char) (s : List Char) : List Char × Option (List Char) :=
  let front := s.takeWhile (· ≠ c)
  (front, if front.length < s.length then some (s.drop (front.length + 1)) else none)

/-- The absolute address that a text spells. -/
def parse? (s : String) : Option Url := do
  let s := trimmed s.toList
  let scheme ← takeScheme (withoutBreaks s)
  let rest := (s.dropWhile (· ≠ ':')).drop 1
  let (rest, fragment) := breakAt '#' rest
  let (rest, query) := breakAt '?' rest
  let (authority, path) ←
    if scheme = "file" then parseFile rest
    else if isSpecial scheme then parseWeb scheme (withoutBreaks rest)
    else parsePlain scheme (query.isSome || fragment.isSome) (withoutBreaks rest)
  let encode (set : Char → Bool) (s : List Char) : String :=
    String.ofList (Percent.encode set (withoutBreaks s))
  some
    { scheme, authority, path
      query := query.map (encode (if isSpecial scheme then Percent.specialQuery else Percent.query))
      fragment := fragment.map (encode Percent.fragment) }

end Url

end SourceHost
