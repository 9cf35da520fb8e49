import SourceHost.Http.Uri

/-!
# Requests and responses

What is sent to the web, and what comes back.  Names of headers are kept in lower case, so that
two spellings of a name are one name.  The body of a response comes in frames, and may break off.

`Body.collect` puts the frames together without ever holding more than a given number of bytes.
-/

set_option autoImplicit false

namespace SourceHost

/-- What a request asks for. -/
inductive Method where
  | get
  | post
  | put
  | head
  | delete
deriving DecidableEq, Repr

namespace Method

/-- The method a guest names by a number. -/
def ofSelector : Int → Option Method
  | 0 => some get
  | 1 => some post
  | 2 => some put
  | 3 => some head
  | 4 => some delete
  | _ => none

/-- The word for a method. -/
def name : Method → String
  | get => "GET"
  | post => "POST"
  | put => "PUT"
  | head => "HEAD"
  | delete => "DELETE"

end Method

/-- Headers: names in lower case with values, one name possibly several times. -/
abbrev Headers := List (String × Bytes)

namespace Headers

/-- A character may stand in a name. -/
def inName (c : Char) : Bool := c.isAlphanum || "!#$%&'*+-.^_\x60|~".toList.contains c

/-- The lower case of a name, if it is one. -/
def name? (s : String) : Option String :=
  if s.isEmpty ∨ 65535 < s.length ∨ !s.all inName then none else some (s.map Char.toLower)

/-- A text as a value, if it can be one: no control characters but the tabulator. -/
def value? (s : String) : Option Bytes :=
  if s.all fun c ↦ c = '\t' || (0x20 ≤ c.toNat && c.toNat ≠ 0x7F) then some (Utf8.encode s) else none

/-- The first value under a name, in whatever case it is given. -/
def get? (h : Headers) (s : String) : Option Bytes :=
  (name? s).bind fun n ↦ h.lookup n

/-- The headers with one value under a name. -/
def set (h : Headers) (name : String) (value : Bytes) : Headers :=
  h.filter (·.1 ≠ name) ++ [(name, value)]

end Headers

/-- A request as it is sent. -/
structure HttpRequest where
  /-- What it asks for. -/
  method : Method
  /-- Where it is sent to. -/
  target : Uri
  /-- Its headers. -/
  headers : Headers
  /-- Its body. -/
  body : Option Bytes
deriving DecidableEq

/-- A piece of the body of a response. -/
inductive Frame where
  /-- Some bytes of it. -/
  | data (bytes : Bytes)
  /-- Headers that come late. -/
  | trailers
  /-- It breaks off. -/
  | failure (reason : String)
deriving DecidableEq

/-- A response as it comes in. -/
structure HttpResponse where
  /-- Its status. -/
  status : Nat
  /-- Its headers. -/
  headers : Headers
  /-- The pieces of its body. -/
  frames : List Frame
deriving DecidableEq

namespace Body

/-- What is said when a body is too large. -/
def tooLarge (limit : Nat) : String := s!"response body exceeds {limit} bytes"

/-- The bytes of all frames behind those of `found`, or the reason why there is no body. -/
def collectFrom (limit : Nat) : (found : Bytes) → List Frame → Except String Bytes
  | found, [] => .ok found
  | found, .data bytes :: rest =>
    if limit < found.length + bytes.length then .error (tooLarge limit)
    else collectFrom limit (if found.isEmpty then bytes else found ++ bytes) rest
  | found, .trailers :: rest => collectFrom limit found rest
  | _, .failure reason :: _ => .error reason

/-- The body that frames make up, if it has no more than `limit` bytes. -/
def collect (limit : Nat) (frames : List Frame) : Except String Bytes :=
  collectFrom limit [] frames

end Body

end SourceHost
