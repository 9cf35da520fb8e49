import SourceHost.Arena.Basic
import SourceHost.Catalog.Home
import SourceHost.Date.Zone
import SourceHost.Guest.Basic
import SourceHost.Mailbox
import SourceHost.Memory.Frame
import SourceHost.RateLimit
import SourceHost.Runtime
import SourceHost.Settings
import SourceHost.Source.Config

/-!
# Sessions

While a source is loaded its guest and the host share a session: the memory of the guest, what the
host keeps for it, and what has happened.  What is decided before and does not change any more is
the environment.
-/

set_option autoImplicit false

namespace SourceHost

/-- A function that is added from outside and only prints a line.  It takes the place of a
function of the host with its name. -/
structure Capability where
  /-- The name under which a guest finds it. -/
  name : String
  /-- The line it prints when it is called. -/
  line : List Int → String

/-- What does not change while a source is loaded. -/
structure Environment where
  /-- What has been decided about the source. -/
  config : SourceConfig
  /-- The world outside. -/
  web : Web
  /-- The time zones that have a name. -/
  zones : ZoneBook
  /-- Who does work for the guest. -/
  runtime : Runtime := .running
  /-- The functions that are added. -/
  capabilities : List Capability := []

/-- What a home screen that is being put together has come to. -/
structure HomeProgress where
  /-- What there is of it. -/
  home : Option Home := none
  /-- Why the first piece that could not be read could not be. -/
  failure : Option WireError := none
deriving DecidableEq

/-- What has been made of the pieces sent during a call. -/
inductive Streamed where
  /-- An entry with the latest news. -/
  | manga (latest : Manga)
  /-- A home screen. -/
  | home (progress : HomeProgress)
deriving DecidableEq

/-- What a function of the host returns. -/
inductive HostValue where
  /-- Nothing. -/
  | unit
  /-- A number of 32 bits. -/
  | word (value : Int)
  /-- A number of 64 bits. -/
  | long (value : Int)
  /-- A floating-point number, given in thousandths. -/
  | thousandths (value : Int)
  /-- The time of day. -/
  | clock
deriving DecidableEq, Repr

/-- Something that a guest has shown. -/
inductive Event where
  /-- A call has begun. -/
  | enter (name : String) (parameters : List Int)
  /-- A part of the memory. -/
  | read (data : Bytes)
  /-- What a function of the host returned. -/
  | called (name : String) (value : HostValue)
  /-- What is under a handle. -/
  | resource (resource : Option Resource)
  /-- All that is kept. -/
  | arena (entries : List (Handle × Resource))
  /-- What has been published. -/
  | updates (manga : Option Manga) (home : Option Home)
  /-- What came of asking for more memory. -/
  | memoryGrew (before : Int)
  /-- What came of asking for a larger table. -/
  | tableGrew (before : Int)
deriving DecidableEq

/-- What a guest and the host share. -/
structure Session where
  /-- The memory of the guest. -/
  memory : Memory
  /-- How many pages it may have by its own account. -/
  maxPages : Nat := Memory.pageLimit
  /-- How many elements the table of the guest has. -/
  table : Nat := 0
  /-- How many elements it may have by its own account. -/
  maxElements : Option Nat := none
  /-- What is kept for the guest. -/
  arena : Arena := {}
  /-- Who wants to see what the guest sends. -/
  mailbox : Mailbox Bytes Streamed := {}
  /-- How often the guest may send requests. -/
  window : Window := {}
  /-- The settings of all sources. -/
  settings : Settings := ∅
  /-- The entry last published. -/
  mangaUpdate : Option Manga := none
  /-- The home screen last published. -/
  homeUpdate : Option Home := none
  /-- The seconds that have passed. -/
  now : Nat := 0
  /-- How many requests have been dispatched. -/
  dispatched : Nat := 0
  /-- What the guest has shown. -/
  events : List Event := []
  /-- The results that have been given back. -/
  freed : List Int := []
  /-- The lines that have been printed. -/
  printed : List String := []
  /-- The requests that have been sent, and when. -/
  requests : List (Nat × HttpRequest) := []

namespace Session

/-- The session at the start. -/
def initial (guest : Guest) (settings : Settings) : Session where
  memory := guest.initialMemory
  maxPages := (guest.memory.bind (·.maximum)).getD Memory.pageLimit
  table := guest.table.initial
  maxElements := guest.table.maximum
  settings := settings

/-- The session without the account of what has happened. -/
def settled (s : Session) : Session :=
  { s with events := [], freed := [], printed := [], requests := [] }

/-- The session after something has been shown. -/
def log (s : Session) (e : Event) : Session := { s with events := s.events ++ [e] }

/-- The session after a line has been printed. -/
def print (s : Session) (line : String) : Session := { s with printed := s.printed ++ [line] }

/-- The session after what a run of a handler has made has been published. -/
def publish (s : Session) (r : Mailbox.Run Streamed) : Session :=
  match r.made with
  | some (.manga latest) => { s with mangaUpdate := some latest }
  | some (.home progress) => { s with homeUpdate := progress.home <|> s.homeUpdate }
  | none => s

/-- The session after the guest has sent a piece of a result. -/
def deliver (s : Session) (data : Bytes) : Session :=
  let (runs, mailbox) := s.mailbox.deliver data
  runs.foldl publish { s with mailbox }

/-! ## What a guest points at -/

/-- The bytes at a place a guest names. -/
def bytesAt (s : Session) (ptr length : Int) : Except HostError Bytes := do
  let offset ← Memory.offset ptr
  let length ← Memory.offset length
  s.memory.read offset length

/-- The text at a place a guest names. -/
def textAt (s : Session) (ptr length : Int) : Except HostError String := do
  let offset ← Memory.offset ptr
  let length ← Memory.offset length
  s.memory.readText offset length

/-- The payload of the frame at a place a guest names. -/
def payloadAt (s : Session) (ptr : Int) : Except HostError Bytes := do
  let offset ← Memory.offset ptr
  s.memory.readFramed offset

/-- The session after bytes have been written at a place a guest names. -/
def writeAt (s : Session) (ptr : Int) (data : Bytes) : Except HostError Session := do
  let offset ← Memory.offset ptr
  let memory ← s.memory.write offset data
  return { s with memory }

end Session

end SourceHost
