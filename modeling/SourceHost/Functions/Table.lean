import SourceHost.Functions.Net
import SourceHost.Functions.Process
import SourceHost.Functions.Settings

/-!
# The functions of the host

All functions a guest can call, by name.  A function may end the call of the guest instead of
returning.
-/

set_option autoImplicit false

namespace SourceHost

/-- The functions of the host. -/
inductive HostFunction where
  | abort
  | print
  | sleep
  | sendPartial
  | destroy
  | bufferLength
  | readBuffer
  | currentDate
  | utcOffset
  | parseDate
  | getSetting
  | setSetting
  | initRequest
  | send
  | sendAll
  | setUrl
  | setHeader
  | setBody
  | dataLength
  | readData
  | getImage
  | getStatusCode
  | getHeader
  | html
  | setRateLimit
deriving DecidableEq, Repr

namespace HostFunction

/-- All functions with their names. -/
def table : List (String × HostFunction) :=
  [("env.abort", abort), ("env.print", print), ("env.sleep", sleep),
    ("env.send_partial_result", sendPartial), ("std.destroy", destroy),
    ("std.buffer_len", bufferLength), ("std.read_buffer", readBuffer),
    ("std.current_date", currentDate), ("std.utc_offset", utcOffset),
    ("std.parse_date", parseDate), ("defaults.get", getSetting), ("defaults.set", setSetting),
    ("net.init", initRequest), ("net.send", send), ("net.send_all", sendAll),
    ("net.set_url", setUrl), ("net.set_header", setHeader), ("net.set_body", setBody),
    ("net.data_len", dataLength), ("net.read_data", readData), ("net.get_image", getImage),
    ("net.get_status_code", getStatusCode), ("net.get_header", getHeader), ("net.html", html),
    ("net.set_rate_limit", setRateLimit)]

/-- The function with a name. -/
def ofName? (name : String) : Option HostFunction := table.lookup name

/-- What a function returns for some arguments, unless it ends the call, and the session after
it. -/
def run (env : Environment) (f : HostFunction) (arguments : List Int) (s : Session) :
    Option HostValue × Session :=
  let arg (i : Nat) : Int := arguments.getD i 0
  let word (r : Int × Session) : Option HostValue × Session := (some (.word r.1), r.2)
  match f with
  | abort => (none, s.abort)
  | print => (some .unit, s.printAt (arg 0) (arg 1))
  | sleep => match s.sleep env (arg 0) with
    | .ok s => (some .unit, s)
    | .error _ => (none, s)
  | sendPartial => (some .unit, s.sendPartial (arg 0))
  | destroy => (some .unit, s.destroy (arg 0))
  | bufferLength => (some (.word (s.bufferLength (arg 0))), s)
  | readBuffer => word (s.readBuffer (arg 0) (arg 1) (arg 2))
  | currentDate => (some .clock, s)
  | utcOffset => (some (.long 0), s)
  | parseDate =>
    (some (.thousandths (s.parseDate env (arg 0) (arg 1) (arg 2) (arg 3) (arg 6) (arg 7))), s)
  | getSetting => word (s.getSetting env (arg 0) (arg 1))
  | setSetting => word (s.setSetting env (arg 0) (arg 1) (arg 2) (arg 3))
  | initRequest => word (s.initRequest (arg 0))
  | send => word (s.send env (arg 0))
  | sendAll => word (s.sendAll env (arg 0) (arg 1))
  | setUrl => word (s.setUrl (arg 0) (arg 1) (arg 2))
  | setHeader => word (s.setHeader (arg 0) (arg 1) (arg 2) (arg 3) (arg 4))
  | setBody => word (s.setBody (arg 0) (arg 1) (arg 2))
  | dataLength => (some (.word (s.dataLength (arg 0))), s)
  | readData => word (s.readData (arg 0) (arg 1) (arg 2))
  | getImage => word (s.getImage (arg 0))
  | getStatusCode => (some (.word (s.getStatusCode (arg 0))), s)
  | getHeader => word (s.getHeader (arg 0) (arg 1) (arg 2))
  | html => word (s.html (arg 0))
  | setRateLimit => (some .unit, s.setRateLimit (arg 0) (arg 1) (arg 2))

end HostFunction

namespace Environment

/-- There is a function with a name. -/
def provides (env : Environment) (name : String) : Bool :=
  env.capabilities.any (·.name = name) || (HostFunction.ofName? name).isSome

/-- The function with a name is called; one that has been added comes first, and one that nobody
provides ends the call. -/
def callFunction (env : Environment) (name : String) (arguments : List Int) (s : Session) :
    Option HostValue × Session :=
  match env.capabilities.find? (·.name = name) with
  | some capability => (some .unit, s.print (capability.line arguments))
  | none => match HostFunction.ofName? name with
    | some f => f.run env arguments s
    | none => (none, s)

end Environment

end SourceHost
