import SourceHost.Session.Basic

/-!
# Functions: the guest as a process

Printing, waiting, giving up, and sending a piece of a result that is not finished.
-/

set_option autoImplicit false

namespace SourceHost.Session

/-- The guest gives up. -/
def abort (s : Session) : Session := s.print "Aborted"

/-- The guest prints a line.  A place that is out of range holds the empty line; a place that is
none at all holds no line. -/
def printAt (s : Session) (ptr length : Int) : Session :=
  if ptr < 0 ∨ length < 0 then s
  else match s.bytesAt ptr length with
    | .ok data => s.print (Utf8.lossy data)
    | .error _ => s.print ""

/-- The guest waits for some seconds, and nobody may be there to wake it. -/
def sleep (env : Environment) (s : Session) (seconds : Int) : Except HostError Session :=
  if seconds < 0 then .ok s
  else env.runtime.run (.done { s with now := s.now + seconds.toNat })

/-- The guest sends a piece of a result; one that cannot be read is lost. -/
def sendPartial (s : Session) (ptr : Int) : Session :=
  match s.payloadAt ptr with
  | .ok data => s.deliver data
  | .error _ => s

end SourceHost.Session
