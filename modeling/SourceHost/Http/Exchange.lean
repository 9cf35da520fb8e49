import SourceHost.Http.Basic
import SourceHost.Url.Basic

/-!
# Exchanges with the web

A guest builds a request up piece by piece, has it sent, and reads the response through the same
handle.  What comes of sending it takes the place of what came of it the time before.

`Web` is the outside world: what becomes of every request that is dispatched.
-/

set_option autoImplicit false

namespace SourceHost

/-- A response that has been received as a whole. -/
structure Response where
  /-- Its status. -/
  status : Nat
  /-- Its headers. -/
  headers : Headers
  /-- Where it came from in the end. -/
  url : Url
  /-- Its body. -/
  body : Bytes
deriving DecidableEq

/-- A request under construction, and what became of it. -/
structure Request where
  /-- What it asks for. -/
  method : Method
  /-- Where it is to be sent. -/
  url : Option Url := none
  /-- Its headers. -/
  headers : Headers := []
  /-- Its body. -/
  body : Option Bytes := none
  /-- The response, if it was answered when it was last sent. -/
  response? : Option Response := none
  /-- Why it was not, if it was sent. -/
  failure? : Option String := none
deriving DecidableEq

namespace Request

/-- The request as it is sent, if it has an address and the address is a target. -/
def toHttp (r : Request) : Option HttpRequest := do
  let url ← r.url
  let target ← Uri.parse? url.text
  some { method := r.method, target, headers := r.headers, body := r.body }

/-- The request when something has become of it. -/
def complete (r : Request) : Except String Response → Request
  | .ok response => { r with response? := some response, failure? := none }
  | .error reason => { r with response? := none, failure? := some reason }

end Request

/-- What the web does with a request. -/
inductive Answer where
  /-- It is not served. -/
  | refusal (reason : String)
  /-- Serving it breaks down. -/
  | crash
  /-- It is answered after some seconds, from the place it has been led to if it has been led
  elsewhere. -/
  | response (delay : Nat) (response : HttpResponse) (finalUrl : Option Url)
deriving DecidableEq

/-- The world outside: what becomes of a request that is dispatched when so many have been before.
One request may be answered in another way each time. -/
abbrev Web := (sent : Nat) → HttpRequest → Answer

end SourceHost
