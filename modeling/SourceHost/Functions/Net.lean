import SourceHost.Functions.Buffer

/-!
# Functions: the web

A guest builds a request up under a handle, has it sent, alone or with others, and reads the
response through the same handle.

Sending waits until the rate limit admits the request.  The requests of a batch wait together: in
every round each of them tries in the order of the batch, and those that are refused try again
when the window ends.  If serving one of them breaks down the whole batch is lost, and those that
come after it in the same round are not even tried.
-/

set_option autoImplicit false

namespace SourceHost

/-- What becomes of what a guest asks for. -/
inductive NetStatus where
  | success
  | invalidDescriptor
  | invalidString
  | invalidMethod
  | invalidUrl
  | invalidBufferSize
  | missingData
  | missingResponse
  | missingUrl
  | requestError
  | failedMemoryWrite
  | notAnImage
deriving DecidableEq, Repr

/-- The number for it. -/
def NetStatus.code : NetStatus → Int
  | success => 0
  | invalidDescriptor => -1
  | invalidString => -2
  | invalidMethod => -3
  | invalidUrl => -4
  | invalidBufferSize => -6
  | missingData => -7
  | missingResponse => -8
  | missingUrl => -9
  | requestError => -10
  | failedMemoryWrite => -11
  | notAnImage => -12

/-- What a guest is told of what became of a request. -/
def NetStatus.ofOutcome : Except String Response → NetStatus
  | .ok _ => success
  | .error _ => requestError

namespace Session

/-! ## Building a request -/

/-- A resource is kept, and its handle returned. -/
def keep (s : Session) (r : Resource) : Int × Session :=
  let (h, arena) := s.arena.store r
  (h, { s with arena })

/-- A request is begun. -/
def initRequest (s : Session) (method : Int) : Int × Session :=
  match Method.ofSelector method with
  | some method => s.keep (.request { method })
  | none => (NetStatus.invalidMethod.code, s)

/-- A request is changed, if there is one and the change is possible. -/
def changeRequest (s : Session) (h : Handle) (change : Request → Except NetStatus Request) :
    Int × Session :=
  match s.arena.request h with
  | .error _ => (NetStatus.invalidDescriptor.code, s)
  | .ok request => match change request with
    | .ok request =>
      (NetStatus.success.code, { s with arena := s.arena.replace h (.request request) })
    | .error status => (status.code, s)

/-- A request is given an address. -/
def setUrl (s : Session) (h : Handle) (ptr length : Int) : Int × Session :=
  s.changeRequest h fun request ↦
    match s.optionalTextAt ptr length with
    | none => .error .invalidString
    | some text => match Url.parse? text with
      | some url => .ok { request with url := some url }
      | none => .error .invalidUrl

/-- A request is given a header, instead of those with its name. -/
def setHeader (s : Session) (h : Handle) (namePtr nameLength valuePtr valueLength : Int) :
    Int × Session :=
  s.changeRequest h fun request ↦
    let name := (s.textAt namePtr nameLength).toOption.bind Headers.name?
    let value := (s.textAt valuePtr valueLength).toOption.bind Headers.value?
    match name, value with
    | some name, some value => .ok { request with headers := Headers.set request.headers name value }
    | _, _ => .error .invalidString

/-- A request is given a body. -/
def setBody (s : Session) (h : Handle) (ptr length : Int) : Int × Session :=
  s.changeRequest h fun request ↦
    match s.bytesAt ptr length with
    | .ok data => .ok { request with body := some data }
    | .error _ => .error .invalidString

/-! ## Sending -/

/-- The request under a handle as it is sent, with its address. -/
def prepare (a : Arena) (h : Handle) : Except NetStatus (HttpRequest × Url) :=
  match a.request h with
  | .error _ => .error .invalidDescriptor
  | .ok request => match request.url with
    | none => .error .missingUrl
    | some url => match request.toHttp with
      | none => .error .invalidUrl
      | some http => .ok (http, url)

/-- A response is received as a whole.  Unless it has been led elsewhere it comes from the address
of the request. -/
def receive (env : Environment) (url : Url) (response : HttpResponse) (finalUrl : Option Url) :
    Except String Response := do
  let body ← Body.collect env.config.maxResponseBytes response.frames
  return { status := response.status, headers := response.headers, url := finalUrl.getD url, body }

/-- What became of a request is written down at the request under a handle. -/
def record (a : Arena) (h : Handle) (outcome : Except String Response) : NetStatus × Arena :=
  match a.request h with
  | .error _ => (.invalidDescriptor, a)
  | .ok request => (.ofOutcome outcome, a.replace h (.request (request.complete outcome)))

/-- A request is sent as soon as it is admitted: what becomes of it. -/
def dispatch (env : Environment) (s : Session) (http : HttpRequest) (url : Url) :
    Work (Except String Response) × Session :=
  let (now, window) := s.window.acquire s.now
  let answer := env.web s.dispatched http
  let s := { s with
    window, now, dispatched := s.dispatched + 1, requests := s.requests ++ [(now, http)] }
  match answer with
  | .refusal reason => (.done (.error reason), s)
  | .crash => (.panic, s)
  | .response delay response finalUrl =>
    (.done (receive env url response finalUrl), { s with now := now + delay })

/-- Why there is no response when the work of getting it could not be done. -/
def workFailure (e : HostError) : String := e.message?.getD Work.panicMessage

/-- The request under a handle is sent. -/
def send (env : Environment) (s : Session) (h : Handle) : Int × Session :=
  match prepare s.arena h with
  | .error status => (status.code, s)
  | .ok (http, url) =>
    let (outcome, s) : Except String Response × Session := match env.runtime with
      | .gone => (.error (workFailure .runtimeGone), s)
      | .running => match s.dispatch env http url with
        | (.done outcome, s) => (outcome, s)
        | (.panic, s) => (.error (workFailure .workerLost), s)
    let (status, arena) := record s.arena h outcome
    (status.code, { s with arena })

/-! ## Sending a batch -/

/-- A request of a batch: its place in the batch, and what is sent. -/
structure Dispatch where
  /-- Its place. -/
  index : Nat
  /-- What is sent. -/
  http : HttpRequest
  /-- Its address. -/
  url : Url

/-- What has come of a batch. -/
structure Batch where
  /-- The window of the rate limit. -/
  window : Window
  /-- How many requests have been dispatched, before the batch and in it. -/
  dispatched : Nat
  /-- The requests that have been sent, and when. -/
  requests : List (Nat × HttpRequest) := []
  /-- What became of them, by their places. -/
  outcomes : List (Nat × Except String Response) := []
  /-- When the last response has come. -/
  finish : Nat

/-- What has come of a round. -/
inductive Round where
  /-- Some have to try again, all at the same moment. -/
  | done (batch : Batch) (waiting : List Dispatch) (wake : Option Nat)
  /-- One of them broke down. -/
  | crashed (batch : Batch)

/-- The batch after a request has been admitted at a moment and has been answered, unless serving
it breaks down. -/
def Batch.serve (env : Environment) (b : Batch) (window : Window) (now : Nat) (d : Dispatch) :
    Bool × Batch :=
  let answer := env.web b.dispatched d.http
  let b := { b with
    window, dispatched := b.dispatched + 1, requests := b.requests ++ [(now, d.http)] }
  match answer with
  | .crash => (false, b)
  | .refusal reason =>
    (true, { b with outcomes := b.outcomes ++ [(d.index, .error reason)], finish := max b.finish now })
  | .response delay response finalUrl =>
    (true,
      { b with
        outcomes := b.outcomes ++ [(d.index, receive env d.url response finalUrl)]
        finish := max b.finish (now + delay) })

/-- Requests try in turn at a moment. -/
def Batch.round (env : Environment) (now : Nat) : Batch → List Dispatch → Round
  | b, [] => .done b [] none
  | b, d :: rest =>
    match b.window.tryAdmit now with
    | .error wake => match Batch.round env now b rest with
      | .done b waiting _ => .done b (d :: waiting) (some wake)
      | .crashed b => .crashed b
    | .ok window => match b.serve env window now d with
      | (true, b) => Batch.round env now b rest
      | (false, b) => .crashed b

/-- Round after round, beginning at a moment: the moment of the last one, the batch then, and
whether it came to its end. -/
def Batch.run (env : Environment) : (rounds : Nat) → (now : Nat) → Batch → List Dispatch →
    Bool × Nat × Batch
  | 0, now, b, _ => (true, now, b)
  | rounds + 1, now, b, waiting =>
    match b.round env now waiting with
    | .crashed b => (false, now, b)
    | .done b _ none => (true, now, b)
    | .done b waiting (some wake) => Batch.run env rounds wake b waiting

/-- What became of the requests of a batch is written down in the order of the batch: the status
of each. -/
def recordAll (outcomes : List (Nat × Except String Response)) : Arena →
    List (Handle × Nat × Except NetStatus (HttpRequest × Url)) → List NetStatus × Arena
  | a, [] => ([], a)
  | a, (h, index, prepared) :: rest =>
    let (status, a) := match prepared, outcomes.lookup index with
      | .error status, _ => (status, a)
      | .ok _, some outcome => record a h outcome
      | .ok _, none => (.requestError, a)
    let (statuses, a) := recordAll outcomes a rest
    (status :: statuses, a)

/-- The handles of a batch, at a place a guest names. -/
def handlesAt (s : Session) (ptr count : Int) : Except HostError (List Handle) := do
  let offset ← Memory.offset ptr
  let count ← Memory.offset count
  s.memory.readIntegers offset count

/-- The requests under several handles are sent together.  The status of each is put in the place
of its handle. -/
def sendAll (env : Environment) (s : Session) (ptr count : Int) : Int × Session :=
  if count ≤ 0 then (NetStatus.invalidDescriptor.code, s)
  else match s.handlesAt ptr count with
    | .error _ => (NetStatus.invalidDescriptor.code, s)
    | .ok handles => match env.runtime with
      | .gone => (NetStatus.requestError.code, s)
      | .running =>
        let prepared := handles.zipIdx.map fun (h, i) ↦ (h, i, prepare s.arena h)
        let dispatches := prepared.filterMap fun (_, index, p) ↦
          p.toOption.map fun (http, url) ↦ { index, http, url : Dispatch }
        let (ended, now, b) := Batch.run env (dispatches.length + 1) s.now
          { window := s.window, dispatched := s.dispatched, finish := s.now } dispatches
        let s := { s with
          window := b.window, dispatched := b.dispatched, requests := s.requests ++ b.requests }
        if !ended then (NetStatus.requestError.code, { s with now })
        else
          let (statuses, arena) := recordAll b.outcomes s.arena prepared
          let s := { s with arena, now := b.finish }
          match s.writeAt ptr (statuses.flatMap fun status ↦ Memory.integerBytes status.code) with
          | .error _ => (NetStatus.failedMemoryWrite.code, s)
          | .ok s =>
            if statuses.all (· = .success) then (NetStatus.success.code, s)
            else (NetStatus.requestError.code, s)

/-! ## Reading the response -/

/-- The response of the request under a handle. -/
def responseOf (s : Session) (h : Handle) (missing : NetStatus) : Except NetStatus Response :=
  match s.arena.request h with
  | .error _ => .error .invalidDescriptor
  | .ok request => match request.response? with
    | some response => .ok response
    | none => .error missing

/-- The length of the body of a response. -/
def dataLength (s : Session) (h : Handle) : Int :=
  match s.responseOf h .missingData with
  | .ok response => lengthOr NetStatus.invalidBufferSize.code response.body
  | .error status => status.code

/-- The first bytes of the body of a response are put into the memory of the guest. -/
def readData (s : Session) (h : Handle) (ptr size : Int) : Int × Session :=
  match s.responseOf h .missingData with
  | .error status => (status.code, s)
  | .ok response => match chunk response.body size with
    | none => (NetStatus.invalidBufferSize.code, s)
    | some data => match s.writeAt ptr data with
      | .ok s => (NetStatus.success.code, s)
      | .error _ => (NetStatus.failedMemoryWrite.code, s)

/-- The picture that the body of a response is. -/
def getImage (s : Session) (h : Handle) : Int × Session :=
  match s.responseOf h .missingData with
  | .error status => (status.code, s)
  | .ok response => match Image.ofBytes response.body with
    | some image => s.keep (.image image)
    | none => (NetStatus.notAnImage.code, s)

/-- The status of a response. -/
def getStatusCode (s : Session) (h : Handle) : Int :=
  match s.responseOf h .missingResponse with
  | .ok response => response.status
  | .error status => status.code

/-- A header of a response. -/
def getHeader (s : Session) (h : Handle) (ptr length : Int) : Int × Session :=
  match s.responseOf h .missingResponse with
  | .error status => (status.code, s)
  | .ok response => match s.textAt ptr length with
    | .error _ => (NetStatus.invalidString.code, s)
    | .ok name => match Headers.get? response.headers name with
      | some value => s.keep (.text (Utf8.lossy value))
      | none => (NetStatus.missingData.code, s)

/-- The body of a response as a document. -/
def html (s : Session) (h : Handle) : Int × Session :=
  match s.responseOf h .missingData with
  | .error status => (status.code, s)
  | .ok response =>
    s.keep (.document { html := Utf8.lossy response.body, baseUrl := some response.url.text })

/-- How often the guest may send requests from now on. -/
def setRateLimit (s : Session) (permits period unit : Int) : Session :=
  { s with window := s.window.set permits ((TimeUnit.ofSelector unit).period period) }

end Session

end SourceHost
