import SourceHost.Proofs.Arena.Handles
import SourceHost.Proofs.Memory.Access
import SourceHost.Proofs.Session.Turn

/-!
# Functions that do all or nothing

Most functions answer a guest with a number, and a negative number says that they have refused.
They look at many things before they do anything: at addresses and lengths, at texts, at what is
under a handle, at a response and its body.  This file says that all the looking comes first, so
that nothing has happened when the answer is negative, and says what has happened when it is not.

* `Answers` — a function has refused and done nothing, or has done what it is for.
* `keep_answers`, `changeRequest_answers` — what the functions have in common that keep a resource,
  and those that change a request.
* `writeAt_eq_ok_iff` — when bytes can be written into the memory of the guest, and what it is then.
* `HostFunction.Does`, `HostFunction.run_answers` — what each of the functions is for, and that it
  does it or refuses.
* `allOrNothing` — what a guest can rely on.
-/

set_option autoImplicit false

namespace SourceHost

variable {env : Environment} {s t : Session} {h : Handle}

/-! ## Refusals -/

theorem NetStatus.code_neg {status : NetStatus} (h : status ≠ .success) : status.code < 0 := by
  cases status with
  | success => contradiction
  | _ => decide

theorem BufferStatus.code_neg (status : BufferStatus) : status.code < 0 := by
  cases status <;> decide

theorem SettingStatus.code_neg (status : SettingStatus) : status.code < 0 := by
  cases status <;> decide

namespace Session

/-- A function that answers with a number has refused and has done nothing, or it has done what it
is for. -/
inductive Answers (s : Session) (Does : Int → Session → Prop) : Int × Session → Prop where
  /-- It has refused. -/
  | refused {status : Int} (h : status < 0) : Answers s Does (status, s)
  /-- It has done it. -/
  | done {code : Int} {t : Session} (hcode : 0 ≤ code) (h : Does code t) : Answers s Does (code, t)

variable {Does : Int → Session → Prop}

theorem Answers.of_net {status : NetStatus} (h : status ≠ .success) :
    s.Answers Does (status.code, s) := .refused (NetStatus.code_neg h)

/-! ## Keeping a resource -/

/-- A resource with a property has been kept, and the answer is its handle. -/
def Kept (s : Session) (P : Resource → Prop) (code : Int) (t : Session) : Prop :=
  ∃ r, P r ∧ s.keep r = (code, t)

theorem keep_answers {P : Resource → Prop} (hs : s.arena.IsCounting) {r : Resource} (hr : P r) :
    s.Answers (s.Kept P) (s.keep r) :=
  .done (Int.le_trans (by decide)
    (Arena.freeFrom_bounds s.arena.entries s.arena.entries.size hs.next_pos hs.next_le).1)
    ⟨r, hr, rfl⟩

/-- What is kept is under a handle that is free, as long as there is one. -/
theorem Kept.spec {P : Resource → Prop} {code : Int} (hs : s.arena.IsCounting)
    (h : s.Kept P code t) :
    (1 ≤ code ∧ code ≤ Handle.largest) ∧
      ((∃ k, 1 ≤ k ∧ k ≤ Handle.largest ∧ s.arena.fetch k = none) → s.arena.fetch code = none) ∧
      (t.arena.fetch code).isSome ∧
      (∀ k, k ≠ code → t.arena.fetch k = s.arena.fetch k) ∧
      t = { s with arena := t.arena } := by
  obtain ⟨r, -, hkeep⟩ := h
  obtain ⟨rfl, rfl⟩ := Prod.mk.inj hkeep
  refine ⟨Arena.freeFrom_bounds _ _ hs.next_pos hs.next_le, fun hroom ↦ ?_, ?_, fun k hk ↦ ?_, rfl⟩
  · obtain ⟨-, -, -, -, hfree⟩ := Arena.free_spec hs hroom
    exact hfree
  · exact Option.isSome_of_eq_some (Arena.fetch_store.trans (if_pos rfl))
  · exact Arena.fetch_store.trans (if_neg hk)

/-- A resource is a request that has just been begun. -/
def IsBegun (method : Int) (r : Resource) : Prop :=
  ∃ m, Method.ofSelector method = some m ∧ r = .request { method := m }

/-- A resource is not a request. -/
def IsFinal (r : Resource) : Prop := r.request? = none

theorem ne_success_of_responseOf {missing status : NetStatus}
    (hresponse : s.responseOf h missing = .error status) (hmissing : missing ≠ .success) :
    status ≠ .success := by
  rw [responseOf] at hresponse
  split at hresponse
  · cases hresponse
    decide
  · split at hresponse
    · cases hresponse
    · cases hresponse
      exact hmissing

theorem initRequest_answers (hs : s.arena.IsCounting) (method : Int) :
    s.Answers (s.Kept (IsBegun method)) (s.initRequest method) := by
  rw [initRequest]
  split
  · exact keep_answers hs ⟨_, ‹_›, rfl⟩
  · exact .of_net (by decide)

theorem getImage_answers (hs : s.arena.IsCounting) (h : Handle) :
    s.Answers (s.Kept IsFinal) (s.getImage h) := by
  rw [getImage]
  split
  · exact .of_net (ne_success_of_responseOf ‹_› (by decide))
  · split
    · exact keep_answers hs rfl
    · exact .of_net (by decide)

theorem getHeader_answers (hs : s.arena.IsCounting) (h : Handle) (ptr length : Int) :
    s.Answers (s.Kept IsFinal) (s.getHeader h ptr length) := by
  rw [getHeader]
  split
  · exact .of_net (ne_success_of_responseOf ‹_› (by decide))
  · split
    · exact .of_net (by decide)
    · split
      · exact keep_answers hs rfl
      · exact .of_net (by decide)

theorem html_answers (hs : s.arena.IsCounting) (h : Handle) : s.Answers (s.Kept IsFinal) (s.html h) := by
  rw [html]
  split
  · exact .of_net (ne_success_of_responseOf ‹_› (by decide))
  · exact keep_answers hs rfl

theorem getSetting_answers (hs : s.arena.IsCounting) (keyPtr keyLength : Int) :
    s.Answers (s.Kept IsFinal) (s.getSetting env keyPtr keyLength) := by
  rw [getSetting]
  split
  · exact .refused (SettingStatus.code_neg _)
  · split
    · exact .refused (SettingStatus.code_neg _)
    · split
      · exact .refused (SettingStatus.code_neg _)
      · split
        · exact .refused (SettingStatus.code_neg _)
        · exact keep_answers hs rfl

/-! ## Changing a request or a setting -/

/-- A request has been changed under its handle. -/
def Changed (s : Session) (h : Handle) (code : Int) (t : Session) : Prop :=
  code = 0 ∧ ∃ q q', s.arena.request h = .ok q ∧
    t = { s with arena := s.arena.replace h (.request q') }

theorem changeRequest_answers {change : Request → Except NetStatus Request}
    (hchange : ∀ q, change q ≠ .error .success) :
    s.Answers (s.Changed h) (s.changeRequest h change) := by
  rw [changeRequest]
  split
  · exact .of_net (by decide)
  · rename_i q hq
    split
    · exact .done (Int.le_refl 0) ⟨rfl, q, _, hq, rfl⟩
    · rename_i hstatus
      exact .of_net fun heq ↦ hchange q (heq ▸ hstatus)

theorem setUrl_answers (h : Handle) (ptr length : Int) :
    s.Answers (s.Changed h) (s.setUrl h ptr length) := by
  refine changeRequest_answers fun q ↦ ?_
  split
  · simp
  · split <;> simp

theorem setHeader_answers (h : Handle) (namePtr nameLength valuePtr valueLength : Int) :
    s.Answers (s.Changed h) (s.setHeader h namePtr nameLength valuePtr valueLength) := by
  refine changeRequest_answers fun q ↦ ?_
  dsimp only
  split <;> simp

theorem setBody_answers (h : Handle) (ptr length : Int) :
    s.Answers (s.Changed h) (s.setBody h ptr length) := by
  refine changeRequest_answers fun q ↦ ?_
  split <;> simp

/-- Nothing but the store has changed. -/
def Stored (s : Session) (code : Int) (t : Session) : Prop :=
  code = 0 ∧ t = { s with settings := t.settings }

theorem setSetting_answers (keyPtr keyLength kind valuePtr : Int) :
    s.Answers s.Stored (s.setSetting env keyPtr keyLength kind valuePtr) := by
  rw [setSetting]
  split
  · exact .refused (SettingStatus.code_neg _)
  · split
    · exact .refused (SettingStatus.code_neg _)
    · split
      · exact .refused (SettingStatus.code_neg _)
      · split
        · exact .refused (SettingStatus.code_neg _)
        · exact .done (Int.le_refl 0) ⟨rfl, rfl⟩

/-! ## Telling a number -/

/-- Nothing has been done but telling a number. -/
def Told (s : Session) (_ : Int) (t : Session) : Prop := t = s

theorem lengthOr_answers {failure : Int} (h : failure < 0) (data : Bytes) :
    s.Answers s.Told (lengthOr failure data, s) := by
  rw [lengthOr]
  split
  · exact .done (Int.natCast_nonneg _) rfl
  · exact .refused h

theorem bufferLength_answers (h : Handle) : s.Answers s.Told (s.bufferLength h, s) := by
  rw [bufferLength]
  split
  · exact lengthOr_answers (BufferStatus.code_neg _) _
  · exact .refused (BufferStatus.code_neg _)

theorem dataLength_answers (h : Handle) : s.Answers s.Told (s.dataLength h, s) := by
  rw [dataLength]
  split
  · exact lengthOr_answers (NetStatus.code_neg (by decide)) _
  · exact .of_net (ne_success_of_responseOf ‹_› (by decide))

theorem getStatusCode_answers (h : Handle) : s.Answers s.Told (s.getStatusCode h, s) := by
  rw [getStatusCode]
  split
  · exact .done (Int.natCast_nonneg _) rfl
  · exact .of_net (ne_success_of_responseOf ‹_› (by decide))

/-! ## Writing into the memory of the guest -/

/-- Bytes can be written where there is room for all of them. -/
theorem writeAt_eq_ok_iff {ptr : Int} {data : Bytes} : s.writeAt ptr data = .ok t ↔
    (0 ≤ ptr ∧ ptr.toNat + data.length ≤ s.memory.size) ∧
      t = { s with memory := s.memory.put ptr.toNat data } := by
  rw [writeAt, Memory.offset]
  by_cases hptr : 0 ≤ ptr <;> by_cases hfit : ptr.toNat + data.length ≤ s.memory.size <;>
    simp [hptr, hfit, Memory.write_eq, bind, Except.bind, pure, Except.pure, @eq_comm Session t]

theorem chunk_eq_some_iff {data part : Bytes} {size : Int} : chunk data size = some part ↔
    (0 ≤ size ∧ size ≤ data.length) ∧ data.take size.toNat = part := by
  rw [chunk]
  split <;> simp [*]

/-- The first `size` bytes of data have been copied to a place in the memory of the guest. -/
structure Copied (s : Session) (data : Bytes) (ptr size : Int) (t : Session) : Prop where
  /-- There are so many. -/
  size_bounds : 0 ≤ size ∧ size ≤ data.length
  /-- There is room for them. -/
  room : 0 ≤ ptr ∧ ptr + size ≤ s.memory.size
  /-- The memory is changed and nothing else. -/
  eq : t = { s with memory := t.memory }
  /-- They stand there, and everywhere else is what was there. -/
  memory : s.memory.Overwrites ptr.toNat (data.take size.toNat) t.memory

theorem copied_of_writeAt {data part : Bytes} {ptr size : Int} (hpart : chunk data size = some part)
    (hwrite : s.writeAt ptr part = .ok t) : s.Copied data ptr size t := by
  obtain ⟨hsize, rfl⟩ := chunk_eq_some_iff.1 hpart
  obtain ⟨⟨hptr, hroom⟩, rfl⟩ := writeAt_eq_ok_iff.1 hwrite
  rw [List.length_take] at hroom
  exact ⟨hsize, ⟨hptr, by lia⟩, rfl, s.memory.overwrites_put _ _⟩

/-- The data that a function copies from: a buffer, or the body of a response. -/
def Reads (s : Session) (h : Handle) (data : Bytes) : HostFunction → Prop
  | .readBuffer => s.arena.bytes h = .ok data
  | .readData => ∃ response, s.responseOf h .missingData = .ok response ∧ response.body = data
  | _ => False

theorem readBuffer_answers (h : Handle) (ptr size : Int) :
    s.Answers (fun code t ↦ code = 0 ∧
      ∃ data, s.Reads h data .readBuffer ∧ s.Copied data ptr size t) (s.readBuffer h ptr size) := by
  rw [readBuffer]
  split
  · exact .refused (BufferStatus.code_neg _)
  · rename_i data hdata
    split
    · exact .refused (BufferStatus.code_neg _)
    · rename_i hpart
      split
      · rename_i hwrite
        exact .done (Int.le_refl 0) ⟨rfl, data, hdata, copied_of_writeAt hpart hwrite⟩
      · exact .refused (BufferStatus.code_neg _)

theorem readData_answers (h : Handle) (ptr size : Int) :
    s.Answers (fun code t ↦ code = 0 ∧
      ∃ data, s.Reads h data .readData ∧ s.Copied data ptr size t) (s.readData h ptr size) := by
  rw [readData]
  split
  · exact .of_net (ne_success_of_responseOf ‹_› (by decide))
  · rename_i response hresponse
    split
    · exact .of_net (by decide)
    · rename_i hpart
      split
      · rename_i hwrite
        exact .done (Int.le_refl 0)
          ⟨rfl, response.body, ⟨response, hresponse, rfl⟩, copied_of_writeAt hpart hwrite⟩
      · exact .of_net (by decide)

end Session

/-! ## All of them -/

namespace HostFunction

open Session

/-- The functions that keep a resource. -/
def keeping : List HostFunction := [initRequest, getImage, getHeader, html, getSetting]

/-- The functions that answer with a number, and do all they are called for or nothing.  The two
that send requests are not among them: what they do they do even if nobody answers. -/
def answering : List HostFunction :=
  keeping ++ [setUrl, setHeader, setBody, setSetting, bufferLength, dataLength, getStatusCode,
    readBuffer, readData]

/-- What a function has done that has not refused. -/
def Does (f : HostFunction) (arguments : List Int) (s : Session) (code : Int) (t : Session) : Prop :=
  let arg (i : Nat) : Int := arguments.getD i 0
  match f with
  | initRequest => s.Kept (IsBegun (arg 0)) code t
  | getImage | getHeader | html | getSetting => s.Kept IsFinal code t
  | setUrl | setHeader | setBody => s.Changed (arg 0) code t
  | setSetting => s.Stored code t
  | bufferLength | dataLength | getStatusCode => s.Told code t
  | readBuffer | readData =>
    code = 0 ∧ ∃ data, s.Reads (arg 0) data f ∧ s.Copied data (arg 1) (arg 2) t
  | _ => False

/-- **Each of them refuses or does what it is for.** -/
theorem run_answers (env : Environment) (hs : s.arena.IsCounting) {f : HostFunction}
    (hf : f ∈ answering) (arguments : List Int) :
    ∃ r, f.run env arguments s = (some (.word r.1), r.2) ∧ s.Answers (f.Does arguments s) r := by
  cases f with
  | initRequest => exact ⟨_, rfl, initRequest_answers hs _⟩
  | getImage => exact ⟨_, rfl, getImage_answers hs _⟩
  | getHeader => exact ⟨_, rfl, getHeader_answers hs _ _ _⟩
  | html => exact ⟨_, rfl, html_answers hs _⟩
  | getSetting => exact ⟨_, rfl, getSetting_answers hs _ _⟩
  | setUrl => exact ⟨_, rfl, setUrl_answers _ _ _⟩
  | setHeader => exact ⟨_, rfl, setHeader_answers _ _ _ _ _⟩
  | setBody => exact ⟨_, rfl, setBody_answers _ _ _⟩
  | setSetting => exact ⟨_, rfl, setSetting_answers _ _ _ _⟩
  | bufferLength => exact ⟨(s.bufferLength _, s), rfl, bufferLength_answers _⟩
  | dataLength => exact ⟨(s.dataLength _, s), rfl, dataLength_answers _⟩
  | getStatusCode => exact ⟨(s.getStatusCode _, s), rfl, getStatusCode_answers _⟩
  | readBuffer => exact ⟨_, rfl, readBuffer_answers _ _ _⟩
  | readData => exact ⟨_, rfl, readData_answers _ _ _⟩
  | _ => simp [answering, keeping] at hf

end HostFunction

open HostFunction in
/-- **All or nothing.**  Each of the fourteen functions that answer with a number, whatever it is
called with:

1. When the answer is negative nothing has happened.
2. When one of those that keep a resource answers otherwise the answer is a handle, under which the
   resource now is; under all others is what was there, and nothing else has changed.  As long as
   one handle is free nothing was under that handle.  (When none is the search does not end.)
3. When one of the two that copy answers 0 the first `size` bytes of the buffer or the body stand at
   the address, all other bytes are what they were, and nothing else has changed.

That the arena counts is no restriction: in every session that a guest can come to it does
(`Arena.Turn.isCounting`). -/
theorem allOrNothing {s : Session} (hs : s.arena.IsCounting) {f : HostFunction}
    (hf : f ∈ answering) (env : Environment) (arguments : List Int) :
    let arg (i : Nat) : Int := arguments.getD i 0
    ∃ code t, f.run env arguments s = (some (.word code), t) ∧
      (code < 0 → t = s) ∧
      (f ∈ keeping → 0 ≤ code →
        (1 ≤ code ∧ code ≤ Handle.largest) ∧
        ((∃ k, 1 ≤ k ∧ k ≤ Handle.largest ∧ s.arena.fetch k = none) →
          s.arena.fetch code = none) ∧
        (t.arena.fetch code).isSome ∧
        (∀ k, k ≠ code → t.arena.fetch k = s.arena.fetch k) ∧
        t = { s with arena := t.arena }) ∧
      (f = readBuffer ∨ f = readData → code = 0 →
        ∃ data, s.Reads (arg 0) data f ∧ (0 ≤ arg 2 ∧ arg 2 ≤ data.length) ∧
          (0 ≤ arg 1 ∧ arg 1 + arg 2 ≤ s.memory.size) ∧
          s.memory.Overwrites (arg 1).toNat (data.take (arg 2).toNat) t.memory ∧
          t = { s with memory := t.memory }) := by
  intro arg
  obtain ⟨⟨code, t⟩, hrun, hanswers⟩ := run_answers env hs hf arguments
  refine ⟨code, t, hrun, ?_⟩
  generalize hr : (code, t) = r at hanswers
  cases hanswers with
  | refused hneg =>
    obtain ⟨rfl, rfl⟩ := Prod.mk.inj hr
    exact ⟨fun _ ↦ rfl, fun _ hcode ↦ absurd hneg (Int.not_lt.2 hcode),
      fun _ hcode ↦ absurd hneg (Int.not_lt.2 (Int.le_of_eq hcode.symm))⟩
  | done hcode hdoes =>
    obtain ⟨rfl, rfl⟩ := Prod.mk.inj hr
    refine ⟨fun hneg ↦ absurd hneg (Int.not_lt.2 hcode), fun hkeeping _ ↦ ?keeping,
      fun hcopying _ ↦ ?copying⟩
    case keeping =>
      have hkept : ∃ P, s.Kept P code t := by
        simp only [keeping, List.mem_cons, List.not_mem_nil, or_false] at hkeeping
        rcases hkeeping with rfl | rfl | rfl | rfl | rfl <;> exact ⟨_, hdoes⟩
      obtain ⟨P, hkept⟩ := hkept
      exact hkept.spec hs
    case copying =>
      have hcopied : ∃ data, s.Reads (arg 0) data f ∧ s.Copied data (arg 1) (arg 2) t := by
        rcases hcopying with rfl | rfl <;> exact hdoes.2
      obtain ⟨data, hreads, hcopied⟩ := hcopied
      exact ⟨data, hreads, hcopied.size_bounds, hcopied.room, hcopied.memory, hcopied.eq⟩

/-- A session in which a request has been answered with a picture. -/
def Session.answered : Session where
  memory := .ofPages 1
  arena :=
    let url : Url := { scheme := "about", authority := none, path := .plain "blank" }
    (({} : Arena).store (.request {
      method := .get, response? := some { status := 200, headers := [], url, body := [66, 77, 1] } })).2

/-- Two bytes of the picture are copied, a place before the memory is refused, and the picture is
kept under the next handle. -/
theorem allOrNothing_answered :
    let s := Session.answered
    let env : Environment :=
      { config := { sourceKey := "en.here" }, web := fun _ _ ↦ .crash, zones := fun _ ↦ none }
    (∃ t, HostFunction.readData.run env [1, 8, 2] s = (some (.word 0), t) ∧
      t.memory.Holds 8 [66, 77] ∧ t = { s with memory := t.memory }) ∧
    HostFunction.readData.run env [1, -8, 2] s = (some (.word (-11)), s) ∧
    ∃ t, HostFunction.getImage.run env [1] s = (some (.word 2), t) ∧
      s.arena.fetch 2 = none ∧ (t.arena.fetch 2).isSome := by
  intro s env
  have hs : s.arena.IsCounting := Arena.isCounting_empty.store _
  have hcode {f : HostFunction} {arguments : List Int} {code n : Int} {t : Session}
      (hrun : f.run env arguments s = (some (.word code), t))
      (hn : (f.run env arguments s).1 = some (.word n)) : code = n := by
    rw [hrun] at hn
    exact HostValue.word.inj (Option.some.inj hn)
  refine ⟨?copied, ?refused, ?kept⟩
  case copied =>
    obtain ⟨code, t, hrun, -, -, hcopies⟩ :=
      allOrNothing hs (f := .readData) (by decide) env [1, 8, 2]
    obtain rfl := hcode (n := 0) hrun (by decide +kernel)
    obtain ⟨data, ⟨response, hresponse, rfl⟩, -, -, hmemory, ht⟩ := hcopies (.inr rfl) rfl
    have hbody : (s.responseOf 1 .missingData).map (·.body) = .ok [66, 77, 1] := by decide +kernel
    have hresponse : s.responseOf 1 .missingData = .ok response := hresponse
    rw [hresponse] at hbody
    have hbody : response.body = [66, 77, 1] := Except.ok.inj hbody
    have hholds := hmemory.holds
    rw [hbody] at hholds
    exact ⟨t, hrun, hholds, ht⟩
  case refused =>
    obtain ⟨code, t, hrun, hrefused, -⟩ :=
      allOrNothing hs (f := .readData) (by decide) env [1, -8, 2]
    obtain rfl := hcode (n := -11) hrun (by decide +kernel)
    obtain rfl := hrefused (by decide)
    exact hrun
  case kept =>
    obtain ⟨code, t, hrun, -, hkeeps, -⟩ := allOrNothing hs (f := .getImage) (by decide) env [1]
    obtain rfl := hcode (n := 2) hrun (by decide +kernel)
    obtain ⟨-, hfree, hlive, -⟩ := hkeeps (by decide) (by decide)
    exact ⟨t, hrun, hfree ⟨2, by decide, by decide, by decide +kernel⟩, hlive⟩

end SourceHost
