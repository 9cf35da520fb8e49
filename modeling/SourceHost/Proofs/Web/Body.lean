import Mathlib.Data.List.TakeWhile
import Mathlib.Logic.Relation
import SourceHost.Proofs.Source.Bystanders

/-!
# How a body is cut into frames

The body of a response comes in frames, and where it is cut is nobody's decision in particular.  What
is kept of it must not depend on that: neither on the places of the cuts, nor on frames that are empty
or are no part of the body at all.

* `Body.received`, `Body.failure?` — the bytes that come before the body breaks off, and why it does.
* `Body.collect_eq` — the limit is a limit on these bytes, whatever frames they come in.
* `Body.Recut` — a body is cut at one more place, or a frame without bytes is put in.
* `Body.eqvGen_recut_iff` — these are all the ways in which the same body can come.
* `Web.Recut`, `Session.perform_of_recut` — no guest can tell them apart.
* `Body.cappedAlike` — all of it.
-/

set_option autoImplicit false

namespace SourceHost

namespace Frame

/-- The bytes of a frame. -/
def bytes : Frame → Bytes
  | data bytes => bytes
  | _ => []

/-- Why the body breaks off at a frame, if it does. -/
def failure? : Frame → Option String
  | failure reason => some reason
  | _ => none

end Frame

namespace Body

/-- The bytes that come before the body breaks off. -/
def received (frames : List Frame) : Bytes :=
  (frames.takeWhile (·.failure?.isNone)).flatMap Frame.bytes

/-- Why the body breaks off, if it does. -/
def failure? (frames : List Frame) : Option String := frames.findSome? Frame.failure?

variable {limit : Nat} {frames others : List Frame}

/-! ## What has been received -/

@[simp]
theorem received_nil : received [] = [] := rfl

@[simp]
theorem received_data (bytes : Bytes) (frames : List Frame) :
    received (.data bytes :: frames) = bytes ++ received frames := rfl

@[simp]
theorem received_trailers (frames : List Frame) :
    received (.trailers :: frames) = received frames := rfl

@[simp]
theorem received_failure (reason : String) (frames : List Frame) :
    received (.failure reason :: frames) = [] := rfl

/-- All bytes of a body that does not break off are received. -/
theorem received_of_failure?_eq_none (h : failure? frames = none) :
    received frames = frames.flatMap Frame.bytes := by
  have hwhole : ∀ f ∈ frames, f.failure?.isNone := fun f hf ↦
    Option.isNone_iff_eq_none.2 (List.findSome?_eq_none_iff.1 h f hf)
  rw [received, List.takeWhile_eq_self_iff.2 hwhole]

/-! ## The limit -/

/-- What a body comes to that has some bytes before it breaks off, if it does. -/
def outcome (limit : Nat) (received : Bytes) (failure : Option String) : Except String Bytes :=
  if limit < received.length then .error (tooLarge limit) else failure.elim (.ok received) .error

theorem collectFrom_eq {found : Bytes} (h : found.length ≤ limit) :
    collectFrom limit found frames =
      outcome limit (found ++ received frames) (failure? frames) := by
  induction frames generalizing found with
  | nil =>
    rw [collectFrom, outcome, received_nil, List.append_nil, if_neg (Nat.not_lt.2 h)]
    rfl
  | cons f frames ih =>
    cases f with
    | data bytes =>
      have hfound : (if found.isEmpty then bytes else found ++ bytes) = found ++ bytes := by
        cases found <;> rfl
      rw [collectFrom, hfound, received_data, ← List.append_assoc]
      split
      · rename_i hlarge
        rw [outcome, if_pos]
        simp only [List.length_append] at hlarge ⊢
        lia
      · exact ih (by rw [List.length_append]; lia)
    | trailers => exact ih h
    | failure reason =>
      rw [collectFrom, outcome, received_failure, List.append_nil, if_neg (Nat.not_lt.2 h)]
      rfl

/-- **The limit does not look at frames.** -/
theorem collect_eq (limit : Nat) (frames : List Frame) :
    collect limit frames = outcome limit (received frames) (failure? frames) :=
  collectFrom_eq (Nat.zero_le limit)

theorem outcome_eq_ok_iff {received body : Bytes} {failure : Option String} :
    outcome limit received failure = .ok body ↔
      failure = none ∧ body = received ∧ received.length ≤ limit := by
  rw [outcome]
  split
  · simp only [reduceCtorEq, false_iff, not_and]
    lia
  · cases failure <;> simp [eq_comm]
    lia

theorem outcome_eq_error_iff {received : Bytes} {failure : Option String} {reason : String} :
    outcome limit received failure = .error reason ↔
      (limit < received.length ∧ reason = tooLarge limit) ∨
        received.length ≤ limit ∧ failure = some reason := by
  rw [outcome]
  split
  · simp [Nat.not_le.2 ‹_›, *, eq_comm]
  · cases failure <;> simp [*]
    lia

/-! ## Cutting a body -/

/-- A body is cut at one more place, or a frame without bytes is put in; what would come after the
body has broken off does not matter. -/
inductive Recut : List Frame → List Frame → Prop
  | cut (before after : List Frame) (a b : Bytes) :
    Recut (before ++ .data (a ++ b) :: after) (before ++ .data a :: .data b :: after)
  | empty (before after : List Frame) : Recut (before ++ after) (before ++ .data [] :: after)
  | trailers (before after : List Frame) : Recut (before ++ after) (before ++ .trailers :: after)
  | late (before after : List Frame) (reason : String) :
    Recut (before ++ [.failure reason]) (before ++ .failure reason :: after)

/-- What comes first does not matter to what comes after it. -/
theorem received_append_congr {before : List Frame} (h : received frames = received others) :
    received (before ++ frames) = received (before ++ others) := by
  induction before with
  | nil => exact h
  | cons f before ih => cases f <;> simp [ih]

theorem failure?_append (before frames : List Frame) :
    failure? (before ++ frames) = (failure? before).or (failure? frames) :=
  List.findSome?_append

theorem Recut.received_eq (h : Recut frames others) : received frames = received others := by
  cases h <;> exact received_append_congr (by simp)

theorem Recut.failure?_eq (h : Recut frames others) : failure? frames = failure? others := by
  cases h <;> rw [failure?_append, failure?_append] <;> rfl

theorem Recut.cons (f : Frame) (h : Recut frames others) : Recut (f :: frames) (f :: others) := by
  cases h with
  | cut before after a b => exact .cut (f :: before) after a b
  | empty before after => exact .empty (f :: before) after
  | trailers before after => exact .trailers (f :: before) after
  | late before after reason => exact .late (f :: before) after reason

theorem eqvGen_recut_cons (f : Frame) (h : Relation.EqvGen Recut frames others) :
    Relation.EqvGen Recut (f :: frames) (f :: others) := by
  induction h with
  | rel _ _ h => exact .rel _ _ (h.cons f)
  | refl _ => exact .refl _
  | symm _ _ _ ih => exact .symm _ _ ih
  | trans _ _ _ _ _ ih ih' => exact .trans _ _ _ ih ih'

/-- A body in as few frames as possible. -/
def uncut (received : Bytes) (failure : Option String) : List Frame :=
  .data received :: failure.toList.map .failure

/-- Every body can be put together from its frames by undoing cuts. -/
theorem eqvGen_recut_uncut (frames : List Frame) :
    Relation.EqvGen Recut frames (uncut (received frames) (failure? frames)) := by
  induction frames with
  | nil => exact .rel _ _ (.empty [] [])
  | cons f frames ih =>
    cases f with
    | data bytes =>
      refine .trans _ _ _ (eqvGen_recut_cons _ ih) (.symm _ _ (.rel _ _ ?_))
      exact .cut [] ((failure? frames).toList.map .failure) bytes (received frames)
    | trailers => exact .trans _ _ _ (.symm _ _ (.rel _ _ (.trailers [] frames))) ih
    | failure reason =>
      refine .trans _ _ _ (.symm _ _ (.rel _ _ (.late [] frames reason))) (.rel _ _ ?_)
      exact .empty [] [.failure reason]

/-- **The same body has come if the frames of the one are those of the other with other cuts.** -/
theorem eqvGen_recut_iff : Relation.EqvGen Recut frames others ↔
    received frames = received others ∧ failure? frames = failure? others := by
  constructor
  · intro h
    induction h with
    | rel _ _ h => exact ⟨h.received_eq, h.failure?_eq⟩
    | refl _ => exact ⟨rfl, rfl⟩
    | symm _ _ _ ih => exact ⟨ih.1.symm, ih.2.symm⟩
    | trans _ _ _ _ _ ih ih' => exact ⟨ih.1.trans ih'.1, ih.2.trans ih'.2⟩
  · rintro ⟨hreceived, hfailure⟩
    have hothers := eqvGen_recut_uncut others
    rw [← hreceived, ← hfailure] at hothers
    exact .trans _ _ _ (eqvGen_recut_uncut frames) (.symm _ _ hothers)

theorem collect_of_recut (limit : Nat) (h : Relation.EqvGen Recut frames others) :
    collect limit frames = collect limit others := by
  obtain ⟨hreceived, hfailure⟩ := eqvGen_recut_iff.1 h
  rw [collect_eq, collect_eq, hreceived, hfailure]

end Body

/-! ## What a guest can tell -/

/-- Two answers are the same but for the cuts in the body. -/
inductive Answer.Recut : Answer → Answer → Prop
  | same (a : Answer) : Recut a a
  | response (delay status : Nat) (headers : Headers) (finalUrl : Option Url)
    {frames others : List Frame} (h : Relation.EqvGen Body.Recut frames others) :
    Recut (.response delay ⟨status, headers, frames⟩ finalUrl)
      (.response delay ⟨status, headers, others⟩ finalUrl)

/-- Two worlds give the same answers but for the cuts in the bodies. -/
def Web.Recut (web other : Web) : Prop := ∀ sent http, (web sent http).Recut (other sent http)

/-- The environment in another world. -/
def Environment.within (env : Environment) (web : Web) : Environment := { env with web }

section

variable {env : Environment} {web : Web} (hweb : env.web.Recut web)

include hweb

namespace Session

theorem dispatch_of_recut : dispatch (env.within web) = dispatch env := by
  funext s http url
  have h := hweb s.dispatched http
  simp only [dispatch, Environment.within]
  generalize env.web s.dispatched http = answer at h
  generalize web s.dispatched http = other at h
  cases h with
  | same => rfl
  | response delay status headers finalUrl h => simp only [receive, Body.collect_of_recut _ h]

theorem send_of_recut : send (env.within web) = send env := by
  funext s h
  simp only [send, dispatch_of_recut hweb]
  rfl

theorem Batch.serve_of_recut : Batch.serve (env.within web) = Batch.serve env := by
  funext b window now d
  have h := hweb b.dispatched d.http
  simp only [serve, Environment.within]
  generalize env.web b.dispatched d.http = answer at h
  generalize web b.dispatched d.http = other at h
  cases h with
  | same => rfl
  | response delay status headers finalUrl h => simp only [receive, Body.collect_of_recut _ h]

theorem Batch.round_of_recut (now : Nat) (b : Batch) (ds : List Dispatch) :
    Batch.round (env.within web) now b ds = Batch.round env now b ds := by
  induction ds generalizing b with
  | nil => rfl
  | cons d ds ih => simp only [round, serve_of_recut hweb, ih]

theorem Batch.run_of_recut (rounds now : Nat) (b : Batch) (ds : List Dispatch) :
    Batch.run (env.within web) rounds now b ds = Batch.run env rounds now b ds := by
  induction rounds generalizing now b ds with
  | zero => rfl
  | succ rounds ih => simp only [run, round_of_recut hweb, ih]

theorem sendAll_of_recut : sendAll (env.within web) = sendAll env := by
  funext s ptr count
  simp only [sendAll, Batch.run_of_recut hweb]
  rfl

end Session

theorem HostFunction.run_of_recut (f : HostFunction) :
    f.run (env.within web) = f.run env := by
  funext arguments s
  cases f with
  | send => simp only [run, Session.send_of_recut hweb]
  | sendAll => simp only [run, Session.sendAll_of_recut hweb]
  | _ => rfl

theorem Step.run_of_recut (step : Step) (parameters results : List Int) (s : Session) :
    step.run (env.within web) parameters results s = step.run env parameters results s := by
  cases step with
  | call name arguments =>
    simp only [run, Environment.callFunction, HostFunction.run_of_recut hweb]
    rfl
  | _ => rfl

theorem Script.run_of_recut (script : Script) (parameters results : List Int) (s : Session) :
    Script.run (env.within web) parameters script results s =
      Script.run env parameters script results s := by
  induction script generalizing results s with
  | nil => rfl
  | cons step rest ih => simp only [Script.run, Step.run_of_recut hweb, ih]

namespace Session

theorem call_of_recut : call (env.within web) = call env := by
  funext guest name parameters script s
  simp only [call, Script.run_of_recut hweb]
  rfl

theorem takeResult_of_recut : takeResult (env.within web) = takeResult env := by
  funext script ret s
  simp only [takeResult, release, Script.run_of_recut hweb]
  rfl

/-- **No guest can tell how a body has been cut.** -/
theorem perform_of_recut : perform (env.within web) = perform env := by
  funext guest e b s
  simp only [perform, call_of_recut hweb, answer, takeHome, takeResource, decodeResult,
    takeResult_of_recut hweb]
  rfl

end Session

end

/-! ## All alike -/

/-- **What is kept of a body does not depend on how it is cut.**

1. A body is returned exactly if it does not break off and has no more bytes than the limit allows,
   and then it is the bytes of all its frames.
2. Otherwise it is too large, if the bytes that came before it broke off are already too many, and
   else the reason is that for which it broke off.
3. So two bodies come to the same, whatever the limit, if the same bytes have been received and they
   break off for the same reason or not at all; this is so exactly if they have the same frames but
   for cuts, empty frames and frames that are no part of the body.
4. Nor does anything else depend on it that a guest does in a world with one or the other. -/
theorem Body.cappedAlike (limit : Nat) (frames : List Frame) :
    (∀ body, collect limit frames = .ok body ↔ failure? frames = none ∧
      body = frames.flatMap Frame.bytes ∧ (frames.flatMap Frame.bytes).length ≤ limit) ∧
    (∀ reason, collect limit frames = .error reason ↔
      (limit < (received frames).length ∧ reason = tooLarge limit) ∨
        (received frames).length ≤ limit ∧ failure? frames = some reason) ∧
    (∀ others, received frames = received others → failure? frames = failure? others →
      collect limit frames = collect limit others) ∧
    (∀ others, Relation.EqvGen Recut frames others ↔
      received frames = received others ∧ failure? frames = failure? others) ∧
    ∀ env web, env.web.Recut web →
      Session.perform (env.within web) = Session.perform env := by
  refine ⟨fun body ↦ ?_, fun reason ↦ ?_, fun others hreceived hfailure ↦ ?_,
    fun others ↦ eqvGen_recut_iff, fun env web ↦ Session.perform_of_recut⟩
  · rw [collect_eq, outcome_eq_ok_iff]
    refine and_congr_right fun hwhole ↦ ?_
    rw [received_of_failure?_eq_none hwhole]
  · rw [collect_eq, outcome_eq_error_iff]
  · exact collect_of_recut limit (eqvGen_recut_iff.2 ⟨hreceived, hfailure⟩)

/-- A picture that comes in pieces with frames between them that are no part of it is the picture that
comes at once, and so is the page with it. -/
theorem Body.cappedAlike_pieces :
    let pieces : List Frame := [.data [66], .trailers, .data [], .data [77, 1]]
    let web : Web := fun _ _ ↦ .response 0 ⟨200, [], pieces⟩ none
    let s := (Session.load .pictures .complete ∅ []).2
    collect 3 pieces = .ok [66, 77, 1] ∧ collect 2 pieces = .error (tooLarge 2) ∧
      collect 1 (.failure "reset" :: pieces) = .error "reset" ∧
      (s.perform (Environment.pictures.within web) .complete (.pageList {} {})
        (fetching [] [1, 2, 8, 0, 0, 0])).1 =
          .ok (.pages [{ content := .image ⟨4, by decide, by decide⟩ }]) := by
  intro pieces web s
  have hsame (limit : Nat) : collect limit pieces = collect limit [.data [66, 77, 1]] :=
    (cappedAlike limit pieces).2.2.1 _ rfl rfl
  have hlarge : collect 2 [.data [66, 77, 1]] = .error (tooLarge 2) := by
    rw [collect, collectFrom, if_pos (by decide)]
  have hcut : Relation.EqvGen Recut [.data [66, 77, 1]] pieces :=
    ((cappedAlike 0 [.data [66, 77, 1]]).2.2.2.1 pieces).2 ⟨rfl, rfl⟩
  have hweb : Environment.pictures.web.Recut web := fun _ _ ↦ .response 0 200 [] none hcut
  refine ⟨(hsame 3).trans rfl, (hsame 2).trans hlarge, rfl, ?_⟩
  rw [(cappedAlike 0 []).2.2.2.2 .pictures web hweb]
  decide +kernel

end SourceHost
