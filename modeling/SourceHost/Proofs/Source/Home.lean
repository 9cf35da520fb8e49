import Mathlib.Data.List.Induction
import SourceHost.Proofs.Catalog.Home
import SourceHost.Proofs.Source.News

/-!
# The home screen a source answers with

A source that is asked for its home screen may return it, or send it piece by piece and return an
empty one.  Three things can go wrong: the guest breaks down, a piece cannot be read, or what it
returns is not a home screen.  They count in this order.  Whoever watches sees the pieces as they
come, up to the first that cannot be read.

* `HomeUpdate.readAll` — the pieces that can be read, and why there are no more of them.
* `Entry.foldl_next` — what the handler has made of the pieces, in closed form.
* `finished_homeUpdate` — what has been published when the guest has had its last turn.
* `homeOutcome` — what becomes of the question.
-/

set_option autoImplicit false

namespace SourceHost

/-! ## Reading the pieces -/

/-- The pieces before the first that cannot be read, and why that one cannot be. -/
def HomeUpdate.readAll : List Bytes → List HomeUpdate × Option WireError
  | [] => ([], none)
  | data :: rest => match Wired.decode data with
    | .error e => ([], some e)
    | .ok u => (u :: (readAll rest).1, (readAll rest).2)

theorem HomeUpdate.readAll_append_singleton (pieces : List Bytes) (data : Bytes) :
    readAll (pieces ++ [data]) = match (readAll pieces).2 with
      | some e => ((readAll pieces).1, some e)
      | none => match (Wired.decode data : Except WireError HomeUpdate) with
        | .error e => ((readAll pieces).1, some e)
        | .ok u => ((readAll pieces).1 ++ [u], none) := by
  induction pieces with
  | nil => simp only [List.nil_append, readAll]
  | cons first pieces ih =>
    rw [List.cons_append, readAll, readAll]
    cases (Wired.decode first : Except WireError HomeUpdate) with
    | error e => rfl
    | ok u =>
      dsimp only
      rw [ih]
      cases (readAll pieces).2 with
      | some e => rfl
      | none => cases (Wired.decode data : Except WireError HomeUpdate) <;> rfl

namespace Entry

/-- **What the handler has made of some pieces.** -/
theorem foldl_next (sourceKey : String) (pieces : List Bytes) :
    pieces.foldl (HomeProgress.next sourceKey) {} =
      ⟨Home.assembled sourceKey (HomeUpdate.readAll pieces).1, (HomeUpdate.readAll pieces).2⟩ := by
  induction pieces using List.reverseRecOn with
  | nil => rfl
  | append_singleton pieces data ih =>
    rw [List.foldl_append, ih, List.foldl_cons, List.foldl_nil, HomeProgress.next,
      HomeUpdate.readAll_append_singleton]
    cases (HomeUpdate.readAll pieces).2 with
    | some e => rfl
    | none =>
      cases (Wired.decode data : Except WireError HomeUpdate) with
      | error e => rfl
      | ok u => simp [Home.assembled_append_singleton]

theorem homeProgress_foldl (sourceKey : String) (pieces : List Bytes) :
    homeProgress (pieces.foldl (homeHandler sourceKey) none) =
      ⟨Home.assembled sourceKey (HomeUpdate.readAll pieces).1, (HomeUpdate.readAll pieces).2⟩ := by
  rw [← foldl_next]
  induction pieces using List.reverseRecOn with
  | nil => rfl
  | append_singleton pieces data ih =>
    rw [List.foldl_append, List.foldl_append, ← ih]
    rfl

/-- After a piece that cannot be read there is still what there was before. -/
theorem homeProgress_orElse (sourceKey : String) (pieces : List Bytes) (data : Bytes) :
    ((homeProgress ((pieces ++ [data]).foldl (homeHandler sourceKey) none)).home <|>
      Home.assembled sourceKey (HomeUpdate.readAll pieces).1) =
        Home.assembled sourceKey (HomeUpdate.readAll (pieces ++ [data])).1 := by
  rw [homeProgress_foldl, HomeUpdate.readAll_append_singleton]
  dsimp only
  cases (HomeUpdate.readAll pieces).2 with
  | some e => simp
  | none =>
    cases (Wired.decode data : Except WireError HomeUpdate) with
    | error e => simp
    | ok u =>
      dsimp only
      rw [Home.assembled_append_singleton]
      rfl

/-- The answer when all pieces could be read. -/
theorem reply_home {sourceKey : String} {a : Arena} {made : Option Streamed}
    {payload : Except HostError Bytes} {updates : List HomeUpdate}
    (h : homeProgress made = ⟨Home.assembled sourceKey updates, none⟩) :
    home.reply sourceKey a made payload = match payload with
      | .error e => .error e
      | .ok data => match (Wired.decode data : Except WireError Home) with
        | .error e => .error (.decode e)
        | .ok whole => .ok (.home (if whole.components = [] ∧ updates ≠ [] then
          (updates.foldl Home.apply {}).stamped sourceKey else whole.stamped sourceKey)) := by
  simp only [reply, h]
  cases payload with
  | error e => rfl
  | ok data =>
    simp only [Except.bind]
    cases (Wired.decode data : Except WireError Home) with
    | error e => rfl
    | ok whole =>
      rw [Home.assembled]
      split <;> rename_i heq <;> split at heq <;> cases heq
      · simp [Except.mapError, Except.map, *]
      · simp [Except.mapError, Except.map, *]

end Entry

namespace Session

variable {env : Environment} {guest : Guest} {b : Behaviour} {s : Session} {id : Nat}
  {pieces : List Bytes}

/-! ## Publishing them -/

theorem homeUpdate_deliver {sourceKey : String} {data : Bytes}
    (h : s.Listens Streamed.IsHome id (Entry.homeHandler sourceKey) pieces)
    (hupdate : s.homeUpdate = Home.assembled sourceKey (HomeUpdate.readAll pieces).1) :
    (s.deliver data).homeUpdate =
      Home.assembled sourceKey (HomeUpdate.readAll (pieces ++ [data])).1 := by
  rw [h.homeUpdate_deliver, hupdate, Entry.homeProgress_orElse]

theorem homeUpdate_foldl_deliver {sourceKey : String}
    (h : s.Listens Streamed.IsHome id (Entry.homeHandler sourceKey) pieces)
    (hupdate : s.homeUpdate = Home.assembled sourceKey (HomeUpdate.readAll pieces).1)
    (later : List Bytes) : (later.foldl deliver s).homeUpdate =
      Home.assembled sourceKey (HomeUpdate.readAll (pieces ++ later)).1 := by
  induction later generalizing s pieces with
  | nil => simpa using hupdate
  | cons data later ih => simpa using ih (h.deliver data) (homeUpdate_deliver h hupdate)

/-- When the guest has had its last turn the pieces that could be read have been published, whatever
had been published before the call. -/
theorem finished_homeUpdate
    (h : (s.setUp env .home).session.Listens Streamed.IsHome id
      (Entry.homeHandler env.config.sourceKey) []) :
    (s.finished env guest .home b).homeUpdate =
      Home.assembled env.config.sourceKey (HomeUpdate.readAll (s.sent env guest .home b)).1 := by
  have hnews : (s.finished env guest .home b).homeUpdate =
      ((s.sent env guest .home b).foldl deliver (s.setUp env .home).session).homeUpdate :=
    congrArg (fun news ↦ news.2.2) finished_news
  rw [hnews]
  exact homeUpdate_foldl_deliver h rfl _

end Session

/-! ## The outcome -/

/-- **What becomes of the question for the home screen**, asked of any source that has been loaded
and used.

1. If the guest cannot be called, or breaks down, that is the answer.
2. Otherwise, if a piece could not be read, the answer is why the first of these could not be,
   whatever was returned.
3. Otherwise the answer is why there is no result, or why it cannot be read; and if there is one, it
   is the answer unless it is empty and pieces have been sent, in which case what was put together
   of them is.  Either bears the name of the source.
4. However the call ended, what is published is what was put together of the pieces before the
   first that could not be read, and nothing if there are none.  What was published before does not
   matter, and it is enough that those who wait for the pieces besides, for purposes of their own,
   make no home screens of the source. -/
theorem homeOutcome (env : Environment) (guest : Guest) (s : Session) (b : Behaviour)
    (hs : s.IsLoaded env guest) :
    let sourceKey := env.config.sourceKey
    let updates := (HomeUpdate.readAll (s.sent env guest .home b)).1
    let failure := (HomeUpdate.readAll (s.sent env guest .home b)).2
    let streamed := (updates.foldl Home.apply {}).stamped sourceKey
    (∀ e t, s.enter env guest .home b = (.error e, t) →
      (s.perform env guest .home b).1 = .error e) ∧
    (∀ ret t e, s.enter env guest .home b = (.ok ret, t) → failure = some e →
      (s.perform env guest .home b).1 = .error (.decode e)) ∧
    (∀ ret t, s.enter env guest .home b = (.ok ret, t) → failure = none →
      (s.perform env guest .home b).1 = match (t.takeResult env b.release ret).1 with
        | .error e => .error e
        | .ok data => match (Wired.decode data : Except WireError Home) with
          | .error e => .error (.decode e)
          | .ok home => .ok (.home
            (if home.components = [] ∧ updates ≠ [] then streamed else home.stamped sourceKey))) ∧
    ((∀ r ∈ s.mailbox.registrations, r.Avoids Streamed.IsHome) →
      (s.perform env guest .home b).2.homeUpdate =
        if updates = [] then none else some streamed) := by
  intro sourceKey updates failure streamed
  obtain ⟨hregistration, hlistens⟩ : (s.setUp env .home).registration = some s.mailbox.nextId ∧
      (s.setUp env .home).session.Listens (fun _ ↦ False) s.mailbox.nextId
        (Entry.homeHandler sourceKey) [] :=
    Session.setUp_listens hs.isSound.isNumbered (fun r _ ↦ r.avoids_false) rfl
  have hmade : (s.finished env guest .home b).mailbox.snapshot s.mailbox.nextId =
      (s.sent env guest .home b).foldl (Entry.homeHandler sourceKey) none :=
    (Session.finished_listens hlistens).snapshot_eq
  -- the answer is made of this, the payload and nothing else
  have hprogress : Entry.homeProgress ((s.setUp env .home).registration.bind
      (s.finished env guest .home b).mailbox.snapshot) =
        ⟨Home.assembled sourceKey updates, failure⟩ := by
    rw [hregistration, Option.bind_some, hmade, Entry.homeProgress_foldl]
  refine ⟨fun e t henter ↦ ?broken, fun ret t e henter hfailure ↦ ?unreadable,
    fun ret t henter hfailure ↦ ?returned, fun hquiet ↦ ?published⟩
  case broken => rw [Session.perform_fst, henter]
  case unreadable =>
    rw [Session.perform_fst, henter]
    simp only [Entry.reply, hprogress, hfailure]
  case returned =>
    rw [hfailure] at hprogress
    rw [Session.perform_fst, henter]
    exact Entry.reply_home hprogress
  case published =>
    -- the end of the registration and the clean-up do not touch what has been published
    rw [Session.perform_snd]
    exact Session.finished_homeUpdate
      (Session.setUp_listens hs.isSound.isNumbered hquiet rfl).2

/-- A guest that sends some pieces and returns a payload. -/
def sending (pieces : List Bytes) (payload : Bytes) : Behaviour where
  work := pieces.flatMap (fun data ↦ [.write (.literal 1024) (Memory.payloadFrame data),
    .call "env.send_partial_result" [.literal 1024]]) ++
      [.write (.literal 2048) (Memory.payloadFrame payload), .ret (.literal 2048)]

/-- A component of the home screen with one entry, of a source or of none. -/
def HomeComponent.news (sourceKey : String) : HomeComponent where
  title := some "new"
  value := .bigScroller [{ sourceKey, key := "m", title := "M" }] none

/-- A component is sent and an empty home screen is returned: what has been sent is the answer, and
is published.  If a piece that cannot be read is sent as well that is the answer, and what is
published stays. -/
theorem homeOutcome_sent :
    let s := (Session.load .still .complete ∅ []).2
    let piece := (Wired.encode (HomeUpdate.component (.news ""))).toOption.getD []
    let readable := sending [piece] [0]
    let unreadable := sending [piece, [7]] [0]
    (s.perform .still .complete .home readable).1 = .ok (.home ⟨[.news "en.here"]⟩) ∧
      (s.perform .still .complete .home readable).2.homeUpdate = some ⟨[.news "en.here"]⟩ ∧
      (s.perform .still .complete .home unreadable).1 =
        .error (.decode (.invalidDiscriminant 7)) ∧
      (s.perform .still .complete .home unreadable).2.homeUpdate = some ⟨[.news "en.here"]⟩ := by
  intro s piece readable unreadable
  have hloaded : s.IsLoaded .still .complete := ⟨∅, [], _, s, [], Prod.ext rfl rfl, rfl⟩
  have hquiet : ∀ r ∈ s.mailbox.registrations, r.Avoids Streamed.IsHome := List.forall_mem_nil _
  have hreturned (b : Behaviour) (h : (s.enter .still .complete .home b).1 = .ok 2048) :
      s.enter .still .complete .home b = (.ok 2048, (s.enter .still .complete .home b).2) :=
    Prod.ext h rfl
  obtain ⟨-, -, hanswer, hupdate⟩ := homeOutcome .still .complete s readable hloaded
  obtain ⟨-, hfailure, -, hupdate'⟩ := homeOutcome .still .complete s unreadable hloaded
  refine ⟨?_, ?_, ?_, ?_⟩
  · rw [hanswer 2048 _ (hreturned readable (by decide +kernel)) (by decide +kernel)]
    decide +kernel
  · rw [hupdate hquiet]
    decide +kernel
  · exact hfailure 2048 _ _ (hreturned unreadable (by decide +kernel)) (by decide +kernel)
  · rw [hupdate' hquiet]
    decide +kernel

end SourceHost
