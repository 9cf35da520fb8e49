import SourceHost.Proofs.Mailbox.Folds
import SourceHost.Proofs.Session.News
import SourceHost.Proofs.Source.Use

/-!
# What is sent during a call

A handler that is registered for a call gets what the guest sends while it works on the answer and
while it takes its result back, and nothing else.  What it has made in the end is the fold over
these pieces.

* `Session.sent` — the pieces that are sent during a call.
* `finished_news` — the mailbox after a call, and what has been published, are what the pieces make
  of them.
* `moments_news` — and at every moment of it they are what some of the pieces make of them.
* `Listens` — a handler waits for what is sent, and nobody else makes anything of its kind.
* `finished_listens` — it has got all the pieces in the end.
-/

set_option autoImplicit false

namespace SourceHost

/-- What a handler makes is never of a kind. -/
structure Registration.Avoids (kind : Streamed → Prop) (r : Registration Bytes Streamed) :
    Prop where
  /-- What it has made so far is not. -/
  made : ∀ x ∈ r.made, ¬kind x
  /-- Nor is what it makes of that. -/
  handler : ∀ made data, (∀ x ∈ made, ¬kind x) → ∀ x ∈ r.handler made data, ¬kind x

theorem Registration.avoids_false (r : Registration Bytes Streamed) : r.Avoids fun _ ↦ False :=
  ⟨fun _ _ ↦ not_false, fun _ _ _ _ _ ↦ not_false⟩

theorem Registration.Avoids.run {kind : Streamed → Prop} {r : Registration Bytes Streamed}
    (h : r.Avoids kind) (data : Bytes) : ∀ x ∈ (r.run data).made, ¬kind x :=
  h.handler _ data h.made

theorem Registration.Avoids.deliver {kind : Streamed → Prop} {r : Registration Bytes Streamed}
    (h : r.Avoids kind) (data : Bytes) : (r.deliver data).Avoids kind := by
  rw [Registration.deliver]
  split
  · exact ⟨h.run data, h.handler⟩
  · exact h

/-- What has been made is a home screen. -/
def Streamed.IsHome : Streamed → Prop
  | manga _ => False
  | home _ => True

namespace Session

variable {env : Environment} {guest : Guest} {e : Entry} {b : Behaviour} {script : Script}
  {ret : Int} {s t : Session}

/-! ## The pieces -/

/-- The pieces a guest sends when it is called. -/
def callSent (env : Environment) (guest : Guest) (name : String) (parameters : List Int)
    (script : Script) (s : Session) : List Bytes :=
  if !guest.features.supports name then []
  else match guest.entryPoints.lookup name with
    | some .function => script.sent env parameters [] (s.log (.enter name parameters))
    | _ => []

/-- The pieces a guest sends when a frame is given back. -/
def releaseSent (env : Environment) (script : Script) (ret : Int) (s : Session) : List Bytes :=
  if ret < 0 then [] else script.sent env [ret] [] { s with freed := s.freed ++ [ret] }

/-- The pieces that are sent during a call. -/
def sent (env : Environment) (guest : Guest) (e : Entry) (b : Behaviour) (s : Session) :
    List Bytes :=
  let call := s.setUp env e
  call.session.callSent env guest e.name call.parameters b.work ++
    match s.enter env guest e b with
    | (.error _, _) => []
    | (.ok ret, t) => t.releaseSent env b.release ret

theorem call_news (name : String) (parameters : List Int) :
    (s.call env guest name parameters script).2.news =
      ((s.callSent env guest name parameters script).foldl deliver s).news := by
  rw [call, callSent]
  split
  · rfl
  · rcases guest.entryPoints.lookup name with _ | kind
    · rfl
    · cases kind with
      | function =>
        have hlog : (s.log (.enter name parameters)).news = s.news := rfl
        exact (script.run_news parameters [] _).trans (news_foldl_deliver hlog _)
      | otherFunction | noFunction => rfl

theorem takeResult_news :
    (s.takeResult env script ret).2.news =
      ((s.releaseSent env script ret).foldl deliver s).news := by
  rw [releaseSent]
  rcases Int.lt_or_le ret 0 with hret | hret
  · rw [takeResult_of_neg hret, if_pos hret]
    rfl
  · rw [takeResult_of_nonneg hret, if_neg (Int.not_lt.2 hret)]
    have hfreed : ({ s with freed := s.freed ++ [ret] } : Session).news = s.news := rfl
    exact (script.run_news [ret] [] _).trans (news_foldl_deliver hfreed _)

/-- When the guest has had its last turn its pieces have been delivered. -/
theorem finished_news :
    (s.finished env guest e b).news =
      ((s.sent env guest e b).foldl deliver (s.setUp env e).session).news := by
  have henter : (s.enter env guest e b).2.news = _ := call_news e.name (s.setUp env e).parameters
  rw [finished, sent, List.foldl_append]
  generalize s.enter env guest e b = entered at henter ⊢
  rcases entered with ⟨_ | ret, t⟩
  · exact henter
  · exact takeResult_news.trans (news_foldl_deliver henter _)

/-! ## Moments of a call -/

/-- The sessions a guest passes through when it is called. -/
def callMoments (env : Environment) (guest : Guest) (name : String) (parameters : List Int)
    (script : Script) (s : Session) : List Session :=
  if !guest.features.supports name then []
  else match guest.entryPoints.lookup name with
    | some .function => script.moments env parameters [] (s.log (.enter name parameters))
    | _ => []

/-- The sessions a guest passes through when a frame is given back. -/
def releaseMoments (env : Environment) (script : Script) (ret : Int) (s : Session) :
    List Session :=
  if ret < 0 then [] else script.moments env [ret] [] { s with freed := s.freed ++ [ret] }

/-- The sessions a guest passes through during a call, beginning with the one it is called in. -/
def moments (env : Environment) (guest : Guest) (e : Entry) (b : Behaviour) (s : Session) :
    List Session :=
  let call := s.setUp env e
  call.session :: (call.session.callMoments env guest e.name call.parameters b.work ++
    match s.enter env guest e b with
    | (.error _, _) => []
    | (.ok ret, t) => t.releaseMoments env b.release ret)

theorem callMoments_news (name : String) (parameters : List Int) :
    ∀ t ∈ s.callMoments env guest name parameters script,
      ∃ pieces, pieces <+: s.callSent env guest name parameters script ∧
        t.news = (pieces.foldl deliver s).news := by
  rw [callMoments, callSent]
  split
  · exact List.forall_mem_nil _
  · rcases guest.entryPoints.lookup name with _ | kind
    · exact List.forall_mem_nil _
    · cases kind with
      | function =>
        intro t ht
        obtain ⟨pieces, hpieces, ht⟩ := script.moments_news parameters [] _ t ht
        have hlog : (s.log (.enter name parameters)).news = s.news := rfl
        exact ⟨pieces, hpieces, ht.trans (news_foldl_deliver hlog _)⟩
      | otherFunction | noFunction => exact List.forall_mem_nil _

theorem releaseMoments_news :
    ∀ t ∈ s.releaseMoments env script ret, ∃ pieces, pieces <+: s.releaseSent env script ret ∧
      t.news = (pieces.foldl deliver s).news := by
  rw [releaseMoments, releaseSent]
  split
  · exact List.forall_mem_nil _
  · intro t ht
    obtain ⟨pieces, hpieces, ht⟩ := script.moments_news [ret] [] _ t ht
    have hfreed : ({ s with freed := s.freed ++ [ret] } : Session).news = s.news := rfl
    exact ⟨pieces, hpieces, ht.trans (news_foldl_deliver hfreed _)⟩

/-- At every moment of a call some of its pieces have been delivered, the first ones. -/
theorem moments_news :
    ∀ t ∈ s.moments env guest e b, ∃ pieces, pieces <+: s.sent env guest e b ∧
      t.news = (pieces.foldl deliver (s.setUp env e).session).news := by
  have henter : (s.enter env guest e b).2.news = _ := call_news e.name (s.setUp env e).parameters
  rw [moments, sent]
  refine List.forall_mem_cons.2 ⟨⟨[], List.nil_prefix, rfl⟩, List.forall_mem_append.2 ⟨?_, ?_⟩⟩
  · intro t ht
    obtain ⟨pieces, hpieces, ht⟩ := callMoments_news _ _ t ht
    exact ⟨pieces, hpieces.trans (List.prefix_append _ _), ht⟩
  · generalize s.enter env guest e b = entered at henter ⊢
    rcases entered with ⟨_ | ret, u⟩
    · exact List.forall_mem_nil _
    · intro t ht
      obtain ⟨pieces, hpieces, ht⟩ := releaseMoments_news t ht
      refine ⟨_, (List.prefix_append_right_inj _).2 hpieces, ?_⟩
      rw [List.foldl_append]
      exact ht.trans (news_foldl_deliver henter _)

/-! ## Waiting for them -/

theorem deliver_mailbox (data : Bytes) : (s.deliver data).mailbox = (s.mailbox.deliver data).2 :=
  (foldl_publish_spares _).mailbox

/-- A handler has got some pieces under a number; all the others have other numbers, and make
nothing of a kind. -/
structure Listens (s : Session) (kind : Streamed → Prop) (id : Nat)
    (handler : Option Streamed → Bytes → Option Streamed) (pieces : List Bytes) : Prop where
  /-- It has been registered last. -/
  registrations : ∃ others, s.mailbox.registrations =
    others ++ [⟨id, handler, pieces.foldl handler none, true⟩] ∧
      ∀ r ∈ others, r.id ≠ id ∧ r.Avoids kind

variable {kind : Streamed → Prop} {id : Nat}
  {handler : Option Streamed → Bytes → Option Streamed} {pieces : List Bytes}

theorem Listens.of_news (h : s.Listens kind id handler pieces) (hnews : t.news = s.news) :
    t.Listens kind id handler pieces := by
  have hmailbox : t.mailbox = s.mailbox := congrArg Prod.fst hnews
  obtain ⟨others, hregistrations, hothers⟩ := h.registrations
  exact ⟨others, by rw [hmailbox, hregistrations], hothers⟩

theorem Listens.deliver (h : s.Listens kind id handler pieces) (data : Bytes) :
    (s.deliver data).Listens kind id handler (pieces ++ [data]) := by
  obtain ⟨others, hregistrations, hothers⟩ := h.registrations
  refine ⟨others.map (·.deliver data), ?_, fun r hr ↦ ?_⟩
  · rw [deliver_mailbox, Mailbox.deliver_eq]
    simp only [hregistrations, List.map_append, List.foldl_append]
    rfl
  · obtain ⟨r, hmem, rfl⟩ := List.mem_map.1 hr
    rw [Registration.id_deliver]
    exact ⟨(hothers r hmem).1, (hothers r hmem).2.deliver data⟩

/-- When a piece is delivered the handler is run last, and nobody before it makes anything of the
kind. -/
theorem Listens.runs_deliver (h : s.Listens kind id handler pieces) (data : Bytes) :
    ∃ others, (s.mailbox.deliver data).1 =
        others ++ [⟨id, pieces.foldl handler none, (pieces ++ [data]).foldl handler none⟩] ∧
      ∀ r ∈ others, ∀ x ∈ r.made, ¬kind x := by
  obtain ⟨others, hregistrations, hothers⟩ := h.registrations
  refine ⟨(others.filter (·.live)).map (·.run data), ?_, fun r hr ↦ ?_⟩
  · rw [Mailbox.deliver_eq]
    simp only [hregistrations, List.filter_append, List.map_append, List.foldl_append]
    rfl
  · obtain ⟨r, hmem, rfl⟩ := List.mem_map.1 hr
    exact (hothers r (List.mem_of_mem_filter hmem)).2.run data

theorem Listens.foldl_deliver (h : s.Listens kind id handler pieces) (later : List Bytes) :
    (later.foldl Session.deliver s).Listens kind id handler (pieces ++ later) := by
  induction later generalizing s pieces with
  | nil => simpa using h
  | cons data later ih => simpa using ih (h.deliver data)

/-- What can be looked at is the fold over the pieces. -/
theorem Listens.snapshot_eq (h : s.Listens kind id handler pieces) :
    s.mailbox.snapshot id = pieces.foldl handler none := by
  obtain ⟨others, hregistrations, hothers⟩ := h.registrations
  have hnone : others.find? (·.id = id) = none :=
    List.find?_eq_none.2 fun r hr ↦ by simpa using (hothers r hr).1
  rw [Mailbox.snapshot, Mailbox.find?, hregistrations, List.find?_append, hnone]
  simp

/-- A handler is registered when a call is set up, and it has not got anything. -/
theorem setUp_listens (hs : s.mailbox.IsNumbered)
    (hquiet : ∀ r ∈ s.mailbox.registrations, r.Avoids kind)
    (hhandler : e.handler env.config.sourceKey = some handler) :
    (s.setUp env e).registration = some s.mailbox.nextId ∧
      (s.setUp env e).session.Listens kind s.mailbox.nextId handler [] := by
  have hbegin := (begin_spares e s).mailbox
  rw [setUp, hhandler]
  dsimp only
  rw [place_eq, ← hbegin]
  refine ⟨rfl, ⟨s.mailbox.registrations, ?_, fun r hr ↦ ⟨?_, hquiet r hr⟩⟩⟩
  · rw [← hbegin]
    rfl
  · exact hbegin ▸ Nat.ne_of_lt (hs _ (List.mem_map_of_mem hr))

/-- When the guest has had its last turn the handler has got everything that has been sent. -/
theorem finished_listens (h : (s.setUp env e).session.Listens kind id handler []) :
    (s.finished env guest e b).Listens kind id handler (s.sent env guest e b) :=
  (h.foldl_deliver (s.sent env guest e b)).of_news finished_news

/-! ## Publishing -/

/-- Who makes no home screen publishes none. -/
theorem homeUpdate_foldl_publish {runs : List (Mailbox.Run Streamed)}
    (h : ∀ r ∈ runs, ∀ x ∈ r.made, ¬x.IsHome) :
    (runs.foldl publish s).homeUpdate = s.homeUpdate := by
  induction runs generalizing s with
  | nil => rfl
  | cons r runs ih =>
    rw [List.forall_mem_cons] at h
    rw [List.foldl_cons, ih h.2, publish]
    split
    · rfl
    · rename_i progress hmade
      exact absurd trivial (h.1 (.home progress) hmade)
    · rfl

/-- After a piece the home screen is the one the handler has made, if it has made any. -/
theorem Listens.homeUpdate_deliver (h : s.Listens Streamed.IsHome id handler pieces)
    (data : Bytes) :
    (s.deliver data).homeUpdate =
      ((Entry.homeProgress ((pieces ++ [data]).foldl handler none)).home <|> s.homeUpdate) := by
  obtain ⟨others, hruns, hothers⟩ := h.runs_deliver data
  rw [deliver_eq_foldl, hruns, List.foldl_append, List.foldl_cons, List.foldl_nil, publish]
  have hquiet := homeUpdate_foldl_publish
    (s := { s with mailbox := (s.mailbox.deliver data).2 }) hothers
  split <;> rename_i hmade <;> dsimp only at hmade <;> rw [hmade] <;>
    simp [Entry.homeProgress, hquiet]

end Session

end SourceHost
