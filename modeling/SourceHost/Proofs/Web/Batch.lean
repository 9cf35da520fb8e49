import SourceHost.Proofs.Functions.AllOrNothing
import SourceHost.Proofs.RateLimit.Race

/-!
# Requests that are sent together

A guest can have several requests sent at once.  Everything is prepared before anything is sent, the
requests wait for the rate limit together, and what has become of them is written down when the last
one has been answered.  One after the other each would be prepared, sent and written down before the
next.  This file says that nobody can tell the difference by what the requests hold afterwards.

* `Environment.outcome` — what becomes of a request that is sent, which the rate limit has no say in.
* `Environment.Crashes` — serving one of several requests breaks down.
* `Session.Sent` — some requests have been sent, and each has taken one permit.
* `Batch.Serves`, `Batch.run_cases` — round after round, all requests of a batch are served in its
  order, or one of them breaks down.
* `answerEach` — requests under several handles are answered in turn.
* `sendEach_spec`, `recordAll_eq` — that is what sending them one after the other comes to, and what
  sending them together comes to.
* `batchAsSingles` — so a batch is as good as its single requests.
-/

set_option autoImplicit false

namespace SourceHost

variable {env : Environment} {s t u : Session} {h k : Handle}

/-! ## What becomes of a request -/

/-- What becomes of a request that is sent when so many have been dispatched before. -/
def Environment.outcome (env : Environment) (sent : Nat) (http : HttpRequest) (url : Url) :
    Except String Response :=
  match env.web sent http with
  | .refusal reason => .error reason
  | .crash => .error (Session.workFailure .workerLost)
  | .response _ response finalUrl => Session.receive env url response finalUrl

/-- Serving one of several requests breaks down that are dispatched in turn, when so many have been
before. -/
def Environment.Crashes (env : Environment) (sent : Nat) (https : List HttpRequest) : Prop :=
  ∃ p ∈ https.zipIdx sent, env.web p.2 p.1 = .crash

instance (sent : Nat) (https : List HttpRequest) : Decidable (env.Crashes sent https) :=
  inferInstanceAs (Decidable (∃ p ∈ https.zipIdx sent, env.web p.2 p.1 = .crash))

theorem Environment.not_crashes_nil (sent : Nat) : ¬env.Crashes sent [] := by
  simp [Crashes]

theorem Environment.crashes_cons_iff {sent : Nat} {http : HttpRequest} {https : List HttpRequest} :
    env.Crashes sent (http :: https) ↔
      env.web sent http = .crash ∨ env.Crashes (sent + 1) https := by
  rw [Crashes, List.zipIdx_cons, List.exists_mem_cons_iff, Crashes]

theorem Environment.crashes_append_iff {sent : Nat} {https https' : List HttpRequest} :
    env.Crashes sent (https ++ https') ↔
      env.Crashes sent https ∨ env.Crashes (sent + https.length) https' := by
  simp only [Crashes, List.zipIdx_append, List.mem_append, or_and_right, exists_or]

/-- If an answer depends on the request only, so does what breaks down. -/
theorem Environment.crashes_iff_of_steady {answers : HttpRequest → Answer}
    (h : env.web = fun _ ↦ answers) {sent : Nat} {https : List HttpRequest} :
    env.Crashes sent https ↔ ∃ http ∈ https, answers http = .crash := by
  induction https generalizing sent with
  | nil => simp [Crashes]
  | cons http https ih => rw [crashes_cons_iff, ih, List.exists_mem_cons_iff, h]

/-- The window after requests have been admitted at some moments, if it admits all of them. -/
def Window.admitEach (w : Window) : List Nat → Option Window
  | [] => some w
  | t :: ts => (w.tryAdmit t).toOption.bind fun w ↦ w.admitEach ts

theorem Window.admitEach_append {w : Window} {ts us : List Nat} :
    w.admitEach (ts ++ us) = (w.admitEach ts).bind (·.admitEach us) := by
  induction ts generalizing w with
  | nil => rfl
  | cons t ts ih =>
    rw [List.cons_append, admitEach, admitEach, Option.bind_assoc]
    exact congrArg _ (funext fun w ↦ ih)

/-- Whoever waits is admitted. -/
theorem Window.admitEach_acquire (w : Window) (t : Nat) :
    w.admitEach [(w.acquire t).1] = some (w.acquire t).2 := by
  have hok {w w' : Window} {t : Nat} (h : w.tryAdmit t = .ok w') : w.admitEach [t] = some w' := by
    rw [admitEach, h]
    rfl
  rw [acquire]
  cases h : w.tryAdmit t with
  | ok w' => exact hok h
  | error wake =>
    obtain ⟨-, w', h'⟩ := exists_tryAdmit_of_error h
    simp only [h']
    exact hok h'

namespace Session

/-- Some requests have been sent, each at a moment at which the rate limit admitted it. -/
def Sent (s t : Session) (https : List HttpRequest) : Prop :=
  t.dispatched = s.dispatched + https.length ∧
  ∃ told, t.requests = s.requests ++ told ∧ told.map (·.2) = https ∧
    s.window.admitEach (told.map (·.1)) = some t.window

theorem Sent.refl (s : Session) : s.Sent s [] := ⟨rfl, [], (List.append_nil _).symm, rfl, rfl⟩

theorem Sent.trans {https https' : List HttpRequest} (h : s.Sent t https) (h' : t.Sent u https') :
    s.Sent u (https ++ https') := by
  obtain ⟨hsent, told, hrequests, rfl, hwindow⟩ := h
  obtain ⟨hsent', told', hrequests', rfl, hwindow'⟩ := h'
  refine ⟨?_, told ++ told', ?_, List.map_append, ?_⟩
  · rw [hsent', hsent, List.length_append, Nat.add_assoc]
  · rw [hrequests', hrequests, List.append_assoc]
  · rw [List.map_append, Window.admitEach_append, hwindow]
    exact hwindow'

/-! ## Writing down what has become of requests -/

theorem request_replace {a : Arena} {q : Request} :
    (a.replace h (.request q)).request k = if k = h then .ok q else a.request k := by
  rw [Arena.request, Arena.lookup, Arena.fetch_replace]
  by_cases hk : k = h
  · rw [if_pos hk, if_pos hk]
    rfl
  · rw [if_neg hk, if_neg hk]
    rfl

theorem toHttp_complete (q : Request) (outcome : Except String Response) :
    (q.complete outcome).toHttp = q.toHttp ∧ (q.complete outcome).url = q.url := by
  cases outcome <;> exact ⟨rfl, rfl⟩

/-- What has become of a request has no influence on how it is sent again, nor on any other. -/
theorem prepare_record (a : Arena) (h : Handle) (outcome : Except String Response) (k : Handle) :
    prepare (record a h outcome).2 k = prepare a k := by
  rw [record]
  split
  · rfl
  · rename_i q hq
    rw [prepare, request_replace]
    by_cases hk : k = h
    · obtain ⟨hhttp, hurl⟩ := toHttp_complete q outcome
      rw [if_pos hk, hk, prepare, hq]
      simp only [hhttp, hurl]
    · rw [if_neg hk]
      rfl

/-- The requests under several handles are answered in turn, when so many have been dispatched
before: the status of each, and the arena then. -/
def answerEach (env : Environment) (sent : Nat) (a : Arena) : List Handle → List NetStatus × Arena
  | [] => ([], a)
  | h :: handles => match prepare a h with
    | .error status =>
      let (statuses, a) := answerEach env sent a handles
      (status :: statuses, a)
    | .ok (http, url) =>
      let (status, a) := record a h (env.outcome sent http url)
      let (statuses, a) := answerEach env (sent + 1) a handles
      (status :: statuses, a)

/-- What is sent of the requests under several handles. -/
def prepared (a : Arena) (handles : List Handle) : List (HttpRequest × Url) :=
  handles.filterMap fun h ↦ (prepare a h).toOption

theorem prepared_record (a : Arena) (h : Handle) (outcome : Except String Response)
    (handles : List Handle) : prepared (record a h outcome).2 handles = prepared a handles := by
  simp only [prepared, prepare_record]

/-! ## One after the other -/

/-- The requests under several handles are sent one after the other: what is returned for each, and
the session then. -/
def sendEach (env : Environment) (s : Session) : List Handle → List Int × Session
  | [] => ([], s)
  | h :: handles =>
    let (code, s) := s.send env h
    let (codes, s) := sendEach env s handles
    (code :: codes, s)

theorem sent_dispatch (http : HttpRequest) (url : Url) :
    s.Sent (s.dispatch env http url).2 [http] := by
  have hwindow := s.window.admitEach_acquire s.now
  rw [dispatch]
  dsimp only
  split <;> exact ⟨rfl, [_], rfl, rfl, hwindow⟩

theorem dispatch_fst (http : HttpRequest) (url : Url) :
    (s.dispatch env http url).1 = .done (env.outcome s.dispatched http url) ∨
      (s.dispatch env http url).1 = .panic ∧
        env.outcome s.dispatched http url = .error (workFailure .workerLost) := by
  rw [dispatch, Environment.outcome]
  dsimp only
  cases env.web s.dispatched http with
  | crash => exact .inr ⟨rfl, rfl⟩
  | refusal | response => exact .inl rfl

/-- A request that can be sent is sent, and what becomes of it is written down. -/
theorem send_of_prepare {http : HttpRequest} {url : Url} (hruntime : env.runtime = .running)
    (hprepare : prepare s.arena h = .ok (http, url)) :
    let r := record s.arena h (env.outcome s.dispatched http url)
    (s.send env h).1 = r.1.code ∧ (s.send env h).2.arena = r.2 ∧
      s.Sent (s.send env h).2 [http] := by
  have hspares : s.Spares (s.dispatch env http url).2 := dispatch_spares http url
  have hsent : s.Sent (s.dispatch env http url).2 [http] := sent_dispatch http url
  have houtcome := @dispatch_fst env s http url
  simp only [send, hprepare, hruntime]
  generalize s.dispatch env http url = dispatched at hspares hsent houtcome ⊢
  obtain ⟨work, t⟩ := dispatched
  have harena : t.arena = s.arena := hspares.arena
  rcases houtcome with rfl | ⟨rfl, houtcome⟩
  · rw [harena]
    exact ⟨rfl, rfl, hsent⟩
  · rw [harena, houtcome]
    exact ⟨rfl, rfl, hsent⟩

/-- What sending requests one after the other comes to. -/
theorem sendEach_spec (hruntime : env.runtime = .running) (handles : List Handle) :
    let r := answerEach env s.dispatched s.arena handles
    (s.sendEach env handles).1 = r.1.map (·.code) ∧ (s.sendEach env handles).2.arena = r.2 ∧
      s.Sent (s.sendEach env handles).2 ((prepared s.arena handles).map (·.1)) := by
  induction handles generalizing s with
  | nil => exact ⟨rfl, rfl, .refl s⟩
  | cons h handles ih =>
    simp only [sendEach, answerEach, prepared, List.filterMap_cons]
    cases hprepare : prepare s.arena h with
    | error status =>
      rw [send, hprepare]
      obtain ⟨hcodes, harena, hsent⟩ := ih (s := s)
      exact ⟨congrArg _ hcodes, harena, hsent⟩
    | ok p =>
      obtain ⟨http, url⟩ := p
      obtain ⟨hcode, harena, hsent⟩ := send_of_prepare hruntime hprepare
      obtain ⟨hcodes, harena', hsent'⟩ := ih (s := (s.send env h).2)
      have hnumber : (s.send env h).2.dispatched = s.dispatched + 1 := hsent.1
      rw [harena, hnumber] at hcodes harena'
      rw [harena, prepared_record] at hsent'
      exact ⟨by rw [hcode, hcodes]; rfl, harena', hsent.trans hsent'⟩

/-! ## Together -/

namespace Batch

variable {b b' b'' : Batch} {ds ds' : List Dispatch} {now wake : Nat}

/-- Requests are served in turn, each at some moment at which it is admitted. -/
inductive Serves (env : Environment) : Batch → List Dispatch → Batch → Prop
  | done (b : Batch) : Serves env b [] b
  | next {b b' b'' : Batch} {d : Dispatch} {ds : List Dispatch} {now : Nat} {window : Window}
      (hwindow : b.window.tryAdmit now = .ok window)
      (hserved : b.serve env window now d = (true, b')) (hrest : Serves env b' ds b'') :
      Serves env b (d :: ds) b''

theorem Serves.append (h : Serves env b ds b') (h' : Serves env b' ds' b'') :
    Serves env b (ds ++ ds') b'' := by
  induction h with
  | done b => exact h'
  | next hwindow hserved _ ih => exact .next hwindow hserved (ih h')

/-- A request that has been admitted is sent and answered, unless serving it breaks down. -/
theorem serve_cases (window : Window) (now : Nat) (d : Dispatch) :
    ((b.serve env window now d).1 = true ∧ env.web b.dispatched d.http ≠ .crash ∧
      (b.serve env window now d).2.outcomes =
        b.outcomes ++ [(d.index, env.outcome b.dispatched d.http d.url)]) ∨
      ((b.serve env window now d).1 = false ∧ env.web b.dispatched d.http = .crash) := by
  rw [serve, Environment.outcome]
  dsimp only
  cases env.web b.dispatched d.http with
  | refusal reason => exact .inl ⟨rfl, nofun, rfl⟩
  | crash => exact .inr ⟨rfl, rfl⟩
  | response delay response finalUrl => exact .inl ⟨rfl, nofun, rfl⟩

theorem sent_serve (window : Window) (now : Nat) (d : Dispatch) :
    (b.serve env window now d).2.window = window ∧
      (b.serve env window now d).2.dispatched = b.dispatched + 1 ∧
      (b.serve env window now d).2.requests = b.requests ++ [(now, d.http)] := by
  rw [serve]
  dsimp only
  cases env.web b.dispatched d.http <;> exact ⟨rfl, rfl, rfl⟩

/-- What becomes of requests that are dispatched in turn, when so many have been before, by their
places. -/
def outcomesOf (env : Environment) (sent : Nat) (ds : List Dispatch) :
    List (Nat × Except String Response) :=
  (ds.zipIdx sent).map fun (d, n) ↦ (d.index, env.outcome n d.http d.url)

/-- What requests come to that have been served. -/
theorem Serves.spec (h : Serves env b ds b') :
    (b'.dispatched = b.dispatched + ds.length ∧
      ∃ told, b'.requests = b.requests ++ told ∧ told.map (·.2) = ds.map (·.http) ∧
        b.window.admitEach (told.map (·.1)) = some b'.window) ∧
    b'.outcomes = b.outcomes ++ outcomesOf env b.dispatched ds ∧
    ¬env.Crashes b.dispatched (ds.map (·.http)) := by
  induction h with
  | done b =>
    exact ⟨⟨rfl, [], (List.append_nil _).symm, rfl, rfl⟩, (List.append_nil _).symm,
      Environment.not_crashes_nil _⟩
  | @next b b₁ b₂ d ds now window hwindow hserved _ ih =>
    obtain ⟨⟨hnumber, told, hrequests, hhttp, htold⟩, houtcomes, hfine⟩ := ih
    obtain ⟨hwindow₁, hnumber₁, hrequests₁⟩ := @sent_serve env b window now d
    rcases @serve_cases env b window now d with ⟨-, hfine₁, houtcomes₁⟩ | ⟨hfalse, -⟩
    · rw [hserved] at hwindow₁ hnumber₁ hrequests₁ houtcomes₁
      rw [hnumber₁] at hnumber houtcomes hfine
      refine ⟨⟨?_, (now, d.http) :: told, ?_, congrArg _ hhttp, ?_⟩, ?_, ?_⟩
      · rw [hnumber, List.length_cons, Nat.add_assoc, Nat.add_comm 1]
      · rw [hrequests, hrequests₁, List.append_assoc]
        rfl
      · rw [List.map_cons, Window.admitEach, hwindow]
        rw [hwindow₁] at htold
        exact htold
      · rw [houtcomes, houtcomes₁, List.append_assoc, outcomesOf, outcomesOf, List.zipIdx_cons]
        rfl
      · rw [List.map_cons, Environment.crashes_cons_iff]
        exact not_or.2 ⟨hfine₁, hfine⟩
    · rw [hserved] at hfalse
      cases hfalse

/-- When one is refused so are all that come after it. -/
theorem round_of_error (h : b.window.tryAdmit now = .error wake) (d : Dispatch)
    (ds : List Dispatch) : b.round env now (d :: ds) = .done b (d :: ds) (some wake) := by
  induction ds generalizing d with
  | nil => simp only [round, h]
  | cons d' ds ih =>
    rw [round, h]
    simp only [ih]

/-- In a round all requests are served, or some of them and the others have to wait, or one of them
breaks down. -/
theorem round_cases (env : Environment) (now : Nat) (b : Batch) (ds : List Dispatch) :
    (∃ b', b.round env now ds = .done b' [] none ∧ Serves env b ds b') ∨
    (∃ b' front d back wake, b.round env now ds = .done b' (d :: back) (some wake) ∧
      ds = front ++ d :: back ∧ Serves env b front b' ∧ b'.window.tryAdmit now = .error wake ∧
      ∀ w, b.window.tryAdmit now = .ok w → front ≠ []) ∨
    ∃ b', b.round env now ds = .crashed b' ∧ env.Crashes b.dispatched (ds.map (·.http)) := by
  induction ds generalizing b with
  | nil => exact .inl ⟨b, rfl, .done b⟩
  | cons d ds ih =>
    cases hwindow : b.window.tryAdmit now with
    | error wake =>
      exact .inr (.inl ⟨b, [], d, ds, wake, round_of_error hwindow d ds, rfl, .done b, hwindow, nofun⟩)
    | ok window =>
      simp only [round, hwindow]
      rcases hserved : b.serve env window now d with ⟨_ | _, b₁⟩
      · rcases @serve_cases env b window now d with ⟨htrue, -⟩ | ⟨-, hcrash⟩
        · rw [hserved] at htrue
          cases htrue
        · exact .inr (.inr ⟨b₁, rfl, Environment.crashes_cons_iff.2 (.inl hcrash)⟩)
      · have hnumber : b₁.dispatched = b.dispatched + 1 := by
          rw [← (@sent_serve env b window now d).2.1, hserved]
        rcases ih b₁ with ⟨b', hround, hserves⟩ |
          ⟨b', front, d', back, wake, hround, rfl, hserves, herror, -⟩ | ⟨b', hround, hcrash⟩
        · exact .inl ⟨b', hround, .next hwindow hserved hserves⟩
        · exact .inr (.inl ⟨b', d :: front, d', back, wake, hround, rfl,
            .next hwindow hserved hserves, herror, fun _ _ ↦ List.cons_ne_nil _ _⟩)
        · rw [hnumber] at hcrash
          exact .inr (.inr ⟨b', hround, Environment.crashes_cons_iff.2 (.inr hcrash)⟩)

/-- **Round after round, all requests of a batch are served, or one of them breaks down.**  In every
round but the first, which may come to a full window, one of them is served at least. -/
theorem run_cases {rounds : Nat} (hrounds : ds.length < rounds ∨
    ds.length ≤ rounds ∧ ∃ w, b.window.tryAdmit now = .ok w) :
    (∃ now' b', run env rounds now b ds = (true, now', b') ∧ Serves env b ds b') ∨
      ∃ now' b', run env rounds now b ds = (false, now', b') ∧
        env.Crashes b.dispatched (ds.map (·.http)) := by
  induction rounds generalizing b ds now with
  | zero =>
    have hnil : ds = [] := List.eq_nil_of_length_eq_zero (by lia)
    subst hnil
    exact .inl ⟨now, b, rfl, .done b⟩
  | succ rounds ih =>
    rw [run]
    rcases round_cases env now b ds with ⟨b', hround, hserves⟩ |
      ⟨b', front, d, back, wake, hround, rfl, hserves, herror, hpos⟩ | ⟨b', hround, hcrash⟩
    · rw [hround]
      exact .inl ⟨now, b', rfl, hserves⟩
    · have hfewer : (d :: back).length ≤ rounds := by
        rw [List.length_append] at hrounds
        rcases hrounds with hlt | ⟨hle, w, hok⟩
        · lia
        · have := List.length_pos_iff.2 (hpos w hok)
          lia
      rw [hround]
      rcases ih (.inr ⟨hfewer, (Window.exists_tryAdmit_of_error herror).2⟩) with
        ⟨now', b'', hrun, hserves'⟩ | ⟨now', b'', hrun, hcrash⟩
      · exact .inl ⟨now', b'', hrun, hserves.append hserves'⟩
      · refine .inr ⟨now', b'', hrun, ?_⟩
        rw [List.map_append, Environment.crashes_append_iff, List.length_map]
        exact .inr (hserves.spec.1.1 ▸ hcrash)
    · rw [hround]
      exact .inr ⟨now, b', rfl, hcrash⟩

/-- There are rounds enough for the whole batch. -/
theorem run_whole_cases (env : Environment) (s : Session) (ds : List Dispatch) :
    let b : Batch := { window := s.window, dispatched := s.dispatched, finish := s.now }
    (∃ now b', run env (ds.length + 1) s.now b ds = (true, now, b') ∧ Serves env b ds b') ∨
      ∃ now b', run env (ds.length + 1) s.now b ds = (false, now, b') ∧
        env.Crashes s.dispatched (ds.map (·.http)) :=
  run_cases (.inl (Nat.lt_add_one ds.length))

end Batch

/-- The requests of a batch that can be sent; the first handle is the one at a given place. -/
def dispatches (a : Arena) (handles : List Handle) (start : Nat) : List Dispatch :=
  ((handles.zipIdx start).map fun (h, i) ↦ (h, i, prepare a h)).filterMap fun (_, index, p) ↦
    p.toOption.map fun (http, url) ↦ { index, http, url : Dispatch }

variable {a a₀ : Arena} {handles : List Handle} {start : Nat}

theorem dispatches_of_error {status : NetStatus} (h' : prepare a h = .error status) :
    dispatches a (h :: handles) start = dispatches a handles (start + 1) := by
  simp [dispatches, h', Except.toOption]

theorem dispatches_of_ok {http : HttpRequest} {url : Url} (h' : prepare a h = .ok (http, url)) :
    dispatches a (h :: handles) start = ⟨start, http, url⟩ :: dispatches a handles (start + 1) := by
  simp [dispatches, h', Except.toOption]

theorem map_http_dispatches :
    (dispatches a handles start).map (·.http) = (prepared a handles).map (·.1) := by
  induction handles generalizing start with
  | nil => rfl
  | cons h handles ih =>
    rw [prepared, List.filterMap_cons, ← prepared]
    cases hprepare : prepare a h with
    | error status =>
      rw [dispatches_of_error hprepare]
      exact ih
    | ok p =>
      rw [dispatches_of_ok hprepare, List.map_cons, ih]
      rfl

/-- What became of a request of a batch is found at its place.  So many have been dispatched before
it as can be sent of those in front of it. -/
theorem lookup_outcomesOf {http : HttpRequest} {url : Url} {sent j : Nat}
    (hj : handles[j]? = some h) (hprepare : prepare a h = .ok (http, url)) :
    (Batch.outcomesOf env sent (dispatches a handles start)).lookup (start + j) =
      some (env.outcome (sent + (prepared a (handles.take j)).length) http url) := by
  induction handles generalizing start sent j with
  | nil => cases hj
  | cons k handles ih =>
    cases j with
    | zero =>
      obtain rfl := Option.some.inj hj
      rw [dispatches_of_ok hprepare, Batch.outcomesOf, List.zipIdx_cons, List.map_cons, Nat.add_zero,
        List.lookup_cons_self]
      rfl
    | succ j =>
      have hnext : start + (j + 1) = start + 1 + j := by lia
      have hrest (sent : Nat) := @ih (start + 1) sent j hj
      rw [List.take_succ_cons, prepared, List.filterMap_cons, ← prepared]
      cases hk : prepare a k with
      | error status => rw [dispatches_of_error hk, hnext, hrest]; rfl
      | ok p =>
        have hne : (start + 1 + j == start) = false := by
          rw [beq_eq_false_iff_ne]
          lia
        rw [dispatches_of_ok hk, Batch.outcomesOf, List.zipIdx_cons, List.map_cons,
          List.lookup_cons, hnext, hne]
        refine (hrest (sent + 1)).trans ?_
        rw [Nat.add_assoc, Nat.add_comm 1]
        rfl

/-- Writing down what became of the requests of a batch is answering them in turn, since none of
them is prepared otherwise when it comes to it. -/
theorem recordAll_eq {outcomes : List (Nat × Except String Response)} {sent : Nat}
    (hprepare : ∀ h, prepare a h = prepare a₀ h)
    (houtcomes : ∀ j h http url, handles[j]? = some h → prepare a₀ h = .ok (http, url) →
      outcomes.lookup (start + j) =
        some (env.outcome (sent + (prepared a₀ (handles.take j)).length) http url)) :
    recordAll outcomes a ((handles.zipIdx start).map fun (h, i) ↦ (h, i, prepare a₀ h)) =
      answerEach env sent a handles := by
  induction handles generalizing a start sent with
  | nil => rfl
  | cons h handles ih =>
    have hlater {sent' : Nat} (hsent' : ∀ j, sent' + (prepared a₀ (handles.take j)).length =
          sent + (prepared a₀ ((h :: handles).take (j + 1))).length)
        (j : Nat) (k : Handle) (http : HttpRequest) (url : Url) (hj : handles[j]? = some k)
        (hk : prepare a₀ k = .ok (http, url)) : outcomes.lookup (start + 1 + j) =
          some (env.outcome (sent' + (prepared a₀ (handles.take j)).length) http url) := by
      rw [Nat.add_assoc, Nat.add_comm 1, hsent']
      exact houtcomes (j + 1) k http url hj hk
    have hcons (j : Nat) : prepared a₀ ((h :: handles).take (j + 1)) =
        (prepare a₀ h).toOption.toList ++ prepared a₀ (handles.take j) := by
      rw [List.take_succ_cons, prepared, List.filterMap_cons, ← prepared]
      cases (prepare a₀ h).toOption <;> rfl
    simp only [List.zipIdx_cons, List.map_cons, recordAll, answerEach, hprepare h]
    cases hhead : prepare a₀ h with
    | error status =>
      have hsame (j : Nat) : sent + (prepared a₀ (handles.take j)).length =
          sent + (prepared a₀ ((h :: handles).take (j + 1))).length := by
        rw [hcons, hhead]
        rfl
      simp only [ih hprepare (hlater hsame)]
    | ok p =>
      obtain ⟨http, url⟩ := p
      have houtcome := houtcomes 0 h http url rfl hhead
      rw [Nat.add_zero] at houtcome
      simp only [houtcome]
      have hone (j : Nat) : sent + 1 + (prepared a₀ (handles.take j)).length =
          sent + (prepared a₀ ((h :: handles).take (j + 1))).length := by
        rw [hcons, hhead, List.length_append, Nat.add_assoc]
        rfl
      rw [ih (fun k ↦ (prepare_record a h _ k).trans (hprepare k)) (hlater hone)]
      rfl

theorem length_answerEach {sent : Nat} :
    (answerEach env sent a handles).1.length = handles.length := by
  induction handles generalizing a sent with
  | nil => rfl
  | cons h handles ih =>
    rw [answerEach]
    cases prepare a h <;> exact congrArg (· + 1) ih

/-! ## The place of a batch in memory -/

theorem handlesAt_eq_ok_iff {ptr count : Int} : s.handlesAt ptr count = .ok handles ↔
    (0 ≤ ptr ∧ 0 ≤ count ∧ count.toNat * 4 < capacity 32 ∧
      ptr.toNat + count.toNat * 4 ≤ s.memory.size) ∧
    Memory.integers (s.memory.between ptr.toNat (ptr.toNat + count.toNat * 4)) = handles := by
  rw [handlesAt, Memory.offset, Memory.offset]
  by_cases hptr : 0 ≤ ptr <;> by_cases hcount : 0 ≤ count <;>
    simp only [hptr, hcount, if_true, if_false, bind, Except.bind, Memory.readIntegers_eq]
  · split <;> simp [*]
  all_goals simp

/-- The codes of statuses are integers of 32 bits. -/
theorem forall_code_bounds (statuses : List NetStatus) :
    ∀ i ∈ statuses.map (·.code), -(capacity 31 : Int) ≤ i ∧ i < capacity 31 := by
  intro i hi
  obtain ⟨status, -, rfl⟩ := List.mem_map.1 hi
  cases status <;> decide

theorem all_success_iff (statuses : List NetStatus) :
    statuses.all (· = .success) = true ↔ ∀ code ∈ statuses.map (·.code), code = 0 := by
  have hcode (status : NetStatus) : status = .success ↔ status.code = 0 := by
    cases status <;> decide
  simp [hcode]

/-- A list of as many integers can be put in the place of a batch. -/
theorem writeAt_of_handlesAt {ptr count : Int} {codes : List Int}
    (hread : s.handlesAt ptr count = .ok handles) (hlength : codes.length = handles.length)
    (hcodes : ∀ i ∈ codes, -(capacity 31 : Int) ≤ i ∧ i < capacity 31)
    (hmemory : t.memory = s.memory) :
    ∃ u, t.writeAt ptr (codes.flatMap Memory.integerBytes) = .ok u ∧
      u = { t with memory := u.memory } ∧
      s.memory.Overwrites ptr.toNat (codes.flatMap Memory.integerBytes) u.memory ∧
      u.handlesAt ptr count = .ok codes := by
  obtain ⟨⟨hptr, hcount, hfew, hroom⟩, hhandles⟩ := handlesAt_eq_ok_iff.1 hread
  have hbatch : handles.length = count.toNat := by
    rw [← hhandles]
    refine Memory.length_integers ?_
    rw [Memory.length_between]
    lia
  have hbytes : (codes.flatMap Memory.integerBytes).length = count.toNat * 4 := by
    rw [Memory.length_flatMap_integerBytes, hlength, hbatch, Nat.mul_comm]
  have hwrite := writeAt_eq_ok_iff.2 ⟨⟨hptr, by rw [hbytes, hmemory]; exact hroom⟩, rfl⟩
  have hoverwrites := t.memory.overwrites_put ptr.toNat (codes.flatMap Memory.integerBytes)
  refine ⟨_, hwrite, rfl, hmemory ▸ hoverwrites, handlesAt_eq_ok_iff.2 ⟨⟨hptr, hcount, hfew, ?_⟩, ?_⟩⟩
  · rw [hoverwrites.size, hmemory]
    exact hroom
  · have hholds := hoverwrites.holds
    rw [Memory.Holds, hbytes] at hholds
    dsimp only
    rw [hholds, Memory.integers_flatMap_integerBytes hcodes]

/-- A batch fails as a whole when nobody is there to serve it, and when serving one of its requests
breaks down. -/
def BatchFails (env : Environment) (s : Session) (handles : List Handle) : Prop :=
  env.runtime = .gone ∨ env.Crashes s.dispatched ((prepared s.arena handles).map (·.1))

theorem running_of_not_batchFails (h : ¬BatchFails env s handles) : env.runtime = .running := by
  cases hruntime : env.runtime with
  | running => rfl
  | gone => exact absurd (.inl hruntime) h

variable {ptr count : Int}

/-- What sending requests together comes to when the batch does not fail. -/
theorem sendAll_of_served (hcount : 0 < count) (hread : s.handlesAt ptr count = .ok handles)
    (hfine : ¬BatchFails env s handles) :
    let r := answerEach env s.dispatched s.arena handles
    let codes : List Int := r.1.map (·.code)
    ∃ t, s.sendAll env ptr count = (if ∀ code ∈ codes, code = 0 then 0 else -10, t) ∧
      t.arena = r.2 ∧ s.Sent t ((prepared s.arena handles).map (·.1)) ∧
      s.memory.Overwrites ptr.toNat (codes.flatMap Memory.integerBytes) t.memory ∧
      t.handlesAt ptr count = .ok codes := by
  intro r codes
  have hrunning := running_of_not_batchFails hfine
  let ds := dispatches s.arena handles 0
  rcases Batch.run_whole_cases env s ds with ⟨now, b, hrun, hserves⟩ | ⟨-, -, -, hcrashed⟩
  · obtain ⟨⟨hnumber, told, hrequests, hhttp, hwindow⟩, houtcomes, -⟩ := hserves.spec
    have hrecord : recordAll b.outcomes s.arena
        (handles.zipIdx.map fun (h, i) ↦ (h, i, prepare s.arena h)) = r := by
      refine recordAll_eq (fun _ ↦ rfl) fun j h http url hj hprepare ↦ ?_
      rw [houtcomes]
      exact lookup_outcomesOf hj hprepare
    let t : Session := { s with
      window := b.window, dispatched := b.dispatched, requests := s.requests ++ b.requests
      arena := r.2, now := b.finish }
    have hbounds : ∀ i ∈ codes, -(capacity 31 : Int) ≤ i ∧ i < capacity 31 :=
      forall_code_bounds r.1
    obtain ⟨u, hwrite, hu, hmemory, hcodes⟩ := writeAt_of_handlesAt (t := t) hread
      (by rw [List.length_map, length_answerEach]) hbounds rfl
    refine ⟨u, ?run, by rw [hu], ?sent, hmemory, hcodes⟩
    case run =>
      simp only [ds, dispatches] at hrun
      simp only [codes, List.flatMap_map, t] at hwrite
      simp only at hrecord
      simp only [sendAll, if_neg (Int.not_le.2 hcount), hread, hrunning, hrun, hrecord, hwrite,
        Bool.not_true, Bool.false_eq_true, if_false, all_success_iff, codes]
      split <;> rfl
    case sent =>
      rw [hu]
      refine ⟨?_, told, congrArg (s.requests ++ ·) hrequests, hhttp.trans map_http_dispatches,
        hwindow⟩
      rw [← map_http_dispatches, List.length_map]
      exact hnumber
  · exact absurd (.inr (map_http_dispatches ▸ hcrashed)) hfine

/-- When the batch fails nothing is written down. -/
theorem sendAll_of_fails (hcount : 0 < count) (hread : s.handlesAt ptr count = .ok handles)
    (hfails : BatchFails env s handles) :
    ∃ t, s.sendAll env ptr count = (-10, t) ∧ t.arena = s.arena ∧ t.memory = s.memory := by
  cases hruntime : env.runtime with
  | gone =>
    simp only [sendAll, if_neg (Int.not_le.2 hcount), hread, hruntime]
    exact ⟨_, rfl, rfl, rfl⟩
  | running =>
    have hcrash : env.Crashes s.dispatched ((prepared s.arena handles).map (·.1)) := by
      rcases hfails with hgone | hcrash
      · rw [hruntime] at hgone
        cases hgone
      · exact hcrash
    let ds := dispatches s.arena handles 0
    rcases Batch.run_whole_cases env s ds with ⟨-, b, -, hserves⟩ | ⟨now, b, hrun, -⟩
    · obtain ⟨-, -, hfine⟩ := hserves.spec
      exact absurd (map_http_dispatches ▸ hcrash) hfine
    · simp only [ds, dispatches] at hrun
      simp only [sendAll, if_neg (Int.not_le.2 hcount), hread, hruntime, hrun, Bool.not_false,
        if_true]
      exact ⟨_, rfl, rfl, rfl⟩

/-- What has become of a batch can be written down whenever the batch could be read. -/
theorem sendAll_ne_failedMemoryWrite (ptr count : Int) : (s.sendAll env ptr count).1 ≠ -11 := by
  have hinvalid : NetStatus.invalidDescriptor.code ≠ -11 := by decide
  by_cases hcount : count ≤ 0
  · rw [sendAll, if_pos hcount]
    exact hinvalid
  · cases hread : s.handlesAt ptr count with
    | error e =>
      rw [sendAll, if_neg hcount, hread]
      exact hinvalid
    | ok handles =>
      by_cases hfails : BatchFails env s handles
      · obtain ⟨t, hrun, -⟩ := sendAll_of_fails (Int.not_le.1 hcount) hread hfails
        rw [hrun]
        exact (by decide : (-10 : Int) ≠ -11)
      · obtain ⟨t, hrun, -⟩ := sendAll_of_served (Int.not_le.1 hcount) hread hfails
        rw [hrun]
        dsimp only
        split <;> decide

end Session

open Session

/-- **A batch is as good as its single requests**, if what becomes of a request depends on the
request only.  Of a place at which there are handles, whatever is under them, and one of them
possibly several times:

1. Unless the batch fails as a whole, because nobody is there to serve it or serving one of its
   requests breaks down, the arena is what it is after the requests have been sent one
   after the other.  In the place of each handle stands what is returned when it comes to that
   request, and all other bytes are what they were.  The same requests have been sent, and each has
   taken one permit.  The answer is 0 if that is the status of each, and otherwise -10.
2. If it fails the answer is -10, and the arena and the memory are what they were.

Whatever is at the place, the answer is never -11. -/
theorem batchAsSingles (env : Environment) {answers : HttpRequest → Answer}
    (hweb : env.web = fun _ ↦ answers) (s : Session) (ptr count : Int) :
    let r := s.sendAll env ptr count
    (∀ handles, 0 < count → s.handlesAt ptr count = .ok handles →
      let single := s.sendEach env handles
      let fails := env.runtime = .gone ∨ ∃ p ∈ prepared s.arena handles, answers p.1 = .crash
      (¬fails →
        r.2.arena = single.2.arena ∧
        r.2.handlesAt ptr count = .ok single.1 ∧
        s.memory.Overwrites ptr.toNat (single.1.flatMap Memory.integerBytes) r.2.memory ∧
        (s.Sent r.2 ((prepared s.arena handles).map (·.1)) ∧
          s.Sent single.2 ((prepared s.arena handles).map (·.1))) ∧
        r.1 = if ∀ code ∈ single.1, code = 0 then 0 else -10) ∧
      (fails → r.1 = -10 ∧ r.2.arena = s.arena ∧ r.2.memory = s.memory)) ∧
    r.1 ≠ -11 := by
  intro r
  have hfails_iff (handles : List Handle) : BatchFails env s handles ↔
      env.runtime = .gone ∨ ∃ p ∈ prepared s.arena handles, answers p.1 = .crash := by
    rw [BatchFails, Environment.crashes_iff_of_steady hweb]
    simp
  refine ⟨fun handles hcount hread ↦ ⟨fun hfine ↦ ?served, fun hfails ↦ ?fails⟩, ?never⟩
  case served =>
    replace hfine := mt (hfails_iff handles).1 hfine
    obtain ⟨hcodes, harena, hsent⟩ :=
      sendEach_spec (s := s) (running_of_not_batchFails hfine) handles
    obtain ⟨t, hrun, harena', hsent', hmemory, hread'⟩ := sendAll_of_served hcount hread hfine
    simp only [r, hrun, hcodes]
    exact ⟨harena'.trans harena.symm, hread', hmemory, ⟨hsent', hsent⟩, trivial⟩
  case fails =>
    obtain ⟨t, hrun, harena, hmemory⟩ :=
      sendAll_of_fails hcount hread ((hfails_iff handles).2 hfails)
    simp only [r, hrun]
    exact ⟨trivial, harena, hmemory⟩
  case never => exact sendAll_ne_failedMemoryWrite ptr count

/-- A request twice under a limit of one in a minute, one without an address, a handle under which
nothing is, and a text. -/
theorem batchAsSingles_mixed :
    let env : Environment := {
      config := { sourceKey := "en.here" }
      web := fun _ _ ↦ .response 1 { status := 200, headers := [], frames := [.data [7]] } none
      zones := fun _ ↦ none
    }
    let arena := (((({} : Arena).store
      (.request { method := .get, url := Url.parse? "https://example.org/" })).2.store
      (.request { method := .post })).2.store (.text "a")).2
    let handles : List Handle := [1, 1, 2, 9, 3]
    let s : Session := {
      memory := (Memory.ofPages 1).put 8 (handles.flatMap Memory.integerBytes)
      arena
      window := { permits := 1, period := 60 }
    }
    (s.sendAll env 8 5).1 = -10 ∧
      (s.sendAll env 8 5).2.handlesAt 8 5 = .ok [0, 0, -9, -1, -1] ∧
      (s.sendAll env 8 5).2.arena = (s.sendEach env handles).2.arena := by
  intro env arena handles s
  have hread : s.handlesAt 8 5 = .ok handles := by decide +kernel
  have hfine : ¬(env.runtime = .gone ∨ ∃ p ∈ prepared s.arena handles,
      env.web 0 p.1 = .crash) := by
    rintro (hgone | ⟨p, -, hcrash⟩)
    · cases hgone
    · cases hcrash
  obtain ⟨harena, hcells, -, -, hanswer⟩ :=
    ((@batchAsSingles env (env.web 0) rfl s 8 5).1 handles (by decide) hread).1 hfine
  have hcodes : (s.sendEach env handles).1 = [0, 0, -9, -1, -1] := by decide +kernel
  rw [hcodes] at hcells hanswer
  exact ⟨hanswer.trans (by decide), hcells, harena⟩

end SourceHost
