import SourceHost.Proofs.Session.Mute
import SourceHost.Proofs.Source.Belonging

/-!
# News about an entry

A source that is asked about an entry may send news of it before it answers.  Whoever watches sees
what was known when the question was asked, with the latest news that could be read laid over it.
None of this reaches the guest, and so none of it can change the answer.

* `Script.stages`, `Session.stages` — the moments of a call, each with the pieces sent by then.
* `stages_news`, `exists_stage` — at each of them exactly these pieces have been delivered, and
  there is one for every number of pieces.
* `perform_fst_silent` — but for a home screen, an answer is the same whatever pieces are sent.
* `Entry.map_lastNews` — what is seen after some pieces is the last that can be read, laid over the
  entry that was asked about.
* `updatesStreamed` — all of it.
-/

set_option autoImplicit false

namespace SourceHost

/-! ## Moments and pieces -/

section

variable {env : Environment} {parameters results : List Int} {s s₀ : Session}
  {before : List Bytes}

/-- In a step one piece is sent, or none. -/
theorem Step.length_sent_le (step : Step) (parameters results : List Int) :
    (step.sent env parameters results s).length ≤ 1 := by
  cases step with
  | call name arguments =>
    rw [sent, Environment.sent]
    split
    · exact Nat.zero_le 1
    · split
      · rw [HostFunction.sent]
        split
        · exact Option.length_toList_le
        · exact Nat.zero_le 1
      · exact Nat.zero_le 1
  | _ => exact Nat.zero_le 1

namespace Script

/-- The moments of a script, each with the pieces that have been sent by then, after some that had
been sent before. -/
def stages (env : Environment) (parameters : List Int) :
    Script → (before : List Bytes) → (results : List Int) → Session → List (List Bytes × Session)
  | [], before, _, s => [(before, s)]
  | step :: rest, before, results, s =>
    let after := before ++ step.sent env parameters results s
    (before, s) :: match step.run env parameters results s with
      | (.next results, s) => stages env parameters rest after results s
      | (.stop _, s) => [(after, s)]

/-- They are the moments of the script. -/
theorem stages_map_snd (script : Script) :
    (script.stages env parameters before results s).map Prod.snd =
      script.moments env parameters results s := by
  induction script generalizing before results s with
  | nil => rfl
  | cons step rest ih =>
    rw [stages, moments, List.map_cons]
    rcases step.run env parameters results s with ⟨results | ending, t⟩
    · exact congrArg _ ih
    · rfl

/-- At each of them the pieces have been delivered, in their order. -/
theorem stages_news (script : Script) (h : s.news = (before.foldl Session.deliver s₀).news) :
    ∀ x ∈ script.stages env parameters before results s,
      x.1 <+: before ++ script.sent env parameters results s ∧
        x.2.news = (x.1.foldl Session.deliver s₀).news := by
  induction script generalizing before results s with
  | nil => exact List.forall_mem_singleton.2 ⟨List.prefix_append _ _, h⟩
  | cons step rest ih =>
    have hstep := @Step.run_news env s step parameters results
    have hafter : (step.run env parameters results s).2.news =
        ((before ++ step.sent env parameters results s).foldl Session.deliver s₀).news := by
      rw [List.foldl_append]
      exact hstep.trans (Session.news_foldl_deliver h _)
    rw [stages, sent]
    refine List.forall_mem_cons.2 ⟨⟨List.prefix_append _ _, h⟩, ?_⟩
    generalize step.run env parameters results s = outcome at hafter ⊢
    rcases outcome with ⟨results | ending, t⟩
    · intro x hx
      rw [← List.append_assoc]
      exact ih hafter x hx
    · rw [List.append_nil]
      exact List.forall_mem_singleton.2 ⟨List.prefix_rfl, hafter⟩

/-- There is a moment for every number of pieces. -/
theorem exists_stage (script : Script) (before : List Bytes) (results : List Int) (s : Session)
    {k : Nat} (hk : k ≤ (script.sent env parameters results s).length) :
    ∃ t, (before ++ (script.sent env parameters results s).take k, t) ∈
      script.stages env parameters before results s := by
  induction script generalizing before results s k with
  | nil => exact ⟨s, by simp [stages, sent]⟩
  | cons step rest ih =>
    rcases Nat.eq_zero_or_pos k with rfl | hpos
    · exact ⟨s, by simp [stages]⟩
    · rw [sent, List.length_append] at hk
      rw [stages, sent]
      have hlength := @Step.length_sent_le env s step parameters results
      generalize step.sent env parameters results s = piece at hk hlength ⊢
      -- the first of the pieces is that of the step, if it has one
      have htake (later : List Bytes) :
          before ++ (piece ++ later).take k = before ++ piece ++ later.take (k - piece.length) := by
        rw [List.take_append, List.take_of_length_le (by lia), List.append_assoc]
      rw [htake]
      generalize step.run env parameters results s = outcome at hk ⊢
      rcases outcome with ⟨results | ending, t⟩
      · obtain ⟨u, hu⟩ := @ih (before ++ piece) results t (k - piece.length) (by lia)
        exact ⟨u, .tail _ hu⟩
      · exact ⟨t, by simp⟩

end Script

end

namespace Session

variable {env : Environment} {guest : Guest} {e : Entry} {b : Behaviour} {s t : Session}

/-- The moments of a guest that is called, each with the pieces that have been sent by then. -/
def callStages (env : Environment) (guest : Guest) (name : String) (parameters : List Int)
    (script : Script) (s : Session) : List (List Bytes × Session) :=
  if !guest.features.supports name then []
  else match guest.entryPoints.lookup name with
    | some .function => script.stages env parameters [] [] (s.log (.enter name parameters))
    | _ => []

/-- The moments of a guest to which a frame is given back, each with the pieces that have been sent
by then, after some that had been sent before. -/
def releaseStages (env : Environment) (script : Script) (ret : Int) (before : List Bytes)
    (s : Session) : List (List Bytes × Session) :=
  if ret < 0 then [] else script.stages env [ret] before [] { s with freed := s.freed ++ [ret] }

/-- The moments of a call, each with the pieces that have been sent by then. -/
def stages (env : Environment) (guest : Guest) (e : Entry) (b : Behaviour) (s : Session) :
    List (List Bytes × Session) :=
  let call := s.setUp env e
  ([], call.session) :: (call.session.callStages env guest e.name call.parameters b.work ++
    match s.enter env guest e b with
    | (.error _, _) => []
    | (.ok ret, t) => t.releaseStages env b.release ret
      (call.session.callSent env guest e.name call.parameters b.work))

/-- A guest runs when it is called, or it does not, and then there are no moments and no pieces. -/
theorem callStages_cases (name : String) (parameters : List Int) (script : Script) :
    (s.callStages env guest name parameters script = [] ∧
      s.callMoments env guest name parameters script = [] ∧
      s.callSent env guest name parameters script = []) ∨
    (s.callStages env guest name parameters script =
        script.stages env parameters [] [] (s.log (.enter name parameters)) ∧
      s.callMoments env guest name parameters script =
        script.moments env parameters [] (s.log (.enter name parameters)) ∧
      s.callSent env guest name parameters script =
        script.sent env parameters [] (s.log (.enter name parameters))) := by
  rw [callStages, callMoments, callSent]
  cases guest.features.supports name with
  | false => exact .inl ⟨rfl, rfl, rfl⟩
  | true =>
    rcases guest.entryPoints.lookup name with _ | kind
    · exact .inl ⟨rfl, rfl, rfl⟩
    · cases kind with
      | function => exact .inr ⟨rfl, rfl, rfl⟩
      | otherFunction | noFunction => exact .inl ⟨rfl, rfl, rfl⟩

/-- They are the moments of the call. -/
theorem stages_map_snd : (s.stages env guest e b).map Prod.snd = s.moments env guest e b := by
  let call := s.setUp env e
  have hcall : (call.session.callStages env guest e.name call.parameters b.work).map Prod.snd =
      call.session.callMoments env guest e.name call.parameters b.work := by
    rcases callStages_cases (s := call.session) e.name call.parameters b.work with
      ⟨hstages, hmoments, -⟩ | ⟨hstages, hmoments, -⟩
    · rw [hstages, hmoments, List.map_nil]
    · rw [hstages, hmoments, Script.stages_map_snd]
  rw [stages, moments, List.map_cons, List.map_append, hcall]
  rcases s.enter env guest e b with ⟨_ | ret, t⟩
  · rfl
  · refine congrArg _ (congrArg _ ?_)
    dsimp only
    rw [releaseStages, releaseMoments]
    split
    · rfl
    · exact b.release.stages_map_snd

theorem callStages_news (name : String) (parameters : List Int) (script : Script) :
    ∀ x ∈ s.callStages env guest name parameters script,
      x.1 <+: s.callSent env guest name parameters script ∧
        x.2.news = (x.1.foldl deliver s).news := by
  rcases callStages_cases (s := s) name parameters script with
    ⟨hstages, -, -⟩ | ⟨hstages, -, hsent⟩
  · rw [hstages]
    exact List.forall_mem_nil _
  · rw [hstages, hsent]
    exact script.stages_news rfl

theorem releaseStages_news {s₀ : Session} {before : List Bytes} (script : Script) (ret : Int)
    (h : s.news = (before.foldl deliver s₀).news) :
    ∀ x ∈ s.releaseStages env script ret before,
      x.1 <+: before ++ s.releaseSent env script ret ∧
        x.2.news = (x.1.foldl deliver s₀).news := by
  rw [releaseStages, releaseSent]
  split
  · exact List.forall_mem_nil _
  · exact script.stages_news h

/-- **At every moment of a call the pieces sent by then have been delivered**, in their order, and
nothing else has been. -/
theorem stages_news : ∀ x ∈ s.stages env guest e b, x.1 <+: s.sent env guest e b ∧
    x.2.news = (x.1.foldl deliver (s.setUp env e).session).news := by
  have henter : (s.enter env guest e b).2.news = _ := call_news e.name (s.setUp env e).parameters
  rw [stages, sent]
  refine List.forall_mem_cons.2 ⟨⟨List.nil_prefix, rfl⟩, List.forall_mem_append.2 ⟨?_, ?_⟩⟩
  · intro x hx
    obtain ⟨hpieces, hnews⟩ := callStages_news _ _ _ x hx
    exact ⟨hpieces.trans (List.prefix_append _ _), hnews⟩
  · generalize s.enter env guest e b = entered at henter ⊢
    rcases entered with ⟨_ | ret, u⟩
    · exact List.forall_mem_nil _
    · exact releaseStages_news _ ret henter

/-- **There is a moment of the call for every number of pieces.** -/
theorem exists_stage {k : Nat} (hk : k ≤ (s.sent env guest e b).length) :
    ∃ t, ((s.sent env guest e b).take k, t) ∈ s.stages env guest e b := by
  rcases Nat.eq_zero_or_pos k with rfl | hpos
  · exact ⟨_, .head _⟩
  rw [sent, List.length_append] at hk
  rw [sent, stages]
  have hstages := @callStages_cases env guest (s.setUp env e).session e.name
    (s.setUp env e).parameters b.work
  generalize (s.setUp env e).session.callSent env guest e.name (s.setUp env e).parameters b.work =
    first at hk hstages ⊢
  rcases Nat.lt_or_ge first.length k with hlt | hle
  · -- the last of the pieces is sent when the result is given back
    rw [List.take_append, List.take_of_length_le (Nat.le_of_lt hlt)]
    generalize s.enter env guest e b = entered at hk ⊢
    rcases entered with ⟨_ | ret, u⟩
    · exact absurd hk (Nat.not_le.2 hlt)
    · by_cases hret : ret < 0
      · simp only [releaseSent, if_pos hret] at hk
        exact absurd hk (Nat.not_le.2 hlt)
      · simp only [releaseSent, releaseStages, if_neg hret] at hk ⊢
        obtain ⟨t, ht⟩ := b.release.exists_stage first [] _ (Nat.sub_le_iff_le_add'.2 hk)
        exact ⟨t, .tail _ (List.mem_append_right _ ht)⟩
  · rw [List.take_append_of_le_length hle]
    rcases hstages with ⟨-, -, rfl⟩ | ⟨hstages, -, rfl⟩
    · exact absurd hle (Nat.not_le.2 hpos)
    · obtain ⟨t, ht⟩ := b.work.exists_stage [] [] _ hle
      rw [hstages]
      exact ⟨t, .tail _ (List.mem_append_left _ ht)⟩

end Session

/-! ## Answers without pieces -/

/-- What a guest does in a call, without the pieces it sends. -/
def Behaviour.silent (b : Behaviour) : Behaviour := ⟨b.work.silent, b.release.silent⟩

/-- Only the answer to the question for a home screen is made of pieces. -/
theorem Entry.reply_congr {key : String} {a : Arena} {made made' : Option Streamed}
    {payload : Except HostError Bytes} {e : Entry} (he : e ≠ .home) :
    e.reply key a made payload = e.reply key a made' payload := by
  cases e with
  | home => exact absurd rfl he
  | _ => rfl

namespace Session

variable {env : Environment} {guest : Guest} {e : Entry} {b : Behaviour} {s t : Session}

/-- Arguments are put in their places by the arena alone. -/
theorem place_congr (args : List Argument) (h : s.arena = t.arena) :
    (s.place args).1 = (t.place args).1 ∧ (s.place args).2.1 = (t.place args).2.1 ∧
      (s.place args).2.2.arena = (t.place args).2.2.arena := by
  induction args generalizing s t with
  | nil => exact ⟨rfl, rfl, h⟩
  | cons a args ih =>
    cases a with
    | number value =>
      obtain ⟨hparameters, hhandles, harena⟩ := ih h
      exact ⟨congrArg (value :: ·) hparameters, hhandles, harena⟩
    | stored r =>
      obtain ⟨hparameters, hhandles, harena⟩ :=
        @ih { s with arena := (s.arena.store r).2 } { t with arena := (t.arena.store r).2 }
          (congrArg (fun a ↦ (a.store r).2) h)
      rw [place_stored, place_stored, h, hparameters, hhandles] at *
      exact ⟨rfl, rfl, harena⟩

theorem setUp_congr (h : s.mute = t.mute) :
    (s.setUp env e).parameters = (t.setUp env e).parameters ∧
      (s.setUp env e).session.mute = (t.setUp env e).session.mute := by
  have harena : s.arena = t.arena := arena_eq_of_mute h
  obtain ⟨hparameters, -, hplaced⟩ := place_congr e.given
    ((@listen_begin_arena env e s).trans (harena.trans (@listen_begin_arena env e t).symm))
  have hmute (s : Session) : (s.setUp env e).session.mute =
      { s.mute with arena := (s.setUp env e).session.arena } := by
    rw [setUp]
    dsimp only
    rw [place_eq]
    cases e <;> rfl
  refine ⟨hparameters, ?_⟩
  rw [hmute, hmute, h]
  exact congrArg (fun a ↦ { t.mute with arena := a }) hplaced

/-- A guest that is called returns the same without its pieces. -/
theorem call_silent (name : String) (parameters : List Int) (script : Script)
    (h : s.mute = t.mute) :
    (s.call env guest name parameters script).1 =
        (t.call env guest name parameters script.silent).1 ∧
      (s.call env guest name parameters script).2.mute =
        (t.call env guest name parameters script.silent).2.mute := by
  have hlog : (s.log (.enter name parameters)).mute = (t.log (.enter name parameters)).mute := h
  obtain ⟨hending, hmute⟩ := @Script.run_silent env _ _ script parameters [] hlog
  rw [call, call]
  split
  · exact ⟨rfl, h⟩
  · rcases guest.entryPoints.lookup name with _ | kind
    · exact ⟨rfl, h⟩
    · cases kind with
      | function => exact ⟨congrArg (Ending.result env) hending, hmute⟩
      | otherFunction | noFunction => exact ⟨rfl, h⟩

theorem takeResult_fst {script : Script} {ret : Int} :
    (s.takeResult env script ret).1 = if ret < 0 then .error (.ofSentinel ret)
      else FrameContent.payload? (s.memory.readFrame ret.toNat) (s.release env script ret).1 := by
  rcases Int.lt_or_le ret 0 with hret | hret
  · rw [takeResult_of_neg hret, if_pos hret]
  · rw [takeResult_of_nonneg hret, if_neg (Int.not_lt.2 hret)]

theorem release_silent (script : Script) (ptr : Int) (h : s.mute = t.mute) :
    (s.release env script ptr).1 = (t.release env script.silent ptr).1 ∧
      (s.release env script ptr).2.mute = (t.release env script.silent ptr).2.mute := by
  have hfreed : ({ s with freed := s.freed ++ [ptr] } : Session).mute =
      ({ t with freed := t.freed ++ [ptr] } : Session).mute :=
    congrArg (fun u ↦ { u with freed := u.freed ++ [ptr] }) h
  obtain ⟨hending, hmute⟩ := @Script.run_silent env _ _ script [ptr] [] hfreed
  exact ⟨congrArg (fun ending ↦ (ending.result env).map fun _ ↦ ()) hending, hmute⟩

/-- Its result is read and given back in the same way. -/
theorem takeResult_silent (script : Script) (ret : Int) (h : s.mute = t.mute) :
    (s.takeResult env script ret).1 = (t.takeResult env script.silent ret).1 ∧
      (s.takeResult env script ret).2.mute = (t.takeResult env script.silent ret).2.mute := by
  rcases Int.lt_or_le ret 0 with hret | hret
  · rw [takeResult_of_neg hret, takeResult_of_neg hret]
    exact ⟨rfl, h⟩
  · obtain ⟨hreleased, hmute⟩ := @release_silent env s t script ret h
    rw [takeResult_of_nonneg hret, takeResult_of_nonneg hret, hreleased, memory_eq_of_mute h]
    exact ⟨rfl, hmute⟩

theorem enter_silent (h : s.mute = t.mute) :
    (s.enter env guest e b).1 = (t.enter env guest e b.silent).1 ∧
      (s.enter env guest e b).2.mute = (t.enter env guest e b.silent).2.mute := by
  obtain ⟨hparameters, hmute⟩ := @setUp_congr env e s t h
  rw [enter, enter, hparameters]
  exact call_silent e.name _ b.work hmute

theorem finished_silent (h : s.mute = t.mute) :
    (s.finished env guest e b).mute = (t.finished env guest e b.silent).mute := by
  obtain ⟨hreturned, hmute⟩ := @enter_silent env guest e b s t h
  rw [finished, finished]
  generalize s.enter env guest e b = entered at hreturned hmute ⊢
  generalize t.enter env guest e b.silent = entered' at hreturned hmute ⊢
  obtain ⟨returned, u⟩ := entered
  obtain ⟨_, u'⟩ := entered'
  obtain rfl : returned = _ := hreturned
  cases returned with
  | error failure => exact hmute
  | ok ret => exact (takeResult_silent b.release ret hmute).2

/-- **An answer is the same without the pieces**, whoever waits for them and whatever has been
published before, unless it is that to the question for a home screen. -/
theorem perform_fst_silent (he : e ≠ .home) (h : s.mute = t.mute) :
    (s.perform env guest e b).1 = (t.perform env guest e b.silent).1 := by
  have hfinished : (s.finished env guest e b).mute = _ := finished_silent h
  obtain ⟨hreturned, hmute⟩ := @enter_silent env guest e b s t h
  rw [perform_fst, perform_fst, arena_eq_of_mute hfinished]
  generalize s.enter env guest e b = entered at hreturned hmute ⊢
  generalize t.enter env guest e b.silent = entered' at hreturned hmute ⊢
  obtain ⟨returned, u⟩ := entered
  obtain ⟨_, u'⟩ := entered'
  obtain rfl : returned = _ := hreturned
  cases returned with
  | error failure => rfl
  | ok ret =>
    dsimp only
    rw [(takeResult_silent b.release ret hmute).1]
    exact Entry.reply_congr he

end Session

/-! ## What is seen and what is answered -/

/-- What is published of an entry does not depend on whether its name is written before or after
the news are laid over it. -/
theorem Entry.map_lastNews (sourceKey : String) (manga : Manga) (pieces : List Bytes) :
    ((lastNews pieces).map fun news ↦ (manga.mergedWith news).stamped sourceKey) =
      (lastNews pieces).map (manga.stamped sourceKey).mergedWith := by
  refine Option.map_congr fun news hnews ↦ ?_
  obtain ⟨data, -, hdata⟩ := List.mem_filterMap.1 (List.mem_of_getLast? hnews)
  cases hdecode : (Wired.decode data : Except WireError Manga) with
  | error cause =>
    rw [hdecode] at hdata
    cases hdata
  | ok found =>
    rw [hdecode] at hdata
    cases hdata
    exact (mergedWith_of_decode hdecode).symm

/-- The answer is the entry that was returned, under the name of the source. -/
theorem Entry.reply_mangaUpdate {key : String} {a : Arena} {made : Option Streamed}
    {payload : Except HostError Bytes} {manga : Manga} {needsDetails needsChapters : Bool} :
    (mangaUpdate manga needsDetails needsChapters).reply key a made payload = do
      let data ← payload
      let answer : Manga ← (Wired.decode data).mapError .decode
      return .manga (answer.stamped key) := by
  cases payload with
  | error failure => rfl
  | ok data =>
    show ((Wired.decode data : Except WireError Manga).mapError _).map _ = _
    simp only [bind, Except.bind]
    cases (Wired.decode data : Except WireError Manga) <;> rfl

/-- **News about an entry are seen as they come, and change no answer.**  Of every source whose
counters are in order and on which nobody else waits to publish anything, as they are once it has
been loaded, whatever has been asked since (`IsLoadedQuietly.isStamped`), whatever it is asked about
and whatever the guest does:

1. At every moment of the call the pieces that have been sent by then are the first of those that
   will have been sent in the end.  What is seen is the entry that was asked about, under the name
   of the source, with the last of them laid over it that can be read as an entry; if there is none,
   nothing is seen, whatever was before.  For every number of pieces there is such a moment.
2. After the call it is what all of the pieces come to.
3. A piece that cannot be read as an entry changes nothing of it; one that can takes the place of
   those before it.
4. The answer is made of what the guest returned in the end: it is why it returned nothing, why the
   frame it returned cannot be read, what stands in its place, or why there is no entry in it; and
   otherwise the entry in it, under the name of the source.
5. It is the same if the guest sends other pieces, or none, and if others wait for them or something
   else has been published before. -/
theorem updatesStreamed (env : Environment) (guest : Guest) (s : Session) (hs : s.IsSound)
    (hquiet : s.IsQuiet) (manga : Manga) (needsDetails needsChapters : Bool) (b : Behaviour) :
    let e := Entry.mangaUpdate manga needsDetails needsChapters
    let base := manga.stamped env.config.sourceKey
    let sent := s.sent env guest e b
    let seen (pieces : List Bytes) := (Entry.lastNews pieces).map base.mergedWith
    let t := (s.enter env guest e b).2
    ((s.stages env guest e b).map Prod.snd = s.moments env guest e b ∧
      (∀ x ∈ s.stages env guest e b,
        x.1 <+: sent ∧ x.2.updates = (seen x.1, s.homeUpdate)) ∧
      ∀ k ≤ sent.length, ∃ t, (sent.take k, t) ∈ s.stages env guest e b) ∧
    (s.perform env guest e b).2.updates = (seen sent, s.homeUpdate) ∧
    (∀ pieces data,
      (∀ cause, Wired.decode (α := Manga) data = .error cause →
        seen (pieces ++ [data]) = seen pieces) ∧
      ∀ news, Wired.decode data = .ok news →
        seen (pieces ++ [data]) = some (base.mergedWith news)) ∧
    ((s.perform env guest e b).1 = do
      let ret ← (s.enter env guest e b).1
      let data ← (if ret < 0 then .error (.ofSentinel ret)
        else FrameContent.payload? (t.memory.readFrame ret.toNat) (t.release env b.release ret).1)
      let answer : Manga ← (Wired.decode data).mapError .decode
      return .manga (answer.stamped env.config.sourceKey)) ∧
    ∀ (s' : Session) (b' : Behaviour), s'.mute = s.mute → b'.silent = b.silent →
      (s'.perform env guest e b').1 = (s.perform env guest e b).1 := by
  intro e base sent seen t
  have hpublished (pieces : List Bytes) :
      e.published env.config.sourceKey pieces s.updates = (seen pieces, s.homeUpdate) :=
    congrArg (·, s.homeUpdate) (Entry.map_lastNews _ manga pieces)
  refine ⟨⟨Session.stages_map_snd, fun x hx ↦ ?moment, fun k hk ↦ Session.exists_stage hk⟩, ?after,
    fun pieces data ↦ ⟨fun cause hdata ↦ ?unreadable, fun news hdata ↦ ?readable⟩, ?answer,
    fun s' b' hmute hsilent ↦ ?same⟩
  case moment =>
    obtain ⟨hpieces, hnews⟩ := Session.stages_news x hx
    refine ⟨hpieces, ?_⟩
    rw [← hpublished, ← Session.updates_foldl_deliver hs hquiet x.1]
    exact congrArg Prod.snd hnews
  case after => rw [Session.perform_updates hs hquiet, hpublished]
  case unreadable =>
    show Option.map _ _ = Option.map _ _
    rw [Entry.lastNews_append_singleton, hdata]
    rfl
  case readable =>
    show Option.map _ _ = _
    rw [Entry.lastNews_append_singleton, hdata]
    rfl
  case answer =>
    rw [Session.perform_fst]
    simp only [t]
    rcases s.enter env guest e b with ⟨_ | ret, t⟩
    · rfl
    · refine Entry.reply_mangaUpdate.trans ?_
      rw [Session.takeResult_fst]
      rfl
  case same =>
    have he : e ≠ .home := Entry.noConfusion
    have hwithout : (s.perform env guest e b).1 = _ := Session.perform_fst_silent he rfl
    rw [Session.perform_fst_silent he hmute, hsilent, hwithout]

/-- The name of an entry is sent, and then a piece that is no entry: the name is seen, at every
moment after the first piece and in the end, under the name of the source, and it is not in the
answer.  If nothing is sent nothing is seen, and the answer is the same. -/
theorem updatesStreamed_renamed :
    let s := (Session.load .still .complete ∅ []).2
    let e := Entry.mangaUpdate .foreign true true
    let bytes (m : Manga) := (Wired.encode m).toOption.getD []
    let b := sending [bytes { key := "m", title := "N" }, [7]] (bytes .foreign)
    let renamed : Manga := { sourceKey := "en.here", key := "m", title := "N" }
    (s.perform .still .complete e b).2.updates = (some renamed, none) ∧
      (s.perform .still .complete e b).1 = .ok (.manga (Manga.foreign.stamped "en.here")) ∧
      (s.perform .still .complete e b.silent).2.updates = (none, none) ∧
      (s.perform .still .complete e b.silent).1 =
        .ok (.manga (Manga.foreign.stamped "en.here")) := by
  intro s e bytes b renamed
  have hloaded : s.IsLoadedQuietly .still .complete :=
    ⟨∅, [], _, s, [], Prod.ext rfl rfl, List.forall_mem_nil _, rfl⟩
  obtain ⟨hsound, hquiet, -⟩ := hloaded.isStamped
  obtain ⟨-, hseen, -, -, hsame⟩ :=
    updatesStreamed .still .complete s hsound hquiet .foreign true true b
  obtain ⟨-, hsilent, -, -, -⟩ :=
    updatesStreamed .still .complete s hsound hquiet .foreign true true b.silent
  have hanswer : (s.perform .still .complete e b).1 =
      .ok (.manga (Manga.foreign.stamped "en.here")) := by decide +kernel
  exact ⟨hseen.trans (by decide +kernel), hanswer, hsilent.trans (by decide +kernel),
    (hsame s b.silent rfl rfl).trans hanswer⟩

end SourceHost
