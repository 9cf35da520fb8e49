import SourceHost.Proofs.Source.CleanUp

/-!
# What a call takes away

When a call is over the host takes away what is under the handles of the arguments.  It does not
look at what that is.  Mostly it is the arguments, or nothing if the guest has destroyed them; but
when the arena has been empty in between counting has started over, and then something that the
guest means to keep can be under such a handle.

* `fetch_perform_of_live` — what was there before the call is never taken away with the arguments.
* `Session.KeepsApart` — nothing but the arguments is under their handles in the end.
* `KeepsApart.of_live`, `KeepsApart.of_isAhead` — it is so if the guest leaves the arguments alone,
  and if the arena is never empty while the call is going on.
* `KeepsApart.fetch_perform`, `KeepsApart.image` — then nothing but the arguments is taken away, and
  every picture in the answer is still there after the call.
* `picture_taken_away` — otherwise it may be gone.
-/

set_option autoImplicit false

namespace SourceHost

theorem map_eq_ok {α β : Type} {f : α → β} {x : Except HostError α} {y : β}
    (h : x.map f = .ok y) : ∃ a, x = .ok a ∧ f a = y := by
  cases x with
  | error => cases h
  | ok a => exact ⟨a, rfl, Except.ok.inj h⟩

/-- The pages of an answer are those that could be shown when the answer was made. -/
theorem Entry.canShow_of_reply {key : String} {a : Arena} {made : Option Streamed}
    {payload : Except HostError Bytes} {e : Entry} {pages : List Page}
    (h : e.reply key a made payload = .ok (.pages pages)) :
    e.handle? payload = none ∧ ∀ p ∈ pages, Session.canShow a p = true := by
  cases e with
  | pageList =>
    obtain ⟨found, -, heq⟩ := map_eq_ok h
    cases heq
    exact ⟨rfl, fun p hp ↦ (List.mem_filter.1 hp).2⟩
  | home =>
    rw [reply] at h
    split at h
    · cases h
    · obtain ⟨_, -, heq⟩ := map_eq_ok h
      split at heq <;> cases heq
  | imageRequest =>
    simp only [reply] at h
    generalize payload.bind _ = handle at h
    cases handle with
    | error => cases h
    | ok i =>
      dsimp only [Except.bind] at h
      split at h <;> cases h
  | notification => cases h
  | _ =>
    obtain ⟨_, -, heq⟩ := map_eq_ok h
    cases heq

/-- What can be read as bytes is no request. -/
theorem Resource.request?_of_bytes? (r : Resource) (hr : r.bytes?.isSome = true) :
    r.request? = none := by
  cases r with
  | request => cases hr
  | _ => rfl

namespace Session

variable {env : Environment} {guest : Guest} {e : Entry} {b : Behaviour} {s : Session} {h : Handle}
  {r : Resource}

/-! ## What was there before -/

/-- There are handles enough for everything that is stored. -/
structure HasRoom (env : Environment) (guest : Guest) (e : Entry) (b : Behaviour) (s : Session) :
    Prop where
  /-- For the arguments. -/
  arguments : s.arena.size + e.given.length ≤ Handle.largest
  /-- For what the guest stores. -/
  guest : ∀ a ∈ s.arenas env guest e b, a.size < Handle.largest

/-- What is there when the guest is called, and at every moment from then on, is the same in the
end, unless it is a request. -/
theorem fetch_finished (hs : s.IsSound)
    (hroom : ∀ a ∈ s.arenas env guest e b, a.size < Handle.largest)
    (hr : (s.setUp env e).session.arena.fetch h = some r) (hrequest : r.request? = none)
    (hlive : ∀ a ∈ s.arenas env guest e b, (a.fetch h).isSome) :
    (s.finished env guest e b).arena.fetch h = some r := by
  have hend : (s.finished env guest e b).arena.IsCounting ∧
      (s.finished env guest e b).arena.fetch h = some r :=
    finished_arena (P := fun a ↦ a.IsCounting ∧ a.fetch h = some r)
      (Q := fun a ↦ a.size < Handle.largest ∧ (a.fetch h).isSome)
      (fun _ _ hturn hbefore hafter hp ↦
        ⟨hturn.isCounting hp.1, hturn.fetch_eq hp.1 hbefore.1 hp.2 hrequest hafter.2⟩)
      (fun a ha ↦ ⟨hroom a ha, hlive a ha⟩) ⟨setUp_isCounting hs.isCounting, hr⟩
  exact hend.2

theorem not_mem_handles_of_live (hs : s.IsSound) (hroom : s.HasRoom env guest e b)
    (hlive : (s.arena.fetch h).isSome) : h ∉ (s.setUp env e).handles := by
  intro hh
  rw [(setUp_spec hs.isCounting hroom.arguments h hh).1] at hlive
  cases hlive

/-- What was there before the call is never taken away with the arguments. -/
theorem fetch_perform_of_live (hs : s.IsSound) (hroom : s.HasRoom env guest e b)
    (hlive : (s.arena.fetch h).isSome) (htaken : s.taken env guest e b ≠ some h) :
    (s.perform env guest e b).2.arena.fetch h = (s.finished env guest e b).arena.fetch h := by
  rw [fetch_perform, if_neg]
  exact not_or.2 ⟨not_mem_handles_of_live hs hroom hlive, htaken⟩

/-! ## What is under the handles of the arguments in the end -/

/-- When the guest has had its last turn nothing but the arguments is under their handles. -/
def KeepsApart (env : Environment) (guest : Guest) (e : Entry) (b : Behaviour) (s : Session) :
    Prop :=
  ∀ h ∈ (s.setUp env e).handles, (s.finished env guest e b).arena.fetch h = none ∨
    (s.finished env guest e b).arena.fetch h = (s.setUp env e).session.arena.fetch h

/-- It is so if no handle of an argument is in use in the end that has been free in between. -/
theorem KeepsApart.of_live (hs : s.IsSound) (hroom : s.HasRoom env guest e b)
    (hlive : ∀ h ∈ (s.setUp env e).handles, ((s.finished env guest e b).arena.fetch h).isSome →
      ∀ a ∈ s.arenas env guest e b, (a.fetch h).isSome) : s.KeepsApart env guest e b := by
  intro h hh
  obtain ⟨-, r, hr, hfetch⟩ := setUp_spec hs.isCounting hroom.arguments h hh
  by_cases hend : ((s.finished env guest e b).arena.fetch h).isSome
  · right
    rw [hfetch]
    exact fetch_finished hs hroom.guest hfetch (r.request?_of_bytes? hr) (hlive h hh hend)
  · exact .inl (Option.not_isSome_iff_eq_none.1 hend)

/-- It is so if the counter is beyond all handles in use and the arena is never empty while the call
is going on. -/
theorem KeepsApart.of_isAhead (hs : s.IsSound) (hroom : s.HasRoom env guest e b)
    (hahead : s.arena.IsAhead) (hcount : s.arena.next + e.given.length ≤ Handle.largest)
    (hlive : ∀ a ∈ s.arenas env guest e b, a.isEmpty = false ∧ a.next < Handle.largest) :
    s.KeepsApart env guest e b := by
  intro h hh
  obtain ⟨-, r, hr, hfetch⟩ := setUp_spec hs.isCounting hroom.arguments h hh
  obtain ⟨hahead', hhandles⟩ := setUp_isAhead env hahead hcount
  rw [hfetch]
  let P (a : Arena) : Prop := a.IsAhead ∧ h < a.next ∧ (a.fetch h = none ∨ a.fetch h = some r)
  have hstep : ∀ x y, x.Turn y → (x.isEmpty = false ∧ x.next < Handle.largest) →
      (y.isEmpty = false ∧ y.next < Handle.largest) → P x → P y := by
    intro x y hturn hbefore hafter ⟨hx, hlt, hkept⟩
    have hrequest : ∀ q, x.fetch h ≠ some (.request q) := by
      intro q hq
      rcases hkept with hkept | hkept <;> rw [hkept] at hq <;> cases hq
      cases hr
    obtain ⟨hy, hle⟩ := hturn.isAhead hx hbefore.2 hafter.1
    refine ⟨hy, Int.lt_of_lt_of_le hlt hle, ?_⟩
    rcases hturn.fetch_of_lt hx hlt hrequest with heq | heq
    · rw [heq]
      exact hkept
    · exact .inl heq
  have hend : P (s.finished env guest e b).arena :=
    finished_arena hstep hlive ⟨hahead', hhandles h hh, .inr hfetch⟩
  exact hend.2.2

/-- Nothing but the arguments is taken away with them. -/
theorem KeepsApart.fetch_perform (hapart : s.KeepsApart env guest e b)
    (hr : (s.finished env guest e b).arena.fetch h = some r)
    (htaken : s.taken env guest e b ≠ some h) :
    (s.perform env guest e b).2.arena.fetch h = some r ∨
      (h ∈ (s.setUp env e).handles ∧ (s.setUp env e).session.arena.fetch h = some r) := by
  rw [Session.fetch_perform]
  by_cases hh : h ∈ (s.setUp env e).handles
  · right
    rcases hapart h hh with hnone | hsame
    · rw [hnone] at hr
      cases hr
    · exact ⟨hh, hsame.symm.trans hr⟩
  · left
    rw [if_neg (not_or.2 ⟨hh, htaken⟩), hr]

/-! ## Pictures in an answer -/

theorem exists_image_of_canShow {a : Arena} {p : Page} {i : Signed 32} (hshow : canShow a p = true)
    (hi : p.content.imageHandle = some i) : ∃ image, a.image i.val = .ok image := by
  simp only [canShow, hi] at hshow
  cases himage : a.image i.val with
  | error =>
    rw [himage] at hshow
    cases hshow
  | ok image => exact ⟨image, rfl⟩

/-- Pages in an answer could be shown when the answer was made, and the host takes nothing away as
the answer. -/
theorem canShow_of_perform {pages : List Page}
    (hreply : (s.perform env guest e b).1 = .ok (.pages pages)) :
    s.taken env guest e b = none ∧
      ∀ p ∈ pages, canShow (s.finished env guest e b).arena p = true := by
  rw [perform_fst] at hreply
  rw [taken]
  split at hreply
  · cases hreply
  · exact Entry.canShow_of_reply hreply

/-- Every picture in an answer is still there after the call. -/
theorem KeepsApart.image (hapart : s.KeepsApart env guest e b) (hs : s.IsSound)
    (hroom : s.HasRoom env guest e b) {pages : List Page}
    (hreply : (s.perform env guest e b).1 = .ok (.pages pages)) {p : Page} (hp : p ∈ pages)
    {i : Signed 32} (hi : p.content.imageHandle = some i) :
    ∃ image, (s.perform env guest e b).2.arena.image i.val = .ok image := by
  obtain ⟨hnone, hshow⟩ := canShow_of_perform hreply
  obtain ⟨image, himage⟩ := exists_image_of_canShow (hshow p hp) hi
  have htaken : s.taken env guest e b ≠ some i.val := by
    rw [hnone]
    exact (Option.some_ne_none _).symm
  refine ⟨image, Arena.image_eq_ok_iff.2 ?_⟩
  rcases hapart.fetch_perform (Arena.image_eq_ok_iff.1 himage) htaken with h | ⟨hh, h⟩
  · exact h
  · -- what is under the handle of an argument can be read as bytes, and a picture cannot
    obtain ⟨-, r, hr, hfetch⟩ := setUp_spec hs.isCounting hroom.arguments _ hh
    cases hfetch.symm.trans h
    cases hr

end Session

/-! ## What a call spares -/

/-- **What a call takes away, and what it spares.**  Of a source that has been loaded and used in
whatever way, while there is room:

1. What was there before the call is not taken away with the arguments, whatever the guest does.  If
   it is no request and has been there all the time it is the same after the call.
2. If nothing but the arguments is under their handles in the end, then everything else that is
   there when the guest has had its last turn is there after the call, under the same handle.
3. Then also every picture that a page of the answer refers to is there.
4. Nothing but the arguments is under their handles if none of these is in use in the end that has
   been free in between; and if the arena has never been empty while the call was going on, since
   then nothing new comes under a handle that the counter has passed. -/
theorem callSpares (env : Environment) (guest : Guest) (s : Session) (hs : s.IsLoaded env guest)
    (e : Entry) (b : Behaviour) (hroom : s.HasRoom env guest e b) :
    (∀ h r, s.arena.fetch h = some r → s.taken env guest e b ≠ some h →
      (s.perform env guest e b).2.arena.fetch h = (s.finished env guest e b).arena.fetch h ∧
        (r.request? = none → (∀ a ∈ s.arenas env guest e b, (a.fetch h).isSome) →
          (s.perform env guest e b).2.arena.fetch h = some r)) ∧
    (s.KeepsApart env guest e b → ∀ h r, (s.finished env guest e b).arena.fetch h = some r →
      s.taken env guest e b ≠ some h →
      (s.perform env guest e b).2.arena.fetch h = some r ∨
        (h ∈ (s.setUp env e).handles ∧ (s.setUp env e).session.arena.fetch h = some r)) ∧
    (s.KeepsApart env guest e b → ∀ pages, (s.perform env guest e b).1 = .ok (.pages pages) →
      ∀ p ∈ pages, ∀ i : Signed 32, p.content.imageHandle = some i →
        ∃ image, (s.perform env guest e b).2.arena.image i.val = .ok image) ∧
    ((∀ h ∈ (s.setUp env e).handles, ((s.finished env guest e b).arena.fetch h).isSome →
        ∀ a ∈ s.arenas env guest e b, (a.fetch h).isSome) → s.KeepsApart env guest e b) ∧
    (s.arena.IsAhead → s.arena.next + e.given.length ≤ Handle.largest →
      (∀ a ∈ s.arenas env guest e b, a.isEmpty = false ∧ a.next < Handle.largest) →
        s.KeepsApart env guest e b) := by
  have hsound := hs.isSound
  refine ⟨fun h r hr htaken ↦ ?before, fun hapart h r hr htaken ↦ hapart.fetch_perform hr htaken,
    fun hapart pages hreply p hp i hi ↦ hapart.image hsound hroom hreply hp hi,
    fun hlive ↦ .of_live hsound hroom hlive,
    fun hahead hcount hlive ↦ .of_isAhead hsound hroom hahead hcount hlive⟩
  case before =>
    have hbefore : (s.arena.fetch h).isSome := Option.isSome_of_eq_some hr
    have hkept := Session.fetch_perform_of_live hsound hroom hbefore htaken
    refine ⟨hkept, fun hrequest hlive ↦ hkept.trans ?_⟩
    refine Session.fetch_finished hsound hroom.guest ?_ hrequest hlive
    rw [Session.fetch_setUp (Session.not_mem_handles_of_live hsound hroom hbefore), hr]

/-- An environment in which every request is answered with a picture. -/
def Environment.pictures : Environment where
  config := { sourceKey := "en.here" }
  web := fun _ _ ↦ .response 0 { status := 200, headers := [], frames := [.data [66, 77, 1]] } none
  zones := fun _ ↦ none

/-- A guest that has a picture fetched and returns a page with it. -/
def fetching (before : Script) (page : Bytes) : Behaviour where
  work := before ++ [.call "net.init" [.literal 0],
    .write (.literal 1024) (Utf8.encode "https://example.org/a"),
    .call "net.set_url" [.result 0, .literal 1024, .literal 21], .call "net.send" [.result 0],
    .call "net.get_image" [.result 0], .call "std.destroy" [.result 0],
    .write (.literal 2048) (Memory.payloadFrame page), .ret (.literal 2048)]

/-- The host has stored a text, and the guest fetches a picture: both are there after the call. -/
theorem callSpares_fetching :
    let s := (Use.store (.text "kept")).run .pictures .complete
      (Session.load .pictures .complete ∅ []).2
    let b := fetching [] [1, 2, 10, 0, 0, 0]
    (s.perform .pictures .complete (.pageList {} {}) b).1 =
        .ok (.pages [{ content := .image ⟨5, by decide, by decide⟩ }]) ∧
      (s.perform .pictures .complete (.pageList {} {}) b).2.arena.fetch 1 = some (.text "kept") ∧
      ∃ image, (s.perform .pictures .complete (.pageList {} {}) b).2.arena.image 5 = .ok image := by
  intro s b
  have hloaded : s.IsLoaded .pictures .complete :=
    ⟨∅, [], _, _, [.store (.text "kept")], Prod.ext rfl rfl, rfl⟩
  have hmoments : ∀ a ∈ s.arenas .pictures .complete (.pageList {} {}) b,
      a.size < Handle.largest ∧ (a.fetch 1).isSome ∧
        a.isEmpty = false ∧ a.next < Handle.largest := by decide +kernel
  have hroom : s.HasRoom .pictures .complete (.pageList {} {}) b :=
    ⟨by decide +kernel, fun a ha ↦ (hmoments a ha).1⟩
  have hahead : s.arena.IsAhead := Arena.IsAhead.store Arena.isAhead_empty (by decide)
  have hreply : (s.perform .pictures .complete (.pageList {} {}) b).1 =
      .ok (.pages [{ content := .image ⟨5, by decide, by decide⟩ }]) := by decide +kernel
  obtain ⟨hbefore, -, hpictures, -, hapart⟩ :=
    callSpares .pictures .complete s hloaded (.pageList {} {}) b hroom
  have hkept := (hbefore 1 (.text "kept") (by decide +kernel) (by decide +kernel)).2 rfl
    fun a ha ↦ (hmoments a ha).2.1
  have hpicture := hpictures
    (hapart hahead (by decide +kernel) fun a ha ↦ (hmoments a ha).2.2)
    [{ content := .image ⟨5, by decide, by decide⟩ }] hreply
    { content := .image ⟨5, by decide, by decide⟩ } (List.mem_singleton_self _)
    ⟨5, by decide, by decide⟩ rfl
  exact ⟨hreply, hkept, hpicture⟩

/-- **A picture that a page of the answer refers to may be gone after the call.**  The guest
destroys both of its arguments, so that counting starts over, and the picture comes under the handle
of the second one.  The host takes nothing as the answer, and the guest has not destroyed the
picture. -/
theorem picture_taken_away :
    let s := (Session.load .pictures .complete ∅ []).2
    let b := fetching [.call "std.destroy" [.parameter 0], .call "std.destroy" [.parameter 1]]
      [1, 2, 4, 0, 0, 0]
    s.IsLoaded .pictures .complete ∧
      (s.perform .pictures .complete (.pageList {} {}) b).1 =
        .ok (.pages [{ content := .image ⟨2, by decide, by decide⟩ }]) ∧
      s.taken .pictures .complete (.pageList {} {}) b = none ∧
      (s.finished .pictures .complete (.pageList {} {}) b).arena.image 2 =
        .ok ⟨.bmp, [66, 77, 1]⟩ ∧
      (s.perform .pictures .complete (.pageList {} {}) b).2.arena.image 2 =
        .error (.missing 2) := by
  intro s b
  exact ⟨⟨∅, [], _, s, [], Prod.ext rfl rfl, rfl⟩, by decide +kernel⟩

end SourceHost
