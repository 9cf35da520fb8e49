import SourceHost.Proofs.Source.Use

/-!
# Nothing a call set up outlives it

A call ends in many ways, and in between the guest may itself destroy what the host has stored for
it.  However that was, when the call is over nothing is under the handles of its arguments, and the
handlers are those from before.

* `fetch_perform` — what is under a handle after a call, in terms of what was there when the guest
  had had its last turn.
* `Session.GivesBack` — the guest has destroyed whatever it has created.
* `GivesBack.isEmpty` — then an arena that was empty is empty again.
* `callsCleanUp` — all of this, of one call and of one call after the other.
-/

set_option autoImplicit false

namespace SourceHost

namespace Session

variable {env : Environment} {guest : Guest} {e : Entry} {b : Behaviour} {s : Session} {h : Handle}

/-! ## One call -/

/-- After a call the arguments are gone, and what the host has taken as the answer. -/
theorem fetch_perform :
    (s.perform env guest e b).2.arena.fetch h =
      if h ∈ (s.setUp env e).handles ∨ s.taken env guest e b = some h then none
      else (s.finished env guest e b).arena.fetch h := by
  rw [perform_snd, Arena.fetch_removeAll, Arena.fetch_removeAll]
  by_cases hhandles : h ∈ (s.setUp env e).handles
  · rw [if_pos hhandles, if_pos (.inl hhandles)]
  · simp only [hhandles, false_or, Option.mem_toList]
    rfl

theorem fetch_of_mem_handles (hh : h ∈ (s.setUp env e).handles) :
    (s.perform env guest e b).2.arena.fetch h = none := by
  rw [fetch_perform, if_pos (.inl hh)]

/-- The guest has destroyed whatever it has created: what is there when it has had its last turn has
been there all the time, or is what the host takes as the answer. -/
def GivesBack (env : Environment) (guest : Guest) (e : Entry) (b : Behaviour) (s : Session) :
    Prop :=
  ∀ h, s.taken env guest e b ≠ some h → ((s.finished env guest e b).arena.fetch h).isSome →
    ∀ a ∈ s.arenas env guest e b, (a.fetch h).isSome

/-- If nothing is left then certainly nothing the guest has created. -/
theorem GivesBack.of_isEmpty (hempty : (s.finished env guest e b).arena.isEmpty) :
    s.GivesBack env guest e b := by
  intro h _ hsome
  rw [Arena.isEmpty_iff.1 hempty h] at hsome
  cases hsome

/-- An arena that was empty is empty again if the guest has destroyed whatever it has created. -/
theorem GivesBack.isEmpty (hback : s.GivesBack env guest e b) (hempty : s.arena.isEmpty) :
    (s.perform env guest e b).2.arena.isEmpty := by
  rw [Arena.isEmpty_iff] at hempty ⊢
  intro h
  rw [fetch_perform]
  split
  · rfl
  · rename_i hh
    rw [not_or] at hh
    -- what is left would have been there when the guest was called, and only arguments were
    by_contra hsome
    have hearly := hback h hh.2 (Option.isSome_iff_ne_none.2 hsome) _ List.mem_cons_self
    rw [fetch_setUp hh.1, hempty h] at hearly
    cases hearly

/-! ## One call after the other -/

/-- The session after several questions have been asked in turn. -/
def askAll (env : Environment) (guest : Guest) (calls : List (Entry × Behaviour)) (s : Session) :
    Session :=
  s.useAll env guest (calls.map fun c ↦ .ask c.1 c.2)

/-- In each call the guest has destroyed whatever it has created. -/
def GivesBackAll (env : Environment) (guest : Guest) : List (Entry × Behaviour) → Session → Prop
  | [], _ => True
  | (e, b) :: calls, s =>
    s.GivesBack env guest e b ∧ GivesBackAll env guest calls (s.perform env guest e b).2

theorem IsSound.askAll (hs : s.IsSound) (calls : List (Entry × Behaviour)) :
    (s.askAll env guest calls).IsSound := hs.useAll _

theorem askAll_roster (hs : s.IsSound) (calls : List (Entry × Behaviour)) :
    (s.askAll env guest calls).mailbox.roster = s.mailbox.roster := by
  induction calls generalizing s with
  | nil => rfl
  | cons c calls ih => exact (ih hs.perform).trans (perform_roster hs)

theorem GivesBackAll.isEmpty {calls : List (Entry × Behaviour)}
    (hback : s.GivesBackAll env guest calls) (hempty : s.arena.isEmpty) :
    (s.askAll env guest calls).arena.isEmpty := by
  induction calls generalizing s with
  | nil => exact hempty
  | cons c calls ih => exact ih hback.2 (hback.1.isEmpty hempty)

end Session

/-- **Nothing a call set up outlives it.**  Of a source that has been loaded and used in whatever
way:

1. When a call is over, however it ended, nothing is under the handles of its arguments and the same
   handlers are registered as before.  What is left is again a source that has been loaded and used.
2. If the arena was empty and the guest has destroyed whatever it has created, the arena is empty
   and the next resource gets the first handle.
3. The handlers are the same after any number of calls, and so is an empty arena. -/
theorem callsCleanUp (env : Environment) (guest : Guest) (s : Session)
    (hs : s.IsLoaded env guest) :
    (∀ e b, (∀ h ∈ (s.setUp env e).handles, (s.perform env guest e b).2.arena.fetch h = none) ∧
      (s.perform env guest e b).2.mailbox.roster = s.mailbox.roster ∧
      (s.perform env guest e b).2.IsLoaded env guest) ∧
    (∀ e b, s.arena.isEmpty → s.GivesBack env guest e b →
      (s.perform env guest e b).2.arena.isEmpty ∧
        ∀ r, ((s.perform env guest e b).2.arena.store r).1 = 1) ∧
    (∀ calls, (s.askAll env guest calls).mailbox.roster = s.mailbox.roster ∧
      (s.arena.isEmpty → s.GivesBackAll env guest calls →
        (s.askAll env guest calls).arena.isEmpty ∧
          ∀ r, ((s.askAll env guest calls).arena.store r).1 = 1)) := by
  have hsound := hs.isSound
  refine ⟨fun e b ↦ ⟨?_, ?_, ?_⟩, fun e b hempty hback ↦ ?_,
    fun calls ↦ ⟨?_, fun hempty hback ↦ ?_⟩⟩
  · exact fun h hh ↦ Session.fetch_of_mem_handles hh
  · exact Session.perform_roster hsound
  · exact hs.use (.ask e b)
  · have hend := hback.isEmpty hempty
    exact ⟨hend, Arena.store_fst_of_isEmpty hsound.perform.isCounting hend⟩
  · exact Session.askAll_roster hsound calls
  · have hend := hback.isEmpty hempty
    exact ⟨hend, Arena.store_fst_of_isEmpty (hsound.askAll calls).isCounting hend⟩

/-- A guest that destroys its argument, creates a request, destroys it and breaks down. -/
def thorough : Behaviour where
  work := [.call "std.destroy" [.parameter 0], .call "net.init" [.literal 0],
    .call "std.destroy" [.result 0], .trap]

/-- A call that breaks down after the guest has destroyed its only argument, and one during which a
handler is registered. -/
theorem callsCleanUp_thorough :
    let s := (Session.load .still .complete ∅ []).2
    (s.setUp .still (.deepLink "here")).handles = [1] ∧
      (s.perform .still .complete (.deepLink "here") thorough).2.arena.fetch 1 = none ∧
      (s.perform .still .complete (.deepLink "here") thorough).2.arena.isEmpty ∧
      (s.askAll .still .complete [(.deepLink "here", thorough), (.home, {})]).mailbox.roster = [] ∧
      (s.askAll .still .complete [(.deepLink "here", thorough), (.home, {})]).arena.isEmpty := by
  intro s
  have hloaded : s.IsLoaded .still .complete := ⟨∅, [], _, s, [], Prod.ext rfl rfl, rfl⟩
  obtain ⟨hcall, hempty, hcalls⟩ := callsCleanUp .still .complete s hloaded
  have hhandles : (s.setUp .still (.deepLink "here")).handles = [1] := by decide +kernel
  have hthorough : s.GivesBack .still .complete (.deepLink "here") thorough :=
    .of_isEmpty (by decide +kernel)
  have hhome : (s.perform .still .complete (.deepLink "here") thorough).2.GivesBack
      .still .complete .home {} := .of_isEmpty (by decide +kernel)
  have hboth : s.GivesBackAll .still .complete [(.deepLink "here", thorough), (.home, {})] :=
    ⟨hthorough, hhome, trivial⟩
  refine ⟨hhandles, (hcall _ _).1 1 ?_, (hempty _ _ (by decide +kernel) hthorough).1,
    (hcalls _).1.trans rfl, ((hcalls _).2 (by decide +kernel) hboth).1⟩
  rw [hhandles]
  exact List.mem_singleton_self 1

end SourceHost
