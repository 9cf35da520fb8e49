import SourceHost.Proofs.Source.Call

/-!
# What is done with a loaded source

A source that has been loaded is asked questions.  Between two of them the host may put things into
the arena and take them out again, and may want to see what the guest sends.  `Session.IsLoaded`
are the sessions that can come of this, in any order and any number of times.

* `IsLoaded.isSound` — in all of them the counter of the arena and the numbers of the registrations
  are in order.
* `perform_roster` — after a question the same handlers are registered as before.
-/

set_option autoImplicit false

namespace SourceHost

/-! ## The numbers of registrations -/

namespace Mailbox

variable {β σ : Type} (m : Mailbox β σ)

theorem roster_register (handler : Option σ → β → Option σ) :
    (m.register handler).2.roster = m.roster ++ [(m.nextId, handler, true)] := by
  rw [roster, register, List.map_append]
  rfl

theorem roster_drop (id : Nat) : (m.drop id).roster = m.roster.filter (·.1 ≠ id) := by
  rw [roster, roster, drop, List.filter_map]
  rfl

/-- The number of the next registration is larger than that of any other. -/
def IsNumbered : Prop := ∀ x ∈ m.roster, x.1 < m.nextId

variable {m}

theorem IsNumbered.register (h : m.IsNumbered) (handler : Option σ → β → Option σ) :
    (m.register handler).2.IsNumbered := by
  intro x hx
  rw [roster_register] at hx
  rcases List.mem_append.1 hx with hx | hx
  · exact Nat.lt_succ_of_lt (h x hx)
  · rw [List.mem_singleton.1 hx]
    exact Nat.lt_succ_self _

theorem IsNumbered.drop (h : m.IsNumbered) (id : Nat) : (m.drop id).IsNumbered := by
  intro x hx
  rw [roster_drop] at hx
  exact h x (List.mem_of_mem_filter hx)

theorem IsNumbered.unregister (h : m.IsNumbered) (id : Nat) : (m.unregister id).2.IsNumbered := by
  intro x hx
  obtain ⟨r, hr, rfl⟩ := List.mem_map.1 hx
  obtain ⟨r', hr', rfl⟩ := List.mem_map.1 hr
  have hlt := h _ (List.mem_map_of_mem hr')
  dsimp only
  split <;> exact hlt

/-- Nothing is left of a registration that has come and gone. -/
theorem IsNumbered.roster_drop_register (h : m.IsNumbered) (handler : Option σ → β → Option σ)
    {m' : Mailbox β σ} (hm' : m'.roster = (m.register handler).2.roster) :
    (m'.drop m.nextId).roster = m.roster := by
  rw [roster_drop, hm', roster_register, List.filter_append, List.filter_eq_self.2]
  · simp
  · exact fun x hx ↦ decide_eq_true (Nat.ne_of_lt (h x hx))

end Mailbox

namespace Session

/-- The counter of the arena and the numbers of the registrations are in order. -/
structure IsSound (s : Session) : Prop where
  /-- The counter of the arena. -/
  isCounting : s.arena.IsCounting
  /-- The numbers of the registrations. -/
  isNumbered : s.mailbox.IsNumbered

variable {env : Environment} {guest : Guest} {e : Entry} {b : Behaviour} {s : Session}

theorem finished_isCounting (hs : s.IsSound) : (s.finished env guest e b).arena.IsCounting :=
  finished_arena (Q := fun _ ↦ True) (fun _ _ hturn _ _ ↦ hturn.isCounting) (fun _ _ ↦ trivial)
    (setUp_isCounting hs.isCounting)

/-- After a question the same handlers are registered as before. -/
theorem perform_roster (hs : s.IsSound) :
    (s.perform env guest e b).2.mailbox.roster = s.mailbox.roster := by
  rw [perform_snd]
  rcases @setUp_mailbox env e s with ⟨hnone, hmailbox⟩ | ⟨handler, hsome, hmailbox⟩
  · rw [hnone]
    exact finished_mailbox.1.trans (congrArg Mailbox.roster hmailbox)
  · rw [hsome]
    refine hs.isNumbered.roster_drop_register handler (finished_mailbox.1.trans ?_)
    exact congrArg Mailbox.roster hmailbox

theorem perform_nextId : s.mailbox.nextId ≤ (s.perform env guest e b).2.mailbox.nextId := by
  rw [perform_snd]
  have hfinished := (@finished_mailbox env guest e b s).2
  rcases @setUp_mailbox env e s with ⟨hnone, hmailbox⟩ | ⟨handler, hsome, hmailbox⟩
  · rw [hnone]
    exact Nat.le_of_eq (hfinished.trans (congrArg Mailbox.nextId hmailbox)).symm
  · rw [hsome]
    refine Nat.le_trans (Nat.le_succ _) (Nat.le_of_eq ?_)
    exact (hfinished.trans (congrArg Mailbox.nextId hmailbox)).symm

theorem IsSound.perform (hs : s.IsSound) : (s.perform env guest e b).2.IsSound := by
  refine ⟨?_, fun x hx ↦ ?_⟩
  · rw [perform_snd]
    exact ((finished_isCounting hs).removeAll _).removeAll _
  · rw [perform_roster hs] at hx
    exact Nat.lt_of_lt_of_le (hs.isNumbered x hx) perform_nextId

end Session

/-! ## Uses -/

/-- Something that is done with a loaded source. -/
inductive Use where
  /-- A question is asked, and the guest behaves in some way. -/
  | ask (e : Entry) (b : Behaviour)
  /-- A resource is stored. -/
  | store (r : Resource)
  /-- A resource is put under a handle. -/
  | replace (h : Handle) (r : Resource)
  /-- A resource is taken away. -/
  | remove (h : Handle)
  /-- A handler is registered. -/
  | register (handler : Option Streamed → Bytes → Option Streamed)
  /-- A handler is unregistered. -/
  | unregister (id : Nat)
  /-- A registration ends. -/
  | drop (id : Nat)

/-- The session after it has been done. -/
def Use.run (env : Environment) (guest : Guest) (u : Use) (s : Session) : Session :=
  match u with
  | ask e b => (s.perform env guest e b).2
  | store r => { s with arena := (s.arena.store r).2 }
  | replace h r => { s with arena := s.arena.replace h r }
  | remove h => { s with arena := s.arena.remove h }
  | register handler => { s with mailbox := (s.mailbox.register handler).2 }
  | unregister id => { s with mailbox := (s.mailbox.unregister id).2 }
  | drop id => { s with mailbox := s.mailbox.drop id }

namespace Session

/-- The session after several things have been done in turn. -/
def useAll (env : Environment) (guest : Guest) (uses : List Use) (s : Session) : Session :=
  uses.foldl (fun s u ↦ u.run env guest s) s

/-- The session is that of a source that has been loaded and used since. -/
def IsLoaded (env : Environment) (guest : Guest) (s : Session) : Prop :=
  ∃ settings start features s₀ uses, load env guest settings start = (.ok features, s₀) ∧
    s = s₀.useAll env guest uses

variable {env : Environment} {guest : Guest} {s : Session}

theorem IsSound.use (hs : s.IsSound) (u : Use) : (u.run env guest s).IsSound := by
  cases u with
  | ask e b => exact hs.perform
  | store r => exact ⟨hs.isCounting.store r, hs.isNumbered⟩
  | replace h r => exact ⟨hs.isCounting.replace h r, hs.isNumbered⟩
  | remove h => exact ⟨hs.isCounting.remove h, hs.isNumbered⟩
  | register handler => exact ⟨hs.isCounting, hs.isNumbered.register handler⟩
  | unregister id => exact ⟨hs.isCounting, hs.isNumbered.unregister id⟩
  | drop id => exact ⟨hs.isCounting, hs.isNumbered.drop id⟩

theorem IsSound.useAll (hs : s.IsSound) (uses : List Use) : (s.useAll env guest uses).IsSound := by
  induction uses generalizing s with
  | nil => exact hs
  | cons u uses ih => exact ih (hs.use u)

theorem load_snd {settings : Settings} {start : Script} {features : Features} {s₀ : Session}
    (h : load env guest settings start = (.ok features, s₀)) :
    s₀ = ((initial guest settings).call env guest "start" [] start).2 := by
  unfold load at h
  split at h
  · cases h
  · dsimp only at h
    split at h
    · cases h
    · rename_i heq
      cases h
      rw [heq]

theorem load_isSound {settings : Settings} {start : Script} {features : Features} {s₀ : Session}
    (h : load env guest settings start = (.ok features, s₀)) : s₀.IsSound := by
  have hkeeps : (initial guest settings).Keeps
      ((initial guest settings).call env guest "start" [] start).2 := call_keeps "start" []
  rw [load_snd h]
  refine ⟨?_, fun x hx ↦ ?_⟩
  · exact call_arena (Q := fun _ ↦ True) (fun _ _ hturn _ _ ↦ hturn.isCounting) (fun _ _ ↦ trivial)
      Arena.isCounting_empty
  · rw [hkeeps.roster] at hx
    cases hx

theorem load_freed {settings : Settings} {start : Script} {features : Features} {s₀ : Session}
    (h : load env guest settings start = (.ok features, s₀)) : s₀.freed = [] := by
  rw [load_snd h]
  exact (call_keeps "start" []).freed

theorem IsLoaded.isSound (hs : s.IsLoaded env guest) : s.IsSound := by
  obtain ⟨settings, start, features, s₀, uses, hload, rfl⟩ := hs
  exact (load_isSound hload).useAll uses

theorem IsLoaded.use (hs : s.IsLoaded env guest) (u : Use) :
    (u.run env guest s).IsLoaded env guest := by
  obtain ⟨settings, start, features, s₀, uses, hload, rfl⟩ := hs
  refine ⟨settings, start, features, s₀, uses ++ [u], hload, ?_⟩
  rw [useAll, useAll, List.foldl_append]
  rfl

end Session

/-! ## Something to load -/

/-- A guest that has every entry point. -/
def Guest.complete : Guest where
  exports := (requiredExports ++ optionalExports).map fun name ↦ (name, .function)

/-- An environment in which no request is served. -/
def Environment.still : Environment where
  config := { sourceKey := "en.here" }
  web := fun _ _ ↦ .refusal "nobody is there"
  zones := fun _ ↦ none

end SourceHost
