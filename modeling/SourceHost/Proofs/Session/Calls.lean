import SourceHost.Proofs.Session.Turn

/-!
# The calls of a script

Between two calls of functions of the host a guest can do as it likes with its own memory and its
own table, and that is all.  So what happens to the arena, to the settings and to the requests that
are sent is told by the calls alone, each with the session in which it was made.

* `HostCall`, `Script.calls` — the calls that are made while a script runs.
* `Session.Rests` — nothing that a function of the host has to do with has changed.
* `Script.chain` — each call finds what the one before it has left.
* `Chain.split` — so a run can be parted at any of its calls.
-/

set_option autoImplicit false

namespace SourceHost

/-- A call of a function of the host. -/
structure HostCall where
  /-- The function. -/
  function : HostFunction
  /-- What it is called with. -/
  arguments : List Int
  /-- The session in which it is called. -/
  before : Session

namespace HostCall

/-- An argument; one that is not given is zero. -/
def arg (c : HostCall) (i : Nat) : Int := c.arguments.getD i 0

/-- The session afterwards. -/
def after (env : Environment) (c : HostCall) : Session :=
  (c.function.run env c.arguments c.before).2

theorem after_turn {env : Environment} (c : HostCall) : c.before.Turn (c.after env) :=
  c.function.run_turn c.arguments

/-- What it returns, if that is a number of 32 bits. -/
def code? (env : Environment) (c : HostCall) : Option Int :=
  match (c.function.run env c.arguments c.before).1 with
  | some (.word code) => some code
  | _ => none

theorem returns_of_run {env : Environment} {f : HostFunction} {arguments : List Int}
    {s t : Session} {code : Int} (hrun : f.run env arguments s = (some (.word code), t)) :
    let c : HostCall := ⟨f, arguments, s⟩
    c.code? env = some code ∧ c.after env = t := by
  intro c
  rw [code?, after, hrun]
  exact ⟨rfl, rfl⟩

end HostCall

/-- The call that a step makes, if it is one of a function of the host that no other has taken the
place of. -/
def Step.call? (env : Environment) (parameters results : List Int) (s : Session) :
    Step → Option HostCall
  | .call name arguments => match env.capabilities.find? (·.name = name) with
    | some _ => none
    | none => (HostFunction.ofName? name).map fun f ↦
      { function := f, arguments := arguments.map (·.value parameters results), before := s }
  | _ => none

/-- The calls that are made while a script runs, in their order. -/
def Script.calls (env : Environment) (parameters : List Int) : Script → List Int → Session →
    List HostCall
  | [], _, _ => []
  | step :: rest, results, s =>
    (step.call? env parameters results s).toList ++ match step.run env parameters results s with
      | (.next results, s) => calls env parameters rest results s
      | (.stop _, _) => []

namespace Session

/-- Nothing has changed that a function of the host has to do with, but for the memory. -/
structure Rests (s t : Session) : Prop where
  /-- What is kept is the same. -/
  arena : t.arena = s.arena
  /-- So are the settings. -/
  settings : t.settings = s.settings
  /-- The window of the rate limit is the same. -/
  window : t.window = s.window
  /-- No time has passed. -/
  now : t.now = s.now
  /-- No request has been sent. -/
  dispatched : t.dispatched = s.dispatched
  /-- So it stands in the account of what has happened. -/
  requests : t.requests = s.requests

variable {env : Environment} {s t u : Session}

theorem Rests.refl (s : Session) : s.Rests s := ⟨rfl, rfl, rfl, rfl, rfl, rfl⟩

theorem Rests.trans (h : s.Rests t) (h' : t.Rests u) : s.Rests u :=
  ⟨h'.arena.trans h.arena, h'.settings.trans h.settings, h'.window.trans h.window,
    h'.now.trans h.now, h'.dispatched.trans h.dispatched, h'.requests.trans h.requests⟩

theorem rests_log (s : Session) (e : Event) : s.Rests (s.log e) := ⟨rfl, rfl, rfl, rfl, rfl, rfl⟩

theorem poke_rests {at_ : Int} {data : Bytes} (h : s.poke at_ data = some t) : s.Rests t := by
  rw [poke_eq h]
  exact ⟨rfl, rfl, rfl, rfl, rfl, rfl⟩

theorem growMemory_rests (pages : Nat) : s.Rests (s.growMemory env pages).2 := by
  simp only [growMemory]
  split <;> exact ⟨rfl, rfl, rfl, rfl, rfl, rfl⟩

theorem growTable_rests (elements : Nat) : s.Rests (s.growTable env elements).2 := by
  simp only [growTable]
  split <;> exact ⟨rfl, rfl, rfl, rfl, rfl, rfl⟩

end Session

open Session

variable {env : Environment} {parameters results : List Int} {s t : Session}

theorem Environment.callFunction_of_find? {name : String} (arguments : List Int)
    {capability : Capability} (h : env.capabilities.find? (·.name = name) = some capability) :
    s.Rests (env.callFunction name arguments s).2 := by
  rw [callFunction, h]
  exact ⟨rfl, rfl, rfl, rfl, rfl, rfl⟩

/-- A step makes a call and nothing else, or it makes none. -/
theorem Step.run_cases (env : Environment) (parameters results : List Int) (s : Session)
    (step : Step) :
    (step.call? env parameters results s = none ∧
      s.Rests (step.run env parameters results s).2) ∨
    ∃ c, step.call? env parameters results s = some c ∧ c.before = s ∧
      (c.after env).Rests (step.run env parameters results s).2 := by
  cases step with
  | call name arguments =>
    simp only [run, call?]
    cases hcapability : env.capabilities.find? (·.name = name) with
    | some capability =>
      refine .inl ⟨rfl, ?_⟩
      have hrests := Environment.callFunction_of_find? (s := s)
        (arguments.map (·.value parameters results)) hcapability
      split
      · rename_i heq
        rw [heq] at hrests
        exact hrests
      · rename_i heq
        rw [heq] at hrests
        exact hrests.trans (rests_log _ _)
    | none =>
      simp only [Environment.callFunction, hcapability]
      cases hname : HostFunction.ofName? name with
      | none => exact .inl ⟨rfl, .refl s⟩
      | some f =>
        refine .inr ⟨_, rfl, rfl, ?_⟩
        rw [HostCall.after]
        dsimp only
        split
        · rename_i heq
          rw [heq]
          exact .refl _
        · rename_i heq
          rw [heq]
          exact rests_log _ _
  | write at_ data =>
    refine .inl ⟨rfl, ?_⟩
    simp only [run]
    split
    · exact poke_rests ‹_›
    · exact .refl s
  | writeIntegers at_ values =>
    refine .inl ⟨rfl, ?_⟩
    simp only [run]
    split
    · exact poke_rests ‹_›
    · exact .refl s
  | read at_ length =>
    refine .inl ⟨rfl, ?_⟩
    simp only [run]
    split
    · exact rests_log s _
    · exact .refl s
  | growMemory pages => exact .inl ⟨rfl, (growMemory_rests _).trans (rests_log _ _)⟩
  | growTable elements => exact .inl ⟨rfl, (growTable_rests _).trans (rests_log _ _)⟩
  | showResource | showArena | showUpdates => exact .inl ⟨rfl, rests_log s _⟩
  | trap | spin | ret => exact .inl ⟨rfl, .refl s⟩

/-- Calls are made one after the other, each of which finds what the one before it has left. -/
inductive Chain (env : Environment) : Session → List HostCall → Session → Prop
  | done {s t : Session} (h : s.Rests t) : Chain env s [] t
  | call {s t : Session} {c : HostCall} {cs : List HostCall} (h : s.Rests c.before)
      (hrest : Chain env (c.after env) cs t) : Chain env s (c :: cs) t

namespace Chain

variable {u : Session} {c : HostCall} {cs ds : List HostCall}

/-- A chain is parted at any of its calls. -/
theorem split (h : Chain env s (cs ++ c :: ds) t) :
    Chain env s cs c.before ∧ Chain env (c.after env) ds t := by
  induction cs generalizing s with
  | nil =>
    cases h with
    | call h hrest => exact ⟨.done h, hrest⟩
  | cons d cs ih =>
    cases h with
    | call h hrest =>
      obtain ⟨hfront, hback⟩ := ih hrest
      exact ⟨.call h hfront, hback⟩

end Chain

end SourceHost
