import SourceHost.Proofs.Session.Turn

/-!
# What a guest sends

While a call is going on a guest can send pieces of a result.  Everything it does besides is unheard
of by those who wait for them: the mailbox and what has been published are, after a script, what
they would be if the pieces had been delivered and nothing else had been done.

* `Session.news` — the mailbox, and what has been published.
* `HostFunction.run_news` — of all functions of the host one delivers, and it delivers one piece.
* `Script.sent` — the pieces that a script sends.
* `Script.run_news` — a script does to the mailbox what its pieces do.
* `Script.moments_news` — and so it is at every moment on the way.
-/

set_option autoImplicit false

namespace SourceHost

namespace Session

/-- The mailbox, and what has been published. -/
def news (s : Session) : Mailbox Bytes Streamed × Option Manga × Option Home :=
  (s.mailbox, s.mangaUpdate, s.homeUpdate)

variable {env : Environment} {s t : Session}

/-! ## Deliveries -/

theorem news_eq_iff : s.news = t.news ↔
    s.mailbox = t.mailbox ∧ s.mangaUpdate = t.mangaUpdate ∧ s.homeUpdate = t.homeUpdate := by
  simp [news]

theorem news_publish (h : s.news = t.news) (r : Mailbox.Run Streamed) :
    (s.publish r).news = (t.publish r).news := by
  obtain ⟨hmailbox, hmanga, hhome⟩ := news_eq_iff.1 h
  rw [publish, publish]
  split <;> simp [news, hmailbox, hmanga, hhome]

theorem news_foldl_publish (h : s.news = t.news) (runs : List (Mailbox.Run Streamed)) :
    (runs.foldl publish s).news = (runs.foldl publish t).news := by
  induction runs generalizing s t with
  | nil => exact h
  | cons r runs ih => exact ih (news_publish h r)

/-- What a piece does to the news depends on the news and on nothing else. -/
theorem news_deliver (h : s.news = t.news) (data : Bytes) :
    (s.deliver data).news = (t.deliver data).news := by
  obtain ⟨hmailbox, hmanga, hhome⟩ := news_eq_iff.1 h
  rw [deliver, deliver, hmailbox]
  exact news_foldl_publish (by simp [news, hmanga, hhome]) _

theorem news_foldl_deliver (h : s.news = t.news) (pieces : List Bytes) :
    (pieces.foldl deliver s).news = (pieces.foldl deliver t).news := by
  induction pieces generalizing s t with
  | nil => exact h
  | cons data pieces ih => exact ih (news_deliver h data)

/-! ## What is done besides -/

theorem news_growMemory (pages : Nat) : (s.growMemory env pages).2.news = s.news := by
  simp only [growMemory]
  split <;> rfl

theorem news_growTable (elements : Nat) : (s.growTable env elements).2.news = s.news := by
  simp only [growTable]
  split <;> rfl

theorem news_poke {at_ : Int} {data : Bytes} (h : s.poke at_ data = some t) : t.news = s.news := by
  rw [poke_eq h]
  rfl

end Session

open Session

variable {env : Environment} {s : Session}

/-- The pieces that are sent when a function is called: one, if it is the function for it and there
is a piece at the place it is given. -/
def HostFunction.sent (f : HostFunction) (arguments : List Int) (s : Session) : List Bytes :=
  if f = sendPartial then (s.payloadAt (arguments.getD 0 0)).toOption.toList else []

/-- **One function of the host delivers, and all others are unheard of.** -/
theorem HostFunction.run_news (f : HostFunction) (arguments : List Int) :
    (f.run env arguments s).2.news = ((f.sent arguments s).foldl deliver s).news := by
  by_cases hf : f = sendPartial
  · subst hf
    simp only [run, sent, Session.sendPartial, if_true]
    split <;> rename_i hpayload <;> rw [hpayload] <;> rfl
  · rw [sent, if_neg hf]
    have hleaves : f.Leaves s (f.run env arguments s).2 := f.run_leaves arguments
    exact news_eq_iff.2 ⟨hleaves.mailbox hf, hleaves.mangaUpdate hf, hleaves.homeUpdate hf⟩

/-- The pieces that are sent when a function is called by its name: none by a function that has been
added. -/
def Environment.sent (env : Environment) (name : String) (arguments : List Int) (s : Session) :
    List Bytes :=
  match env.capabilities.find? (·.name = name) with
  | some _ => []
  | none => match HostFunction.ofName? name with
    | some f => f.sent arguments s
    | none => []

theorem Environment.callFunction_news (name : String) (arguments : List Int) :
    (env.callFunction name arguments s).2.news =
      ((env.sent name arguments s).foldl deliver s).news := by
  rw [callFunction, sent]
  generalize env.capabilities.find? _ = added
  cases added with
  | some capability => rfl
  | none =>
    dsimp only
    cases HostFunction.ofName? name with
    | some f => exact f.run_news arguments
    | none => rfl

/-! ## Scripts -/

/-- The pieces that are sent in a step. -/
def Step.sent (env : Environment) (parameters results : List Int) (s : Session) :
    Step → List Bytes
  | call name arguments => env.sent name (arguments.map (·.value parameters results)) s
  | _ => []

/-- **A step does to the news what its pieces do.** -/
theorem Step.run_news (step : Step) (parameters results : List Int) :
    (step.run env parameters results s).2.news =
      ((step.sent env parameters results s).foldl deliver s).news := by
  cases step with
  | call name arguments =>
    have hcall := env.callFunction_news (s := s) name (arguments.map (·.value parameters results))
    simp only [run, sent]
    split <;> rename_i heq <;> rw [heq] at hcall <;> exact hcall
  | write | writeIntegers =>
    simp only [run]
    split
    · exact news_poke ‹_›
    · rfl
  | read =>
    simp only [run]
    split <;> rfl
  | growMemory pages => exact news_growMemory _
  | growTable elements => exact news_growTable _
  | showResource | showArena | showUpdates | trap | spin | ret => rfl

namespace Script

/-- The pieces that a script sends. -/
def sent (env : Environment) (parameters : List Int) :
    Script → (results : List Int) → Session → List Bytes
  | [], _, _ => []
  | step :: rest, results, s =>
    step.sent env parameters results s ++
      match step.run env parameters results s with
      | (.next results, s) => sent env parameters rest results s
      | (.stop _, _) => []

/-- **A script does to the news what its pieces do.** -/
theorem run_news (script : Script) (parameters results : List Int) (s : Session) :
    (Script.run env parameters script results s).2.news =
      ((script.sent env parameters results s).foldl deliver s).news := by
  induction script generalizing results s with
  | nil => rfl
  | cons step rest ih =>
    have hstep := @Step.run_news env s step parameters results
    rw [Script.run, sent, List.foldl_append]
    generalize step.run env parameters results s = outcome at hstep ⊢
    rcases outcome with ⟨results | ending, t⟩
    · exact (ih results t).trans (news_foldl_deliver hstep _)
    · exact hstep

/-- The sessions a script passes through: the one it begins with, and that after each of its
steps. -/
def moments (env : Environment) (parameters : List Int) :
    Script → (results : List Int) → Session → List Session
  | [], _, s => [s]
  | step :: rest, results, s =>
    s :: match step.run env parameters results s with
      | (.next results, s) => moments env parameters rest results s
      | (.stop _, s) => [s]

/-- At every moment of a script some of its pieces have been delivered, and nothing else has come of
it so far. -/
theorem moments_news (script : Script) (parameters results : List Int) (s : Session) :
    ∀ t ∈ script.moments env parameters results s,
      ∃ pieces, pieces <+: script.sent env parameters results s ∧
        t.news = (pieces.foldl deliver s).news := by
  induction script generalizing results s with
  | nil => exact List.forall_mem_singleton.2 ⟨[], List.nil_prefix, rfl⟩
  | cons step rest ih =>
    have hstep := @Step.run_news env s step parameters results
    rw [moments, sent]
    refine List.forall_mem_cons.2 ⟨⟨[], List.nil_prefix, rfl⟩, ?_⟩
    generalize step.run env parameters results s = outcome at hstep ⊢
    rcases outcome with ⟨results | ending, u⟩
    · intro t ht
      obtain ⟨pieces, hpieces, ht⟩ := ih results u t ht
      refine ⟨_, (List.prefix_append_right_inj _).2 hpieces, ?_⟩
      rw [List.foldl_append]
      exact ht.trans (news_foldl_deliver hstep _)
    · exact List.forall_mem_singleton.2 ⟨_, List.prefix_append _ [], hstep⟩

end Script

end SourceHost
