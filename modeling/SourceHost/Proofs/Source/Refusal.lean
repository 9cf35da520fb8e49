import SourceHost.Proofs.Source.Delivery

/-!
# Entry points that a guest lacks

When a source is asked a question the arguments are stored, and the handler is registered, before
anybody looks whether the guest has the function that is to be called.  If it has not, all of this
has to be undone, and nothing else may have been done.

* `Session.entered`, `Script.run_entered` — which functions of the guest have been called, and that
  none is called while one runs.
* `Guest.refusal`, `enter_of_lookup_ne` — a guest without the function is not called.
* `Arena.entries_removeAll_place`, `Mailbox.IsNumbered.drop_register` — what has been stored and
  registered goes, and nothing else.
* `refusedWithoutTrace` — all of it, and that a function that is there is called once.
-/

set_option autoImplicit false

namespace SourceHost

/-! ## Calls of the guest -/

/-- The call that an event tells of. -/
def Event.entered? : Event → Option (String × List Int)
  | enter name parameters => some (name, parameters)
  | _ => none

namespace Session

/-- The functions of the guest that have been called, and with what. -/
def entered (s : Session) : List (String × List Int) := s.events.filterMap Event.entered?

variable {env : Environment} {s t : Session}

theorem entered_congr (h : t.events = s.events) : t.entered = s.entered := by
  rw [entered, entered, h]

theorem entered_log (e : Event) : (s.log e).entered = s.entered ++ e.entered?.toList := by
  rw [entered, log, List.filterMap_append]
  cases h : e.entered? <;> simp [entered, h]

theorem events_poke {at_ : Int} {data : Bytes} (h : s.poke at_ data = some t) :
    t.events = s.events := by
  rw [poke_eq h]

theorem events_growMemory (pages : Nat) : (s.growMemory env pages).2.events = s.events := by
  simp only [growMemory]
  split <;> rfl

theorem events_growTable (elements : Nat) : (s.growTable env elements).2.events = s.events := by
  simp only [growTable]
  split <;> rfl

end Session

open Session

variable {env : Environment} {guest : Guest} {e : Entry} {b : Behaviour} {s : Session}

theorem Environment.callFunction_events (name : String) (arguments : List Int) :
    (env.callFunction name arguments s).2.events = s.events := by
  rw [callFunction]
  split
  · rfl
  · split
    · exact (HostFunction.run_leaves _ _).events
    · rfl

/-- No step of a guest calls a function of the guest. -/
theorem Step.run_entered (step : Step) (parameters results : List Int) :
    (step.run env parameters results s).2.entered = s.entered := by
  have hlog (t : Session) (ht : t.events = s.events) {e : Event} (he : e.entered? = none) :
      (t.log e).entered = s.entered := by
    rw [entered_log, he, Option.toList_none, List.append_nil, entered, entered, ht]
  cases step with
  | call name arguments =>
    have hcall := env.callFunction_events (s := s) name (arguments.map (·.value parameters results))
    simp only [run]
    split <;> rename_i heq <;> rw [heq] at hcall
    · exact entered_congr hcall
    · exact hlog _ hcall rfl
  | write | writeIntegers =>
    simp only [run]
    split
    · exact entered_congr (events_poke ‹_›)
    · rfl
  | read =>
    simp only [run]
    split
    · exact hlog s rfl rfl
    · rfl
  | growMemory pages => exact hlog _ (events_growMemory _) rfl
  | growTable elements => exact hlog _ (events_growTable _) rfl
  | showResource | showArena | showUpdates => exact hlog s rfl rfl
  | trap | spin | ret => rfl

/-- **While a function of the guest runs no other is called.** -/
theorem Script.run_entered (script : Script) (parameters results : List Int) (s : Session) :
    (Script.run env parameters script results s).2.entered = s.entered := by
  induction script generalizing results s with
  | nil => rfl
  | cons step rest ih =>
    have hstep := @Step.run_entered env s step parameters results
    rw [Script.run]
    generalize step.run env parameters results s = outcome at hstep ⊢
    rcases outcome with ⟨results | ending, t⟩
    · exact (ih results t).trans hstep
    · exact hstep

namespace Session

theorem takeResult_entered {script : Script} {ret : Int} :
    (s.takeResult env script ret).2.entered = s.entered := by
  rcases Int.lt_or_le ret 0 with hret | hret
  · rw [takeResult_of_neg hret]
  · rw [takeResult_of_nonneg hret]
    exact script.run_entered [ret] [] { s with freed := s.freed ++ [ret] }

theorem setUp_events : (s.setUp env e).session.events = s.events := by
  rw [setUp]
  dsimp only
  rw [place_eq]
  cases e <;> rfl

/-- A guest that has the function is called once, and nothing else of it but the function that takes
its result back. -/
theorem perform_entered (h : guest.exports.lookup e.name = some .function) :
    (s.perform env guest e b).2.entered = s.entered ++ [(e.name, (s.setUp env e).parameters)] := by
  have henter : (s.enter env guest e b).2.entered =
      s.entered ++ [(e.name, (s.setUp env e).parameters)] := by
    have hsetUp : (s.setUp env e).session.entered = s.entered := entered_congr setUp_events
    rw [enter_eq h, Prod.map_snd, id, Script.run_entered, entered_log, hsetUp]
    rfl
  have hfinished : (s.finished env guest e b).entered = (s.enter env guest e b).2.entered := by
    rw [finished]
    generalize s.enter env guest e b = entered
    rcases entered with ⟨_ | ret, t⟩
    · rfl
    · exact takeResult_entered
  rw [perform_snd]
  exact hfinished.trans henter

end Session

/-! ## Undoing -/

/-- What has been stored for a call is taken away, and nothing else. -/
theorem Arena.entries_removeAll_place {args : List Argument}
    (hfree : ∀ h ∈ (s.place args).2.1, s.arena.fetch h = none) :
    ((s.place args).2.2.arena.removeAll (s.place args).2.1).entries = s.arena.entries := by
  refine Std.ExtTreeMap.ext_getElem? fun h ↦ ?_
  show Arena.fetch _ h = s.arena.fetch h
  rw [fetch_removeAll]
  split
  · exact (hfree h ‹_›).symm
  · exact fetch_place ‹_›

/-- A handler that has been registered is taken away, and no other. -/
theorem Mailbox.IsNumbered.drop_register {β σ : Type} {m : Mailbox β σ} (h : m.IsNumbered)
    (handler : Option σ → β → Option σ) :
    ((m.register handler).2.drop m.nextId).registrations = m.registrations := by
  have hothers : m.registrations.filter (·.id ≠ m.nextId) = m.registrations :=
    List.filter_eq_self.2 fun r hr ↦
      decide_eq_true (Nat.ne_of_lt (h _ (List.mem_map_of_mem hr)))
  rw [Mailbox.drop, Mailbox.register, List.filter_append, hothers]
  simp

/-! ## Refusals -/

/-- Why a guest that lacks a function cannot be called. -/
def Guest.refusal (guest : Guest) (name : String) : HostError :=
  match guest.exports.lookup name with
  | some .otherFunction => .link name .wrongSignature
  | _ => .unimplemented

theorem Guest.refusal_of_not_hasFunction {name : String} (h : guest.hasFunction name = false) :
    guest.exports.lookup name ≠ some .function ∧ guest.refusal name = .unimplemented := by
  rw [hasFunction, function?] at h
  rw [refusal]
  cases hlookup : guest.exports.lookup name with
  | none => exact ⟨by decide, rfl⟩
  | some kind =>
    rw [hlookup] at h
    cases kind with
    | noFunction => exact ⟨by decide, rfl⟩
    | function | otherFunction => cases h

namespace Session

/-- A guest that lacks the function is not called. -/
theorem enter_of_lookup_ne (h : guest.exports.lookup e.name ≠ some .function) :
    s.enter env guest e b = (.error (guest.refusal e.name), (s.setUp env e).session) := by
  rw [enter, call, e.supports_name, e.lookup_entryPoints, Guest.refusal, Guest.hasFunction,
    Guest.function?]
  rcases hlookup : guest.exports.lookup e.name with _ | kind
  · cases e.feature? <;> rfl
  · cases kind with
    | function => exact absurd hlookup h
    | otherFunction | noFunction => cases e.feature? <;> rfl

/-- The session after a call that has been set up and given up. -/
theorem perform_of_lookup_ne (h : guest.exports.lookup e.name ≠ some .function) :
    s.perform env guest e b = (.error (guest.refusal e.name),
      (s.setUp env e).session.cleanUp (s.setUp env e).registration (s.setUp env e).handles) := by
  rw [perform_eq, enter_of_lookup_ne h]

/-- A call that has been set up and given up leaves nothing behind but that counters have gone on,
and that what had been published for the same question is not any more. -/
theorem cleanUp_setUp (hs : s.IsSound) :
    let t := (s.setUp env e).session.cleanUp (s.setUp env e).registration (s.setUp env e).handles
    t = { e.begin s with
      arena := t.arena
      mailbox := { s.mailbox with nextId := t.mailbox.nextId } } ∧
    (s.arena.HasFree (s.setUp env e).handles.length → t.arena.entries = s.arena.entries) := by
  intro t
  refine ⟨?_, fun hfree ↦ ?_⟩
  · have hregistrations : t.mailbox.registrations = s.mailbox.registrations := by
      rcases @setUp_mailbox env e s with ⟨hnone, hmailbox⟩ | ⟨handler, hsome, hmailbox⟩
      · simp only [t, cleanUp, hnone, hmailbox]
      · simp only [t, cleanUp, hsome, hmailbox]
        exact hs.isNumbered.drop_register handler
    have hrest : t = { e.begin s with arena := t.arena, mailbox := t.mailbox } := by
      simp only [t, cleanUp, setUp]
      rw [place_eq]
      cases e <;> rfl
    have hmailbox : t.mailbox = { s.mailbox with nextId := t.mailbox.nextId } :=
      congrArg (Mailbox.mk · t.mailbox.nextId) hregistrations
    rw [← hmailbox]
    exact hrest
  · obtain ⟨-, -, hfresh⟩ := setUp_reaches hs.isCounting hfree
    have hbegin := @listen_begin_arena env e s
    rw [← hbegin] at hfresh ⊢
    exact Arena.entries_removeAll_place fun h hh ↦ (hfresh h hh).2

end Session

/-- **What a guest lacks is refused without a trace.**  Of every guest, every question and every
behaviour, in a session whose counters are in order, as they are once a source has been loaded,
whatever has been done with it since (`IsLoaded.isSound`):

1. A question that belongs to a feature is asked under the name of the entry point of the feature,
   which is one of those that a guest may lack; the guest has the feature, and may be called, if and
   only if it exports a function of that name.  All other questions are asked under names that every
   guest has, and no guest may lack.
2. A guest that exports no function of that name is answered for by `unimplemented`.
3. A guest that does not export what is to be called is not called, whatever it would have done, and
   no frame is given back to it.  What has been published for the same question before is not any
   more, and the counters of handles and of registrations may have gone on.  Everything else is what
   it was before: the memory, the settings, the rate limit, the handlers, and, as long as there
   were handles left for the arguments, what is kept in the arena.
4. Of a guest that does export it this function is called, once, and no other one, but that its
   result is given back if there is one. -/
theorem refusedWithoutTrace (env : Environment) (guest : Guest) (s : Session) (hs : s.IsSound)
    (e : Entry) (b : Behaviour) :
    let call := s.setUp env e
    let t := (s.perform env guest e b).2
    ((∀ f, e.feature? = some f → f.entryPoint = e.name ∧ e.name ∈ optionalExports ∧
        guest.features.has f = guest.hasFunction e.name ∧
        guest.features.supports e.name = guest.hasFunction e.name) ∧
      (e.feature? = none → e.name ∈ requiredExports ∧ e.name ∉ optionalExports)) ∧
    (guest.hasFunction e.name = false →
      guest.exports.lookup e.name ≠ some .function ∧
      (s.perform env guest e b).1 = .error .unimplemented) ∧
    (guest.exports.lookup e.name ≠ some .function →
      (s.perform env guest e b).1 = .error (guest.refusal e.name) ∧
      (∀ b', s.perform env guest e b' = s.perform env guest e b) ∧
      t.entered = s.entered ∧ t.freed = s.freed ∧
      t = { e.begin s with
        arena := t.arena
        mailbox := { s.mailbox with nextId := t.mailbox.nextId } } ∧
      (s.arena.HasFree call.handles.length → t.arena.entries = s.arena.entries)) ∧
    (guest.exports.lookup e.name = some .function →
      s.enter env guest e b = Prod.map (Ending.result env) id
        (b.work.run env call.parameters []
          (call.session.log (.enter e.name call.parameters))) ∧
      t.entered = s.entered ++ [(e.name, call.parameters)] ∧
      t.freed = s.freed ++ (s.returned env guest e b).toList.filter (0 ≤ ·)) := by
  intro call t
  refine ⟨⟨fun f hf ↦ ?feature, fun hnone ↦ ?required⟩, fun hmissing ↦ ?missing,
    fun hne ↦ ?refused, fun hlookup ↦ ?called⟩
  case feature =>
    have hname := Entry.entryPoint_of_feature? hf
    have hsome : e.feature?.isSome := Option.isSome_of_eq_some hf
    refine ⟨hname, Entry.name_mem_optionalExports.2 hsome, ?_, ?_⟩
    · rw [Guest.features, Features.has_detect, hname, e.lookup_entryPoints, Guest.hasFunction]
    · rw [e.supports_name, if_pos hsome]
  case required => exact Entry.name_of_feature?_eq_none hnone
  case missing =>
    obtain ⟨hne, hrefusal⟩ := guest.refusal_of_not_hasFunction hmissing
    refine ⟨hne, ?_⟩
    rw [Session.perform_of_lookup_ne hne, hrefusal]
  case refused =>
    have hperform (b' : Behaviour) : s.perform env guest e b' = _ :=
      Session.perform_of_lookup_ne hne
    have ht : t = call.session.cleanUp call.registration call.handles :=
      congrArg Prod.snd (hperform b)
    obtain ⟨hrest, hentries⟩ := @Session.cleanUp_setUp env e s hs
    refine ⟨congrArg Prod.fst (hperform b), fun b' ↦ (hperform b').trans (hperform b).symm, ?_, ?_,
      ht ▸ hrest, ht ▸ hentries⟩
    · rw [ht]
      exact Session.entered_congr Session.setUp_events
    · rw [ht]
      exact Session.setUp_freed
  case called =>
    exact ⟨Session.enter_eq hlookup, Session.perform_entered hlookup, Session.perform_freed⟩

/-- A guest without one of the functions that others have. -/
def Guest.without (name : String) : Guest where
  exports := Guest.complete.exports.filter (·.1 ≠ name)

/-- A guest that cannot follow links is asked to follow one while a text is kept: the text is still
there, and nothing else is.  Then the guest is asked for its home screen, and called. -/
theorem refusedWithoutTrace_deepLink :
    let guest := Guest.without "handle_deep_link"
    let s := (Use.store (.text "kept")).run .still guest (Session.load .still guest ∅ []).2
    let b : Behaviour := { work := [.call "std.destroy" [.literal 1], .trap] }
    (s.perform .still guest (.deepLink "here") b).1 = .error .unimplemented ∧
      (s.perform .still guest (.deepLink "here") b).2.arena.entries = s.arena.entries ∧
      (s.perform .still guest (.deepLink "here") b).2.entered = [("start", [])] ∧
      (s.perform .still guest .home b).2.entered = [("start", []), ("get_home", [])] := by
  intro guest s b
  have hloaded : s.IsLoaded .still guest :=
    ⟨∅, [], _, _, [.store (.text "kept")], Prod.ext rfl rfl, rfl⟩
  have hfree : s.arena.HasFree 1 :=
    ⟨[2], List.nodup_singleton _, Nat.le_refl _, by decide +kernel⟩
  obtain ⟨-, hmissing, hrefused, -⟩ :=
    refusedWithoutTrace .still guest s hloaded.isSound (.deepLink "here") b
  obtain ⟨hne, hanswer⟩ := hmissing (by decide +kernel)
  obtain ⟨-, -, hentered, -, -, hentries⟩ := hrefused hne
  obtain ⟨-, -, -, hcalled⟩ := refusedWithoutTrace .still guest s hloaded.isSound .home b
  have hbefore : s.entered = [("start", [])] := by decide +kernel
  refine ⟨hanswer, hentries hfree, hentered.trans hbefore, ?_⟩
  rw [(hcalled (by decide +kernel)).2.1, hbefore]
  rfl

end SourceHost
