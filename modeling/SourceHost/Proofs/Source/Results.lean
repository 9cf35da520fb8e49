import SourceHost.Proofs.Source.Use

/-!
# Results are given back

What a call returns is a place in the memory of the guest, and the host gives it back when it has
read what stands there.  Nothing in the answer may depend on what the guest does to its memory then,
and no result may be given back twice, or be forgotten on the way to an error.

* `Session.returns` — what the calls returned, one after the other.
* `freed_useAll` — what is given back is what was returned, except for the numbers below zero.
* `perform_fst_of_isPoke` — overwriting the result while taking it back changes no answer.
* `resultsGivenBack` — both, with what the answer is made of.
-/

set_option autoImplicit false

namespace SourceHost

/-! ## What is given back -/

/-- What the guest returned, if it was asked and returned anything. -/
def Use.returned (env : Environment) (guest : Guest) (s : Session) : Use → Option Int
  | ask e b => s.returned env guest e b
  | _ => none

namespace Session

/-- What the calls returned, one after the other. -/
def returns (env : Environment) (guest : Guest) : List Use → Session → List Int
  | [], _ => []
  | u :: uses, s => (u.returned env guest s).toList ++ returns env guest uses (u.run env guest s)

variable {env : Environment} {guest : Guest} {e : Entry} {b : Behaviour} {s t : Session} {ret : Int}

theorem perform_freed :
    (s.perform env guest e b).2.freed =
      s.freed ++ (s.returned env guest e b).toList.filter (0 ≤ ·) := by
  rw [perform_snd]
  exact finished_freed

/-- Of one use after the other, what is given back is what was returned and is not below zero. -/
theorem freed_useAll (uses : List Use) :
    (s.useAll env guest uses).freed = s.freed ++ (s.returns env guest uses).filter (0 ≤ ·) := by
  induction uses generalizing s with
  | nil => exact (List.append_nil _).symm
  | cons u uses ih =>
    have huse : (u.run env guest s).freed =
        s.freed ++ (u.returned env guest s).toList.filter (0 ≤ ·) := by
      cases u with
      | ask e b => exact perform_freed
      | _ => exact (List.append_nil _).symm
    calc (s.useAll env guest (u :: uses)).freed
      _ = (u.run env guest s).freed ++
          ((u.run env guest s).returns env guest uses).filter (0 ≤ ·) := ih
      _ = s.freed ++ (s.returns env guest (u :: uses)).filter (0 ≤ ·) := by
        rw [huse, List.append_assoc, ← List.filter_append]
        rfl

/-! ## What the answer is made of -/

theorem perform_of_error {failure : HostError} (h : s.enter env guest e b = (.error failure, t)) :
    (s.perform env guest e b).1 = .error failure ∧ (s.perform env guest e b).2.freed = s.freed := by
  refine ⟨?_, ?_⟩
  · rw [perform_fst, h]
  · rw [perform_freed, returned, h]
    exact List.append_nil _

/-- A number below zero is not a place, and is not given back. -/
theorem perform_of_neg (h : s.enter env guest e b = (.ok ret, t)) (hret : ret < 0) :
    (s.perform env guest e b).1 = e.reply env.config.sourceKey t.arena
        ((s.setUp env e).registration.bind t.mailbox.snapshot) (.error (.ofSentinel ret)) ∧
      (s.perform env guest e b).2.freed = s.freed := by
  refine ⟨?_, ?_⟩
  · rw [perform_fst, finished, h]
    dsimp only
    rw [takeResult_of_neg hret]
  · rw [perform_freed, returned, h]
    simp [Except.toOption, Int.not_le.2 hret]

/-- The answer is made of the frame that was in the memory when the guest returned, and the frame is
given back. -/
theorem perform_of_nonneg (h : s.enter env guest e b = (.ok ret, t)) (hret : 0 ≤ ret) :
    (s.perform env guest e b).1 =
        e.reply env.config.sourceKey (t.release env b.release ret).2.arena
          ((s.setUp env e).registration.bind (t.release env b.release ret).2.mailbox.snapshot)
          (FrameContent.payload? (t.memory.readFrame ret.toNat)
            (t.release env b.release ret).1) ∧
      (s.perform env guest e b).2.freed = s.freed ++ [ret] := by
  refine ⟨?_, ?_⟩
  · rw [perform_fst, finished, h]
    dsimp only
    rw [takeResult_of_nonneg hret]
  · rw [perform_freed, returned, h]
    simp [Except.toOption, hret]

/-- Two guests that do the same until they return get the same answer, if taking the result back
ends in the same way and leaves the same with the host. -/
theorem perform_fst_congr {release : Script} (h : s.enter env guest e b = (.ok ret, t))
    (hend : (t.release env release ret).1 = (t.release env b.release ret).1)
    (harena : (t.release env release ret).2.arena = (t.release env b.release ret).2.arena)
    (hmailbox : (t.release env release ret).2.mailbox = (t.release env b.release ret).2.mailbox) :
    (s.perform env guest e { b with release }).1 = (s.perform env guest e b).1 := by
  have h' : s.enter env guest e { b with release } = (.ok ret, t) := h
  rcases Int.lt_or_le ret 0 with hret | hret
  · rw [(perform_of_neg h hret).1, (perform_of_neg h' hret).1]
  · rw [(perform_of_nonneg h hret).1, (perform_of_nonneg h' hret).1, hend, harena, hmailbox]

end Session

/-! ## Overwriting a result -/

/-- The guest puts something into its memory. -/
def Step.isPoke : Step → Bool
  | write .. | writeIntegers .. => true
  | _ => false

namespace Session

variable {env : Environment} {guest : Guest} {e : Entry} {b : Behaviour} {s t : Session} {ret : Int}

/-- A script that only puts something into the memory changes nothing else. -/
theorem run_of_isPoke (env : Environment) (parameters results : List Int) {script : Script}
    (h : script.all Step.isPoke) :
    (script.run env parameters results s).2 =
      { s with memory := (script.run env parameters results s).2.memory } := by
  induction script generalizing s with
  | nil => rfl
  | cons step rest ih =>
    rw [List.all_cons, Bool.and_eq_true] at h
    have hpoke (at_ : Int) (data : Bytes) : ∀ t, s.poke at_ data = some t →
        (Script.run env parameters rest results t).2 =
          { s with memory := (Script.run env parameters rest results t).2.memory } := by
      intro t ht
      rw [ih h.2, poke_eq ht]
    rw [Script.run]
    cases step with
    | write at_ data | writeIntegers at_ values =>
      rw [Step.run]
      split <;> rename_i heq <;> split at heq <;> cases heq
      · exact hpoke _ _ _ ‹_›
      · rfl
    | _ => cases h.1

/-- **Overwriting the result while taking it back changes no answer.** -/
theorem perform_fst_of_isPoke {release : Script} (h : s.enter env guest e b = (.ok ret, t))
    (hpoke : release.all Step.isPoke) (hend : (t.release env release ret).1 = .ok ()) :
    (s.perform env guest e { b with release }).1 =
      (s.perform env guest e { b with release := [] }).1 := by
  have hrun := run_of_isPoke env [ret] [] (s := { t with freed := t.freed ++ [ret] }) hpoke
  have harena := congrArg Session.arena hrun
  have hmailbox := congrArg Session.mailbox hrun
  exact perform_fst_congr (b := { b with release := [] }) h hend harena hmailbox

end Session

/-! ## Every result, once -/

/-- **Every result is read and then given back, once.**

1. Of a source that has been loaded and whatever has been done with it since, what has been given
   back is what the calls returned, in that order, except for the numbers below zero.
2. A call that returned nothing is answered with the reason, and nothing is given back.
3. A call that returned a number below zero is answered as if the payload had failed with what that
   number means, and nothing is given back.
4. A call that returned a place gives it back, whatever the answer.  The answer is made of the frame
   in the memory at the moment the guest returned, and of what is with the host after the place has
   been given back.
5. What the guest does to its memory when a place is given back is therefore of no account. -/
theorem resultsGivenBack (env : Environment) (guest : Guest) :
    (∀ settings start features s, Session.load env guest settings start = (.ok features, s) →
      ∀ uses, (s.useAll env guest uses).freed = (s.returns env guest uses).filter (0 ≤ ·)) ∧
    (∀ (s : Session) e b failure t, s.enter env guest e b = (.error failure, t) →
      (s.perform env guest e b).1 = .error failure ∧
        (s.perform env guest e b).2.freed = s.freed) ∧
    (∀ (s : Session) e b ret t, s.enter env guest e b = (.ok ret, t) → ret < 0 →
      (s.perform env guest e b).1 = e.reply env.config.sourceKey t.arena
          ((s.setUp env e).registration.bind t.mailbox.snapshot) (.error (.ofSentinel ret)) ∧
        (s.perform env guest e b).2.freed = s.freed) ∧
    (∀ (s : Session) e b ret t, s.enter env guest e b = (.ok ret, t) → 0 ≤ ret →
      (s.perform env guest e b).1 =
          e.reply env.config.sourceKey (t.release env b.release ret).2.arena
            ((s.setUp env e).registration.bind (t.release env b.release ret).2.mailbox.snapshot)
            (FrameContent.payload? (t.memory.readFrame ret.toNat)
              (t.release env b.release ret).1) ∧
        (s.perform env guest e b).2.freed = s.freed ++ [ret]) ∧
    (∀ (s : Session) e b release ret t, s.enter env guest e b = (.ok ret, t) →
      (t.release env release ret).1 = (t.release env b.release ret).1 →
      (t.release env release ret).2.arena = (t.release env b.release ret).2.arena →
      (t.release env release ret).2.mailbox = (t.release env b.release ret).2.mailbox →
      (s.perform env guest e { b with release }).1 = (s.perform env guest e b).1) := by
  refine ⟨?returned, ?failed, ?negative, ?place, ?memory⟩
  case returned =>
    intro settings start features s hload uses
    rw [Session.freed_useAll, Session.load_freed hload]
    rfl
  case failed => exact fun s e b failure t h ↦ Session.perform_of_error h
  case negative => exact fun s e b ret t h hret ↦ Session.perform_of_neg h hret
  case place => exact fun s e b ret t h hret ↦ Session.perform_of_nonneg h hret
  case memory =>
    exact fun s e b release ret t h hend harena hmailbox ↦
      Session.perform_fst_congr h hend harena hmailbox

/-- A guest that returns a list of texts, and overwrites it with a message when it is given back. -/
def overwriting : Behaviour where
  work := [.write (.literal 64) (Memory.payloadFrame [1, 2, 104, 105]), .ret (.literal 64)]
  release := [.write (.literal 64) (Memory.messageFrame "no")]

/-- A result that is overwritten, a call that breaks down, a number below zero, a place outside the
memory, and a payload that is not what was asked for. -/
theorem resultsGivenBack_overwriting :
    let s := (Session.load .still .complete ∅ []).2
    (s.useAll .still .complete [.ask .settings overwriting, .ask .settings { work := [.trap] },
        .ask .settings { work := [.ret (.literal (-5))] },
        .ask .settings { work := [.ret (.literal 70000)] },
        .ask .filters overwriting]).freed = [64, 70000, 64] ∧
      (s.perform .still .complete .settings { work := [.trap] }).1 = .error .trapped ∧
      (s.perform .still .complete .settings { work := [.ret (.literal (-5))] }).1 =
        .error (.ofSentinel (-5)) ∧
      (s.perform .still .complete .settings overwriting).1 = .ok (.texts ["hi"]) ∧
      (s.perform .still .complete .settings { overwriting with release := [] }).1 =
        .ok (.texts ["hi"]) := by
  intro s
  obtain ⟨hreturned, hfailed, hnegative, hplace, hmemory⟩ := resultsGivenBack .still .complete
  have htrap : (s.enter .still .complete .settings { work := [.trap] }).1 = .error .trapped := by
    decide +kernel
  have hbelow : (s.enter .still .complete .settings { work := [.ret (.literal (-5))] }).1 =
      .ok (-5) := by decide +kernel
  have hat : (s.enter .still .complete .settings overwriting).1 = .ok 64 := by decide +kernel
  have hend : ((s.enter .still .complete .settings overwriting).2.release .still
      overwriting.release 64).1 = .ok () := by decide +kernel
  have hpoke : overwriting.release.all Step.isPoke := rfl
  have hrun := Session.run_of_isPoke .still [64] [] hpoke
    (s := { (s.enter .still .complete .settings overwriting).2 with
      freed := (s.enter .still .complete .settings overwriting).2.freed ++ [64] })
  have harena := congrArg Session.arena hrun
  have hmailbox := congrArg Session.mailbox hrun
  have hanswer := (hplace s _ _ _ _ (Prod.ext hat rfl) (by decide)).1
  refine ⟨?_, (hfailed s _ _ _ _ (Prod.ext htrap rfl)).1, ?_, ?_, ?_⟩
  · exact (hreturned ∅ [] _ s (Prod.ext rfl rfl) _).trans (by decide +kernel)
  · exact (hnegative s _ _ _ _ (Prod.ext hbelow rfl) (by decide)).1
  · exact hanswer.trans (by decide +kernel)
  · refine (hmemory s .settings overwriting [] 64 _ (Prod.ext hat rfl) hend.symm harena.symm
      hmailbox.symm).trans (hanswer.trans ?_)
    decide +kernel

end SourceHost
