import SourceHost.Proofs.Session.News

/-!
# What a guest never hears of

A guest that sends a piece of a result is not told what becomes of it.  No function of the host, and
no step of a guest, depends on who waits for pieces, on what has been published, or on what the
guest has shown and printed: all of these are written, and never read back.  So a guest that sends
other pieces, or none, does the same besides.

* `Session.mute` — a session without all of this.
* `HostFunction.run_mute`, `Step.run_mute` — what a function returns, and how a step goes on, is the
  same in the muted session.
* `Step.isSend`, `Script.silent` — a script without the steps that send pieces.
* `Script.run_silent` — it ends in the same way, and but for the pieces in the same session.
-/

set_option autoImplicit false

namespace SourceHost

namespace Session

/-- The session without those who wait for pieces, without what has been published, and without what
the guest has shown and printed. -/
def mute (s : Session) : Session :=
  { s with mailbox := {}, mangaUpdate := none, homeUpdate := none, events := [], printed := [] }

variable {env : Environment} {s t : Session}

theorem memory_mute (s : Session) : s.mute.memory = s.memory := rfl

theorem arena_mute (s : Session) : s.mute.arena = s.arena := rfl

theorem window_mute (s : Session) : s.mute.window = s.window := rfl

theorem settings_mute (s : Session) : s.mute.settings = s.settings := rfl

theorem now_mute (s : Session) : s.mute.now = s.now := rfl

theorem dispatched_mute (s : Session) : s.mute.dispatched = s.dispatched := rfl

theorem bytesAt_mute (ptr length : Int) : s.mute.bytesAt ptr length = s.bytesAt ptr length := rfl

theorem textAt_mute (ptr length : Int) : s.mute.textAt ptr length = s.textAt ptr length := rfl

theorem optionalTextAt_mute (ptr length : Int) :
    s.mute.optionalTextAt ptr length = s.optionalTextAt ptr length := rfl

theorem settingAt_mute (kind : SettingKind) (ptr : Int) :
    s.mute.settingAt kind ptr = s.settingAt kind ptr := rfl

theorem handlesAt_mute (ptr count : Int) : s.mute.handlesAt ptr count = s.handlesAt ptr count := rfl

theorem responseOf_mute (h : Handle) (missing : NetStatus) :
    s.mute.responseOf h missing = s.responseOf h missing := rfl

theorem arena_eq_of_mute (h : s.mute = t.mute) : s.arena = t.arena := by
  rw [← arena_mute, h, arena_mute]

theorem memory_eq_of_mute (h : s.mute = t.mute) : s.memory = t.memory := by
  rw [← memory_mute, h, memory_mute]

/-! ## Sending pieces -/

theorem mute_deliver (data : Bytes) : (s.deliver data).mute = s.mute := by
  rw [deliver_eq]
  rfl

theorem mute_sendPartial (ptr : Int) : (s.sendPartial ptr).mute = s.mute := by
  rw [sendPartial]
  split
  · exact mute_deliver _
  · rfl

/-! ## Functions of the host in a muted session -/

theorem sleep_mute (seconds : Int) :
    s.mute.sleep env seconds = (s.sleep env seconds).map mute := by
  rw [sleep, sleep]
  split
  · rfl
  · cases env.runtime <;> rfl

theorem writeAt_mute (ptr : Int) (data : Bytes) :
    s.mute.writeAt ptr data = (s.writeAt ptr data).map mute := by
  rw [writeAt, writeAt, memory_mute]
  cases Memory.offset ptr with
  | error e => rfl
  | ok offset =>
    simp only [bind, Except.bind]
    cases s.memory.write offset data <;> rfl

theorem readBuffer_mute (h : Handle) (ptr size : Int) :
    s.mute.readBuffer h ptr size = Prod.map id mute (s.readBuffer h ptr size) := by
  rw [readBuffer, readBuffer, arena_mute]
  cases s.arena.bytes h with
  | error => rfl
  | ok data =>
    dsimp only
    cases chunk data size with
    | none => rfl
    | some part =>
      dsimp only
      rw [writeAt_mute]
      cases s.writeAt ptr part <;> rfl

theorem readData_mute (h : Handle) (ptr size : Int) :
    s.mute.readData h ptr size = Prod.map id mute (s.readData h ptr size) := by
  rw [readData, readData, responseOf_mute]
  cases s.responseOf h .missingData with
  | error => rfl
  | ok response =>
    dsimp only
    cases chunk response.body size with
    | none => rfl
    | some part =>
      dsimp only
      rw [writeAt_mute]
      cases s.writeAt ptr part <;> rfl

theorem dispatch_mute (http : HttpRequest) (url : Url) :
    s.mute.dispatch env http url = Prod.map id mute (s.dispatch env http url) := by
  simp only [dispatch, mute]
  split <;> rfl

theorem send_mute (h : Handle) : s.mute.send env h = Prod.map id mute (s.send env h) := by
  rw [send, send, arena_mute]
  rcases prepare s.arena h with _ | ⟨http, url⟩
  · rfl
  · cases env.runtime with
    | gone => rfl
    | running =>
      simp only [dispatch_mute]
      rcases s.dispatch env http url with ⟨_ | _, t⟩ <;> rfl

theorem sendAll_mute (ptr count : Int) :
    s.mute.sendAll env ptr count = Prod.map id mute (s.sendAll env ptr count) := by
  rw [sendAll, sendAll, handlesAt_mute]
  split
  · rfl
  · cases s.handlesAt ptr count with
    | error => rfl
    | ok handles =>
      cases env.runtime with
      | gone => rfl
      | running =>
        simp only [arena_mute, window_mute, now_mute, dispatched_mute]
        generalize handles.zipIdx.map _ = prepared
        generalize Batch.run _ _ _ _ _ = outcome
        rcases outcome with ⟨_ | _, now, b⟩
        · rfl
        · generalize recordAll _ _ _ = recorded
          generalize recorded.1.flatMap _ = data
          -- the session in which the statuses are written
          have hwrite := writeAt_mute ptr data (s := { s with
            window := b.window, dispatched := b.dispatched, requests := s.requests ++ b.requests
            arena := recorded.2, now := b.finish })
          dsimp only [mute] at hwrite ⊢
          rw [hwrite]
          generalize Session.writeAt _ ptr data = written
          cases written with
          | error => rfl
          | ok t =>
            simp only [Except.map, Bool.not_true, Bool.false_eq_true, if_false]
            split <;> rfl

end Session

open Session

variable {env : Environment} {s t : Session}

/-- **No function of the host looks at what is muted.** -/
theorem HostFunction.run_mute (f : HostFunction) (arguments : List Int) :
    (f.run env arguments s.mute).1 = (f.run env arguments s).1 ∧
      (f.run env arguments s.mute).2.mute = (f.run env arguments s).2.mute := by
  cases f with
  | sendPartial => exact ⟨rfl, (mute_sendPartial _).trans (mute_sendPartial (s := s) _).symm⟩
  | sleep =>
    simp only [run, sleep_mute]
    cases s.sleep env (arguments.getD 0 0) <;> exact ⟨rfl, rfl⟩
  | readBuffer =>
    simp only [run, readBuffer_mute]
    exact ⟨rfl, rfl⟩
  | readData =>
    simp only [run, readData_mute]
    exact ⟨rfl, rfl⟩
  | send =>
    simp only [run, send_mute]
    exact ⟨rfl, rfl⟩
  | sendAll =>
    simp only [run, sendAll_mute]
    exact ⟨rfl, rfl⟩
  | print =>
    refine ⟨rfl, ?_⟩
    simp only [run, printAt, bytesAt_mute]
    repeat' split
    all_goals rfl
  | getSetting | setSetting | initRequest | setUrl | setHeader | setBody | getImage | getHeader
  | html =>
    simp only [run, Session.getSetting, Session.setSetting, Session.initRequest, Session.setUrl,
      Session.setHeader, Session.setBody, changeRequest, Session.getImage, Session.getHeader,
      Session.html, arena_mute, settings_mute, bytesAt_mute, textAt_mute, optionalTextAt_mute,
      settingAt_mute, responseOf_mute]
    repeat' split
    all_goals exact ⟨rfl, rfl⟩
  | abort | destroy | bufferLength | currentDate | utcOffset | parseDate | dataLength
  | getStatusCode | setRateLimit => exact ⟨rfl, rfl⟩

theorem Environment.callFunction_mute (name : String) (arguments : List Int) :
    (env.callFunction name arguments s.mute).1 = (env.callFunction name arguments s).1 ∧
      (env.callFunction name arguments s.mute).2.mute =
        (env.callFunction name arguments s).2.mute := by
  rw [callFunction, callFunction]
  generalize env.capabilities.find? _ = added
  cases added with
  | some capability => exact ⟨rfl, rfl⟩
  | none =>
    dsimp only
    cases HostFunction.ofName? name with
    | some f => exact f.run_mute arguments
    | none => exact ⟨rfl, rfl⟩

namespace Session

theorem growMemory_mute (pages : Nat) :
    s.mute.growMemory env pages = Prod.map id mute (s.growMemory env pages) := by
  rw [growMemory, growMemory, apply_ite (Prod.map id mute)]
  rfl

theorem growTable_mute (elements : Nat) :
    s.mute.growTable env elements = Prod.map id mute (s.growTable env elements) := by
  rw [growTable, growTable, apply_ite (Prod.map id mute)]
  rfl

theorem poke_mute (at_ : Int) (data : Bytes) :
    s.mute.poke at_ data = (s.poke at_ data).map mute := by
  rw [poke, poke, memory_mute]
  cases s.memory.write (address at_) data <;> rfl

end Session

/-- **No step of a guest depends on what is muted.** -/
theorem Step.run_mute (step : Step) (parameters results : List Int) :
    (step.run env parameters results s.mute).1 = (step.run env parameters results s).1 ∧
      (step.run env parameters results s.mute).2.mute =
        (step.run env parameters results s).2.mute := by
  cases step with
  | call name arguments =>
    obtain ⟨hvalue, hsession⟩ := env.callFunction_mute (s := s) name
      (arguments.map (·.value parameters results))
    simp only [run]
    generalize env.callFunction name _ s.mute = muted at hvalue hsession ⊢
    generalize env.callFunction name _ s = called at hvalue hsession ⊢
    obtain ⟨value, u⟩ := muted
    obtain ⟨_, v⟩ := called
    obtain rfl : value = _ := hvalue
    cases value <;> exact ⟨rfl, hsession⟩
  | write at_ data =>
    simp only [run, poke_mute]
    cases s.poke (at_.value parameters results) data <;> exact ⟨rfl, rfl⟩
  | writeIntegers at_ values =>
    simp only [run, poke_mute]
    cases s.poke (at_.value parameters results) _ <;> exact ⟨rfl, rfl⟩
  | read at_ length =>
    simp only [run, memory_mute]
    split <;> exact ⟨rfl, rfl⟩
  | growMemory pages =>
    rw [run, run, growMemory_mute]
    exact ⟨rfl, rfl⟩
  | growTable elements =>
    rw [run, run, growTable_mute]
    exact ⟨rfl, rfl⟩
  | showResource | showArena | showUpdates | trap | spin | ret => exact ⟨rfl, rfl⟩

theorem Step.run_congr (step : Step) (parameters results : List Int) (h : s.mute = t.mute) :
    (step.run env parameters results s).1 = (step.run env parameters results t).1 ∧
      (step.run env parameters results s).2.mute = (step.run env parameters results t).2.mute := by
  obtain ⟨hs, hs'⟩ := @Step.run_mute env s step parameters results
  obtain ⟨ht, ht'⟩ := @Step.run_mute env t step parameters results
  rw [h] at hs hs'
  exact ⟨hs.symm.trans ht, hs'.symm.trans ht'⟩

/-! ## Scripts without pieces -/

/-- A step that is for sending a piece. -/
def Step.isSend : Step → Bool
  | call name _ => name = "env.send_partial_result"
  | _ => false

/-- After it the guest goes on, and only what is muted has changed; it does not matter whether
another function has taken the place of that of the host. -/
theorem Step.run_of_isSend {step : Step} (parameters results : List Int) (h : step.isSend) :
    (step.run env parameters results s).1 = .next results ∧
      (step.run env parameters results s).2.mute = s.mute := by
  cases step with
  | call name arguments =>
    obtain rfl : name = "env.send_partial_result" := of_decide_eq_true h
    simp only [run, Environment.callFunction]
    generalize env.capabilities.find? _ = added
    cases added with
    | some capability => exact ⟨rfl, rfl⟩
    | none => exact ⟨rfl, mute_sendPartial _⟩
  | _ => cases h

/-- The script without the steps that send pieces. -/
def Script.silent (script : Script) : Script := script.filter (!·.isSend)

/-- **A script ends in the same way without its pieces**, wherever it is begun, and but for what is
muted in the same session. -/
theorem Script.run_silent (script : Script) (parameters results : List Int)
    (h : s.mute = t.mute) :
    (Script.run env parameters script results s).1 =
        (Script.run env parameters script.silent results t).1 ∧
      (Script.run env parameters script results s).2.mute =
        (Script.run env parameters script.silent results t).2.mute := by
  induction script generalizing results s t with
  | nil => exact ⟨rfl, h⟩
  | cons step rest ih =>
    by_cases hsend : step.isSend
    · have hsilent : silent (step :: rest) = silent rest :=
        List.filter_cons_of_neg (by simp [hsend])
      obtain ⟨hprogress, hmute⟩ := @Step.run_of_isSend env s step parameters results hsend
      rw [hsilent, Script.run]
      generalize step.run env parameters results s = outcome at hprogress hmute ⊢
      obtain ⟨progress, u⟩ := outcome
      obtain rfl : progress = .next results := hprogress
      exact ih results (hmute.trans h)
    · have hsilent : silent (step :: rest) = step :: silent rest :=
        List.filter_cons_of_pos (by simp [hsend])
      obtain ⟨hprogress, hmute⟩ := @Step.run_congr env s t step parameters results h
      rw [hsilent, Script.run, Script.run]
      generalize step.run env parameters results s = outcome at hprogress hmute ⊢
      generalize step.run env parameters results t = outcome' at hprogress hmute ⊢
      obtain ⟨progress, u⟩ := outcome
      obtain ⟨_, u'⟩ := outcome'
      obtain rfl : progress = _ := hprogress
      cases progress with
      | next results => exact ih results hmute
      | stop ending => exact ⟨rfl, hmute⟩

end SourceHost
