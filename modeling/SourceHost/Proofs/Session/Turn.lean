import SourceHost.Guest.Run
import SourceHost.Proofs.Arena.Turn

/-!
# What a guest can do to a session

The functions of the host are many, but they do few things to what a guest and the host share.
`Session.Turn` says what a step of a guest leaves behind: the arena has had one turn, nobody has
been registered or unregistered, and no result has been given back.

* `HostFunction.run_turn`, `Step.run_turn` — every function of the host and every step is a turn.
* `HostFunction.Leaves`, `HostFunction.run_leaves` — what is touched by one function of the host
  only, or by none.
* `Script.run_keeps` — what a whole script leaves alone.
* `Script.run_arena` — what holds of the arena before a script and is kept by a turn holds after it.
-/

set_option autoImplicit false

namespace SourceHost

/-- Who is registered, without what their handlers have made. -/
def Mailbox.roster {β σ : Type} (m : Mailbox β σ) :
    List (Nat × (Option σ → β → Option σ) × Bool) :=
  m.registrations.map fun r ↦ (r.id, r.handler, r.live)

theorem Mailbox.roster_deliver {β σ : Type} (m : Mailbox β σ) (data : β) :
    (m.deliver data).2.roster = m.roster := by
  rw [roster, roster, deliver_eq, List.map_map]
  refine List.map_congr_left fun r _ ↦ ?_
  simp only [Function.comp_apply, Registration.deliver]
  split <;> rfl

namespace Session

/-- What is neither done nor undone while a guest runs. -/
structure Keeps (s t : Session) : Prop where
  /-- The same handlers are registered. -/
  roster : t.mailbox.roster = s.mailbox.roster
  /-- No number of a registration has been used. -/
  nextId : t.mailbox.nextId = s.mailbox.nextId
  /-- No result has been given back. -/
  freed : t.freed = s.freed

theorem Keeps.refl (s : Session) : s.Keeps s := ⟨rfl, rfl, rfl⟩

theorem Keeps.trans {s t u : Session} (h : s.Keeps t) (h' : t.Keeps u) : s.Keeps u :=
  ⟨h'.roster.trans h.roster, h'.nextId.trans h.nextId, h'.freed.trans h.freed⟩

/-- What a step of a guest can do. -/
structure Turn (s t : Session) : Prop extends s.Keeps t where
  /-- What has happened to the arena. -/
  arena : s.arena.Turn t.arena

/-- What most functions of the host do not even look at. -/
structure Spares (s t : Session) : Prop where
  /-- Nothing has happened to the arena. -/
  arena : t.arena = s.arena
  /-- Nothing has been sent. -/
  mailbox : t.mailbox = s.mailbox
  /-- No result has been given back. -/
  freed : t.freed = s.freed

variable {env : Environment} {s t u : Session}

theorem Spares.refl (s : Session) : s.Spares s := ⟨rfl, rfl, rfl⟩

theorem Spares.trans (h : s.Spares t) (h' : t.Spares u) : s.Spares u :=
  ⟨h'.arena.trans h.arena, h'.mailbox.trans h.mailbox, h'.freed.trans h.freed⟩

theorem Turn.of_arena (harena : s.arena.Turn t.arena) (hmailbox : t.mailbox = s.mailbox)
    (hfreed : t.freed = s.freed) : s.Turn t :=
  ⟨⟨congrArg _ hmailbox, congrArg _ hmailbox, hfreed⟩, harena⟩

theorem Spares.turn (h : s.Spares t) : s.Turn t :=
  .of_arena (h.arena ▸ .refl _) h.mailbox h.freed

theorem Turn.refl (s : Session) : s.Turn s := (Spares.refl s).turn

/-! ## Sending a piece of a result -/

/-- Nothing is touched but what is published. -/
theorem foldl_publish_eq (runs : List (Mailbox.Run Streamed)) :
    let t := runs.foldl publish s
    t = { s with mangaUpdate := t.mangaUpdate, homeUpdate := t.homeUpdate } := by
  induction runs generalizing s with
  | nil => rfl
  | cons r runs ih =>
    have hfirst : s.publish r = { s with
        mangaUpdate := (s.publish r).mangaUpdate, homeUpdate := (s.publish r).homeUpdate } := by
      rw [publish]
      split <;> rfl
    refine ih.trans ?_
    rw [List.foldl_cons]
    generalize runs.foldl publish (s.publish r) = t
    rw [hfirst]

theorem foldl_publish_spares (runs : List (Mailbox.Run Streamed)) :
    s.Spares (runs.foldl publish s) := by
  rw [foldl_publish_eq]
  exact ⟨rfl, rfl, rfl⟩

/-- What a piece comes to: whatever the handlers that are run make of it is published in turn. -/
theorem deliver_eq_foldl (data : Bytes) : s.deliver data =
    (s.mailbox.deliver data).1.foldl publish { s with mailbox := (s.mailbox.deliver data).2 } := rfl

/-- What a piece of a result touches. -/
theorem deliver_eq (data : Bytes) :
    let t := s.deliver data
    t = { s with
      mailbox := t.mailbox, mangaUpdate := t.mangaUpdate, homeUpdate := t.homeUpdate } := by
  dsimp only
  rw [deliver_eq_foldl, foldl_publish_eq]

theorem deliver_turn (data : Bytes) : s.Turn (s.deliver data) := by
  obtain ⟨harena, hmailbox, hfreed⟩ := foldl_publish_spares (s.mailbox.deliver data).1
    (s := { s with mailbox := (s.mailbox.deliver data).2 })
  refine ⟨⟨?_, ?_, hfreed⟩, ?_⟩
  · exact (congrArg Mailbox.roster hmailbox).trans (s.mailbox.roster_deliver data)
  · exact (congrArg Mailbox.nextId hmailbox).trans rfl
  · rw [deliver, harena]
    exact .refl _

theorem sendPartial_turn (ptr : Int) : s.Turn (s.sendPartial ptr) := by
  rw [sendPartial]
  split
  · exact deliver_turn _
  · exact .refl s

/-! ## Printing and waiting, memory and settings -/

theorem printAt_spares (ptr length : Int) : s.Spares (s.printAt ptr length) := by
  rw [printAt]
  split
  · exact .refl s
  · split <;> exact ⟨rfl, rfl, rfl⟩

/-- While the guest waits the clock goes on, and nothing else happens. -/
theorem sleep_eq {seconds : Int} (h : s.sleep env seconds = .ok t) :
    t = { s with now := t.now } := by
  rw [sleep] at h
  split at h
  · cases h
    rfl
  · cases hruntime : env.runtime with
    | running =>
      rw [hruntime] at h
      cases h
      rfl
    | gone =>
      rw [hruntime] at h
      cases h

theorem sleep_spares {seconds : Int} (h : s.sleep env seconds = .ok t) : s.Spares t := by
  rw [sleep_eq h]
  exact ⟨rfl, rfl, rfl⟩

/-- Nothing but the memory of the guest is touched when the host writes into it. -/
theorem writeAt_eq {ptr : Int} {data : Bytes} (h : s.writeAt ptr data = .ok t) :
    t = { s with memory := t.memory } := by
  rw [writeAt] at h
  cases hoffset : Memory.offset ptr with
  | error e => simp [hoffset, bind, Except.bind] at h
  | ok offset =>
    cases hwrite : s.memory.write offset data with
    | error e => simp [hoffset, hwrite, bind, Except.bind] at h
    | ok memory =>
      simp only [hoffset, hwrite, bind, Except.bind, pure, Except.pure] at h
      cases h
      rfl

theorem spares_of_writeAt {ptr : Int} {data : Bytes} (h : s.writeAt ptr data = .ok t) :
    s.Spares t := by
  rw [writeAt_eq h]
  exact ⟨rfl, rfl, rfl⟩

theorem readBuffer_spares (h : Handle) (ptr size : Int) :
    s.Spares (s.readBuffer h ptr size).2 := by
  rw [readBuffer]
  split
  · exact .refl s
  · split
    · exact .refl s
    · split
      · exact spares_of_writeAt ‹_›
      · exact .refl s

theorem readData_spares (h : Handle) (ptr size : Int) : s.Spares (s.readData h ptr size).2 := by
  rw [readData]
  split
  · exact .refl s
  · split
    · exact .refl s
    · split
      · exact spares_of_writeAt ‹_›
      · exact .refl s

theorem setSetting_spares (keyPtr keyLength kind valuePtr : Int) :
    s.Spares (s.setSetting env keyPtr keyLength kind valuePtr).2 := by
  rw [setSetting]
  repeat' split
  all_goals exact ⟨rfl, rfl, rfl⟩

/-! ## Keeping resources -/

theorem keep_turn (r : Resource) : s.Turn (s.keep r).2 := .of_arena (.store r) rfl rfl

theorem destroy_turn (h : Handle) : s.Turn (s.destroy h) := .of_arena (.remove h) rfl rfl

theorem getSetting_turn (keyPtr keyLength : Int) :
    s.Turn (s.getSetting env keyPtr keyLength).2 := by
  rw [getSetting]
  split
  · exact .refl s
  · split
    · exact .refl s
    · split
      · exact .refl s
      · split
        · exact .refl s
        · exact keep_turn _

theorem initRequest_turn (method : Int) : s.Turn (s.initRequest method).2 := by
  rw [initRequest]
  split
  · exact keep_turn _
  · exact .refl s

theorem getImage_turn (h : Handle) : s.Turn (s.getImage h).2 := by
  rw [getImage]
  split
  · exact .refl s
  · split
    · exact keep_turn _
    · exact .refl s

theorem getHeader_turn (h : Handle) (ptr length : Int) : s.Turn (s.getHeader h ptr length).2 := by
  rw [getHeader]
  split
  · exact .refl s
  · split
    · exact .refl s
    · split
      · exact keep_turn _
      · exact .refl s

theorem html_turn (h : Handle) : s.Turn (s.html h).2 := by
  rw [html]
  split
  · exact .refl s
  · exact keep_turn _

/-! ## Changing requests -/

theorem changeRequest_turn (h : Handle) (change : Request → Except NetStatus Request) :
    s.Turn (s.changeRequest h change).2 := by
  rw [changeRequest]
  split
  · exact .refl s
  · rename_i q hq
    split
    · exact .of_arena (.amend (.replace hq _)) rfl rfl
    · exact .refl s

theorem record_amends (a : Arena) (h : Handle) (outcome : Except String Response) :
    a.Amends (record a h outcome).2 := by
  rw [record]
  split
  · exact .refl a
  · exact .replace ‹_› _

theorem recordAll_amends (outcomes : List (Nat × Except String Response)) (a : Arena)
    (items : List (Handle × Nat × Except NetStatus (HttpRequest × Url))) :
    a.Amends (recordAll outcomes a items).2 := by
  induction items generalizing a with
  | nil => exact .refl a
  | cons item items ih =>
    obtain ⟨h, index, prepared⟩ := item
    unfold recordAll
    refine Arena.Amends.trans ?_ (ih _)
    split
    · exact .refl a
    · exact record_amends a h _
    · exact .refl a

/-- Sending a request touches the rate limit, the clock and the account of what has been sent. -/
theorem dispatch_eq (http : HttpRequest) (url : Url) :
    let t := (s.dispatch env http url).2
    t = { s with
      window := t.window, now := t.now, dispatched := t.dispatched, requests := t.requests } := by
  rw [dispatch]
  dsimp only
  split <;> rfl

theorem dispatch_spares (http : HttpRequest) (url : Url) :
    s.Spares (s.dispatch env http url).2 := by
  rw [dispatch_eq]
  exact ⟨rfl, rfl, rfl⟩

/-- What is touched when the request under a handle is sent. -/
theorem send_eq (h : Handle) :
    let t := (s.send env h).2
    t = { s with
      arena := t.arena, window := t.window, now := t.now, dispatched := t.dispatched
      requests := t.requests } := by
  rw [send]
  split
  · rfl
  · rename_i http url hprepare
    have hdispatch := @dispatch_eq env s http url
    generalize env.runtime = runtime
    cases runtime with
    | gone => rfl
    | running =>
      generalize s.dispatch env http url = dispatched at hdispatch ⊢
      rcases dispatched with ⟨_ | _, t⟩ <;> dsimp only at hdispatch ⊢ <;> rw [hdispatch]

/-- What is touched when the requests under several handles are sent. -/
theorem sendAll_eq (ptr count : Int) :
    let t := (s.sendAll env ptr count).2
    t = { s with
      memory := t.memory, arena := t.arena, window := t.window, now := t.now
      dispatched := t.dispatched, requests := t.requests } := by
  rw [sendAll]
  split
  · rfl
  · split
    · rfl
    · split
      · rfl
      · dsimp only
        split
        · rfl
        · split
          · rfl
          · rename_i hwrite
            have hwritten := writeAt_eq hwrite
            split <;> dsimp only <;> rw [hwritten]

theorem send_turn (h : Handle) : s.Turn (s.send env h).2 := by
  have hrecord (t : Session) (ht : s.Spares t) (outcome : Except String Response) :
      s.Turn { t with arena := (record t.arena h outcome).2 } :=
    .of_arena (ht.arena ▸ .amend (record_amends _ h _)) ht.mailbox ht.freed
  rw [send]
  split
  · exact .refl s
  · rename_i http url hprepare
    have hdispatch : s.Spares (s.dispatch env http url).2 := dispatch_spares http url
    generalize env.runtime = runtime
    cases runtime with
    | gone => exact hrecord s (.refl s) _
    | running =>
      generalize s.dispatch env http url = dispatched at hdispatch ⊢
      rcases dispatched with ⟨_ | _, t⟩ <;> exact hrecord t hdispatch _

theorem sendAll_turn (ptr count : Int) : s.Turn (s.sendAll env ptr count).2 := by
  rw [sendAll]
  split
  · exact .refl s
  · split
    · exact .refl s
    · split
      · exact .refl s
      · dsimp only
        split
        · exact Spares.turn ⟨rfl, rfl, rfl⟩
        · split
          · exact .of_arena (.amend (recordAll_amends _ _ _)) rfl rfl
          · rename_i written hwrite
            have hspares := spares_of_writeAt hwrite
            have hturn : s.Turn written :=
              .of_arena (hspares.arena ▸ .amend (recordAll_amends _ _ _)) hspares.mailbox
                hspares.freed
            split <;> exact hturn

end Session

open Session

variable {env : Environment} {s : Session}

/-- **Every function of the host has one turn.** -/
theorem HostFunction.run_turn (f : HostFunction) (arguments : List Int) :
    s.Turn (f.run env arguments s).2 := by
  cases f with
  | abort => exact Spares.turn ⟨rfl, rfl, rfl⟩
  | print => exact (printAt_spares _ _).turn
  | sleep =>
    simp only [run]
    split
    · exact (sleep_spares ‹_›).turn
    · exact .refl s
  | sendPartial => exact sendPartial_turn _
  | destroy => exact destroy_turn _
  | readBuffer => exact (readBuffer_spares _ _ _).turn
  | getSetting => exact getSetting_turn _ _
  | setSetting => exact (setSetting_spares _ _ _ _).turn
  | initRequest => exact initRequest_turn _
  | send => exact send_turn _
  | sendAll => exact sendAll_turn _ _
  | setUrl | setHeader | setBody => exact changeRequest_turn _ _
  | readData => exact (readData_spares _ _ _).turn
  | getImage => exact getImage_turn _
  | getHeader => exact getHeader_turn _ _ _
  | html => exact html_turn _
  | setRateLimit => exact Spares.turn ⟨rfl, rfl, rfl⟩
  | bufferLength | currentDate | utcOffset | parseDate | dataLength | getStatusCode =>
    exact .refl s

/-- What a function of the host leaves alone, if it is not the one function that is there to touch
it. -/
structure HostFunction.Leaves (f : HostFunction) (s t : Session) : Prop where
  /-- Settings are stored by one function. -/
  settings : f ≠ setSetting → t.settings = s.settings
  /-- Pieces are sent by one function. -/
  mailbox : f ≠ sendPartial → t.mailbox = s.mailbox
  /-- So are news about an entry. -/
  mangaUpdate : f ≠ sendPartial → t.mangaUpdate = s.mangaUpdate
  /-- So are home screens. -/
  homeUpdate : f ≠ sendPartial → t.homeUpdate = s.homeUpdate
  /-- No function shows anything. -/
  events : t.events = s.events

/-- Most functions touch none of it. -/
theorem HostFunction.Leaves.of_eq {f : HostFunction} {t : Session}
    (h : t = { s with
      memory := t.memory, arena := t.arena, window := t.window, now := t.now
      dispatched := t.dispatched, printed := t.printed, requests := t.requests }) :
    f.Leaves s t := by
  rw [h]
  exact ⟨fun _ ↦ rfl, fun _ ↦ rfl, fun _ ↦ rfl, fun _ ↦ rfl, rfl⟩

theorem HostFunction.Leaves.of_writeAt {f : HostFunction} {t : Session} {ptr : Int} {data : Bytes}
    (h : s.writeAt ptr data = .ok t) : f.Leaves s t := .of_eq (by rw [writeAt_eq h])

/-- **No function of the host touches what is not for it to touch.** -/
theorem HostFunction.run_leaves (f : HostFunction) (arguments : List Int) :
    f.Leaves s (f.run env arguments s).2 := by
  cases f with
  | sendPartial =>
    simp only [run, Session.sendPartial]
    split
    · rw [deliver_eq]
      exact ⟨fun _ ↦ rfl, absurd rfl, absurd rfl, absurd rfl, rfl⟩
    · exact .of_eq rfl
  | setSetting =>
    simp only [run, Session.setSetting]
    repeat' split
    all_goals exact ⟨absurd rfl, fun _ ↦ rfl, fun _ ↦ rfl, fun _ ↦ rfl, rfl⟩
  | sleep =>
    simp only [run]
    split
    · rename_i hsleep
      exact .of_eq (by rw [sleep_eq hsleep])
    · exact .of_eq rfl
  | send => exact .of_eq (by rw [run, send_eq])
  | sendAll => exact .of_eq (by rw [run, sendAll_eq])
  | print | readBuffer | getSetting | initRequest | setUrl | setHeader | setBody | readData
  | getImage | getHeader | html =>
    simp only [run, printAt, Session.readBuffer, Session.getSetting, Session.initRequest,
      Session.setUrl, Session.setHeader, Session.setBody, changeRequest, Session.readData,
      Session.getImage, Session.getHeader, Session.html]
    repeat' split
    -- what is written back into the memory is the only result that is not plain to see
    all_goals first
      | exact .of_eq rfl
      | exact .of_writeAt ‹_›
  | abort | destroy | bufferLength | currentDate | utcOffset | parseDate | dataLength
  | getStatusCode | setRateLimit => exact .of_eq rfl

theorem Environment.callFunction_turn (name : String) (arguments : List Int) :
    s.Turn (env.callFunction name arguments s).2 := by
  rw [callFunction]
  split
  · exact Spares.turn ⟨rfl, rfl, rfl⟩
  · split
    · exact HostFunction.run_turn _ _
    · exact .refl s

/-! ## Steps of a guest -/

namespace Session

/-- Nothing but the memory of the guest is touched when the guest puts something into it. -/
theorem poke_eq {at_ : Int} {data : Bytes} {t : Session} (h : s.poke at_ data = some t) :
    t = { s with memory := t.memory } := by
  rw [poke] at h
  split at h
  · cases h
    rfl
  · cases h

theorem poke_spares {at_ : Int} {data : Bytes} {t : Session} (h : s.poke at_ data = some t) :
    s.Spares t := by
  rw [poke_eq h]
  exact ⟨rfl, rfl, rfl⟩

theorem growMemory_spares (pages : Nat) : s.Spares (s.growMemory env pages).2 := by
  simp only [growMemory]
  split <;> exact ⟨rfl, rfl, rfl⟩

theorem growTable_spares (elements : Nat) : s.Spares (s.growTable env elements).2 := by
  simp only [growTable]
  split <;> exact ⟨rfl, rfl, rfl⟩

theorem Turn.log {t : Session} (h : s.Turn t) (e : Event) : s.Turn (t.log e) :=
  ⟨⟨h.roster, h.nextId, h.freed⟩, h.arena⟩

end Session

/-- **So has every step of a guest.** -/
theorem Step.run_turn (step : Step) (parameters results : List Int) :
    s.Turn (step.run env parameters results s).2 := by
  cases step with
  | write at_ data =>
    simp only [run]
    split
    · exact (poke_spares ‹_›).turn
    · exact .refl s
  | writeIntegers at_ values =>
    simp only [run]
    split
    · exact (poke_spares ‹_›).turn
    · exact .refl s
  | read at_ length =>
    simp only [run]
    split
    · exact (Turn.refl s).log _
    · exact .refl s
  | call name arguments =>
    have hturn : s.Turn
        (env.callFunction name (arguments.map (·.value parameters results)) s).2 :=
      Environment.callFunction_turn name _
    simp only [run]
    split
    · rename_i heq
      rw [heq] at hturn
      exact hturn
    · rename_i heq
      rw [heq] at hturn
      exact hturn.log _
  | growMemory pages =>
    exact (growMemory_spares _).turn.log _
  | growTable elements =>
    exact (growTable_spares _).turn.log _
  | showResource | showArena | showUpdates => exact (Turn.refl s).log _
  | trap | spin | ret => exact .refl s

/-! ## Scripts -/

namespace Script

/-- The arenas a script passes through: the one it begins with, and that after each of its steps. -/
def arenas (env : Environment) (parameters : List Int) : Script → List Int → Session → List Arena
  | [], _, s => [s.arena]
  | step :: rest, results, s =>
    s.arena :: match step.run env parameters results s with
      | (.next results, s) => arenas env parameters rest results s
      | (.stop _, s) => [s.arena]

variable {parameters results : List Int}

theorem arena_mem_arenas (script : Script) :
    s.arena ∈ arenas env parameters script results s := by
  cases script <;> exact .head _

/-- What every step keeps a script keeps. -/
theorem run_keeps (script : Script) : s.Keeps (Script.run env parameters script results s).2 := by
  induction script generalizing results s with
  | nil => exact .refl s
  | cons step rest ih =>
    have hstep : s.Turn (step.run env parameters results s).2 := step.run_turn parameters results
    rw [Script.run]
    split
    · rename_i heq
      rw [heq] at hstep
      exact hstep.toKeeps.trans ih
    · rename_i heq
      rw [heq] at hstep
      exact hstep.toKeeps

/-- What a turn keeps a script keeps; `Q` may be assumed of every arena on the way. -/
theorem run_arena {P Q : Arena → Prop} (hturn : ∀ a b, a.Turn b → Q a → Q b → P a → P b)
    {script : Script} (hQ : ∀ a ∈ arenas env parameters script results s, Q a) (hP : P s.arena) :
    P (Script.run env parameters script results s).2.arena := by
  induction script generalizing results s with
  | nil => exact hP
  | cons step rest ih =>
    have hstep : s.Turn (step.run env parameters results s).2 := step.run_turn parameters results
    rw [arenas, List.forall_mem_cons] at hQ
    rw [Script.run]
    split
    · rename_i heq
      rw [heq] at hstep hQ
      exact ih hQ.2 (hturn _ _ hstep.arena hQ.1 (hQ.2 _ (arena_mem_arenas rest)) hP)
    · rename_i heq
      rw [heq] at hstep hQ
      exact hturn _ _ hstep.arena hQ.1 (hQ.2 _ (.head _)) hP

end Script

end SourceHost
