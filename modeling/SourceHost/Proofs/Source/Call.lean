import SourceHost.Proofs.Source.Arguments

/-!
# The parts of a call

A question is asked in five parts: the call is set up, the guest is called, its result is read and
given back, the answer is made of it, and what was there for the time of the call is taken away.
`Session.perform` runs through all of them at once.  Here it is taken apart, so that what holds of
a call can be said of one part at a time.

* `enter` — the guest is called: what it returned, and the session at that moment.
* `finished` — the session when the guest has had its last turn.
* `Entry.reply` — the answer, as a function of the payload that was read and of what the guest has
  left with the host; the memory of the guest does not occur in it.
* `perform_fst`, `perform_snd` — a question is asked by these parts and no others.
* `finished_arena` — what every turn of the guest keeps is kept until it has had its last one.
-/

set_option autoImplicit false

namespace SourceHost

/-! ## The answer -/

/-- The payload of a frame that has been read and given back. -/
def FrameContent.payload? (content : Except HostError FrameContent)
    (released : Except HostError Unit) : Except HostError Bytes :=
  match released with
  | .error e => .error e
  | .ok () => match content with
    | .error e => .error e
    | .ok (.message text) => .error (.message text)
    | .ok (.payload data) => .ok data

/-- The answer to a question: what it is made of is the payload that was read, what the guest has
left in the arena, and what it has sent while it was running. -/
def Entry.reply (key : String) (a : Arena) (made : Option Streamed)
    (payload : Except HostError Bytes) (e : Entry) : Except HostError Reply :=
  let value {α : Type} [Wired α] : Except HostError α :=
    payload.bind fun data ↦ (Wired.decode data).mapError .decode
  match e with
  | .search .. => value.map fun p : MangaPage ↦ .mangaPage (p.stamped key)
  | .mangaUpdate .. => value.map fun m : Manga ↦ .manga (m.stamped key)
  | .pageList .. => value.map fun ps : List Page ↦ .pages (ps.filter (Session.canShow a))
  | .mangaList .. => value.map fun p : MangaPage ↦ .mangaPage (p.stamped key)
  | .home => match (homeProgress made).failure with
    | some e => .error (.decode e)
    | none => value.map fun h : Home ↦
      match (homeProgress made).home with
      | some sent => .home (if h.components.isEmpty then sent else h.stamped key)
      | none => .home (h.stamped key)
  | .filters => value.map .filters
  | .settings => value.map .texts
  | .listings => value.map .listings
  | .processPageImage .. =>
    value.map fun h : Signed 32 ↦ .image ((a.fetch h.val).bind Resource.image?)
  | .imageRequest .. => value.bind fun h : Signed 32 ↦
    match ((a.fetch h.val).bind Resource.request?).bind Request.toHttp with
    | some http => .ok (.request http)
    | none => .error .missingResult
  | .pageDescription .. => value.map .text
  | .alternateCovers .. => value.map .texts
  | .baseUrl => value.map fun u : Option String ↦ .url (u.bind Url.parse?)
  | .notification .. => .ok .nothing
  | .deepLink .. => value.map .deepLink
  | .basicLogin .. => value.map .flag
  | .webLogin .. => value.map .flag
  | .idMigration .. => value.map .text

/-- The handle that the host takes away with the resource under it, if the answer is one. -/
def Entry.handle? (payload : Except HostError Bytes) : Entry → Option Handle
  | .processPageImage .. | .imageRequest .. =>
    (payload.bind fun data ↦ (Wired.decode data).mapError .decode).toOption.map
      fun h : Signed 32 ↦ h.val
  | _ => none

namespace Session

variable {env : Environment} {guest : Guest} {e : Entry} {b : Behaviour} {script : Script}
  {ret : Int} {s t : Session}

/-! ## Reading a result -/

theorem takeResult_of_neg (hret : ret < 0) :
    s.takeResult env script ret = (.error (.ofSentinel ret), s) := by
  rw [takeResult, if_pos hret]

/-- The frame that is read is the one in the memory as it was before the frame was given back. -/
theorem takeResult_of_nonneg (hret : 0 ≤ ret) :
    s.takeResult env script ret =
      (FrameContent.payload? (s.memory.readFrame ret.toNat) (s.release env script ret).1,
        (s.release env script ret).2) := by
  rw [takeResult, if_neg (Int.not_lt.2 hret)]
  rcases s.release env script ret with ⟨_ | _, t⟩
  · rfl
  · rcases s.memory.readFrame ret.toNat with _ | ⟨_ | _⟩ <;> rfl

/-- What is taken away is what is under the handle in the payload, if the payload is a handle. -/
theorem takeResource_eq :
    s.takeResource env script ret =
      match (s.takeResult env script ret).1.bind fun data ↦
        ((Wired.decode data).mapError .decode : Except HostError (Signed 32)) with
      | .error e => (.error e, (s.takeResult env script ret).2)
      | .ok h => (.ok ((s.takeResult env script ret).2.arena.fetch h.val),
        { (s.takeResult env script ret).2 with
          arena := (s.takeResult env script ret).2.arena.remove h.val }) := by
  rw [takeResource, decodeResult]
  rcases s.takeResult env script ret with ⟨payload, t⟩
  dsimp only
  split
  · rename_i heq
    obtain ⟨hvalue, rfl⟩ := Prod.mk.inj heq
    rw [hvalue]
  · rename_i heq
    obtain ⟨hvalue, rfl⟩ := Prod.mk.inj heq
    rw [hvalue]

theorem answer_fst {registration : Option Nat} :
    (s.answer env e script ret registration).1 =
      e.reply env.config.sourceKey (s.takeResult env script ret).2.arena
        (registration.bind (s.takeResult env script ret).2.mailbox.snapshot)
        (s.takeResult env script ret).1 := by
  cases e with
  | home =>
    simp only [answer, takeHome, Entry.reply]
    rcases s.takeResult env script ret with ⟨payload, t⟩
    dsimp only
    generalize Entry.homeProgress _ = progress
    rcases progress with ⟨sent, _ | failure⟩
    · rcases payload with _ | data
      · rfl
      · simp only [bind, Except.bind]
        cases (Wired.decode data : Except WireError Home) with
        | error => rfl
        | ok home =>
          cases sent with
          | none => rfl
          | some sent =>
            simp only [Except.mapError, Except.map, pure, Except.pure]
            split <;> rfl
    · rfl
  | processPageImage =>
    simp only [answer, takeResource_eq, Entry.reply]
    split <;> rename_i heq <;> rw [heq] <;> rfl
  | imageRequest =>
    simp only [answer, takeResource_eq, Entry.reply]
    split <;> rename_i heq <;> rw [heq] <;> rfl
  | _ => rfl

theorem answer_snd {registration : Option Nat} :
    (s.answer env e script ret registration).2 =
      { (s.takeResult env script ret).2 with
        arena := (s.takeResult env script ret).2.arena.removeAll
          (e.handle? (s.takeResult env script ret).1).toList } := by
  cases e with
  | notification =>
    simp only [answer]
    split
    · rename_i hret
      rw [takeResult_of_neg hret]
      rfl
    · rfl
  | processPageImage | imageRequest =>
    simp only [answer, takeResource_eq, Entry.handle?]
    split <;> rename_i heq <;> rw [heq] <;> rfl
  | _ => rfl

/-! ## Calling and giving back -/

theorem call_keeps (name : String) (parameters : List Int) :
    s.Keeps (s.call env guest name parameters script).2 := by
  rw [call]
  split
  · exact .refl s
  · split
    · exact (Turn.refl s).log _ |>.toKeeps.trans script.run_keeps
    · exact .refl s
    · exact .refl s

/-- The arenas a guest passes through when it is called. -/
def callArenas (env : Environment) (guest : Guest) (name : String) (parameters : List Int)
    (script : Script) (s : Session) : List Arena :=
  if !guest.features.supports name then []
  else match guest.entryPoints.lookup name with
    | some .function => script.arenas env parameters [] (s.log (.enter name parameters))
    | _ => []

/-- The arenas a guest passes through when a frame is given back. -/
def releaseArenas (env : Environment) (script : Script) (ret : Int) (s : Session) : List Arena :=
  if ret < 0 then [] else script.arenas env [ret] [] { s with freed := s.freed ++ [ret] }

section

variable {P Q : Arena → Prop} (hturn : ∀ a b, a.Turn b → Q a → Q b → P a → P b)

include hturn

theorem call_arena {name : String} {parameters : List Int}
    (hQ : ∀ a ∈ s.callArenas env guest name parameters script, Q a) (hP : P s.arena) :
    P (s.call env guest name parameters script).2.arena := by
  rw [callArenas] at hQ
  rw [call]
  split
  · exact hP
  · rename_i hsupports
    rw [if_neg hsupports] at hQ
    split
    · rename_i heq
      rw [heq] at hQ
      exact Script.run_arena (s := s.log (.enter name parameters)) hturn hQ hP
    · exact hP
    · exact hP

theorem takeResult_arena (hQ : ∀ a ∈ s.releaseArenas env script ret, Q a) (hP : P s.arena) :
    P (s.takeResult env script ret).2.arena := by
  rw [releaseArenas] at hQ
  rcases Int.lt_or_le ret 0 with hret | hret
  · rw [takeResult_of_neg hret]
    exact hP
  · rw [if_neg (Int.not_lt.2 hret)] at hQ
    rw [takeResult_of_nonneg hret]
    exact Script.run_arena (s := { s with freed := s.freed ++ [ret] }) hturn hQ hP

end

/-- A frame that is read is given back, and nothing else is. -/
theorem takeResult_freed :
    (s.takeResult env script ret).2.freed = s.freed ++ [ret].filter (0 ≤ ·) := by
  rcases Int.lt_or_le ret 0 with hret | hret
  · rw [takeResult_of_neg hret]
    simp [Int.not_le.2 hret]
  · rw [takeResult_of_nonneg hret]
    simp only [decide_eq_true hret, List.filter_cons_of_pos, List.filter_nil]
    exact (script.run_keeps (s := { s with freed := s.freed ++ [ret] })).freed

theorem takeResult_mailbox :
    (s.takeResult env script ret).2.mailbox.roster = s.mailbox.roster ∧
      (s.takeResult env script ret).2.mailbox.nextId = s.mailbox.nextId := by
  rcases Int.lt_or_le ret 0 with hret | hret
  · rw [takeResult_of_neg hret]
    exact ⟨rfl, rfl⟩
  · rw [takeResult_of_nonneg hret]
    have hkeeps : ({ s with freed := s.freed ++ [ret] } : Session).Keeps
        (s.release env script ret).2 := script.run_keeps
    exact ⟨hkeeps.roster, hkeeps.nextId⟩

/-! ## A whole call -/

/-- The guest is called: what it returned, and the session at that moment. -/
def enter (env : Environment) (guest : Guest) (e : Entry) (b : Behaviour) (s : Session) :
    Except HostError Int × Session :=
  (s.setUp env e).session.call env guest e.name (s.setUp env e).parameters b.work

/-- The session when the guest has had its last turn: its result, if it returned one, has been
given back. -/
def finished (env : Environment) (guest : Guest) (e : Entry) (b : Behaviour) (s : Session) :
    Session :=
  match s.enter env guest e b with
  | (.error _, t) => t
  | (.ok ret, t) => (t.takeResult env b.release ret).2

/-- The handle under which the host takes a resource away, as the answer. -/
def taken (env : Environment) (guest : Guest) (e : Entry) (b : Behaviour) (s : Session) :
    Option Handle :=
  match s.enter env guest e b with
  | (.error _, _) => none
  | (.ok ret, t) => e.handle? (t.takeResult env b.release ret).1

/-- The arenas a guest passes through during a call, beginning with the one it is called with. -/
def arenas (env : Environment) (guest : Guest) (e : Entry) (b : Behaviour) (s : Session) :
    List Arena :=
  let call := s.setUp env e
  call.session.arena :: (call.session.callArenas env guest e.name call.parameters b.work ++
    match s.enter env guest e b with
    | (.error _, _) => []
    | (.ok ret, t) => t.releaseArenas env b.release ret)

theorem perform_eq :
    s.perform env guest e b = match s.enter env guest e b with
      | (.error failure, t) =>
        (.error failure, t.cleanUp (s.setUp env e).registration (s.setUp env e).handles)
      | (.ok ret, t) =>
        ((t.answer env e b.release ret (s.setUp env e).registration).1,
          (t.answer env e b.release ret (s.setUp env e).registration).2.cleanUp
            (s.setUp env e).registration (s.setUp env e).handles) := by
  simp only [perform, Entry.arguments_eq]
  rfl

/-- The answer to a question. -/
theorem perform_fst :
    (s.perform env guest e b).1 = match s.enter env guest e b with
      | (.error failure, _) => .error failure
      | (.ok ret, t) =>
        e.reply env.config.sourceKey (s.finished env guest e b).arena
          ((s.setUp env e).registration.bind (s.finished env guest e b).mailbox.snapshot)
          (t.takeResult env b.release ret).1 := by
  rw [perform_eq, finished]
  rcases s.enter env guest e b with ⟨_ | ret, t⟩
  · rfl
  · exact answer_fst

/-- The session after a question. -/
theorem perform_snd :
    (s.perform env guest e b).2 =
      { s.finished env guest e b with
        arena := ((s.finished env guest e b).arena.removeAll
          (s.taken env guest e b).toList).removeAll (s.setUp env e).handles
        mailbox := match (s.setUp env e).registration with
          | some id => (s.finished env guest e b).mailbox.drop id
          | none => (s.finished env guest e b).mailbox } := by
  rw [perform_eq, finished, taken]
  rcases s.enter env guest e b with ⟨_ | ret, t⟩
  · rfl
  · dsimp only
    rw [answer_snd]
    rfl

/-! ## What is kept until the guest has had its last turn -/

theorem finished_arena {P Q : Arena → Prop} (hturn : ∀ a b, a.Turn b → Q a → Q b → P a → P b)
    (hQ : ∀ a ∈ s.arenas env guest e b, Q a) (hP : P (s.setUp env e).session.arena) :
    P (s.finished env guest e b).arena := by
  rw [arenas, List.forall_mem_cons, List.forall_mem_append] at hQ
  have henter : P (s.enter env guest e b).2.arena := call_arena hturn hQ.2.1 hP
  have hrelease := hQ.2.2
  rw [finished]
  generalize s.enter env guest e b = entered at henter hrelease ⊢
  rcases entered with ⟨_ | ret, t⟩
  · exact henter
  · exact takeResult_arena hturn hrelease henter

theorem finished_mailbox :
    (s.finished env guest e b).mailbox.roster = (s.setUp env e).session.mailbox.roster ∧
      (s.finished env guest e b).mailbox.nextId = (s.setUp env e).session.mailbox.nextId := by
  have henter : (s.setUp env e).session.Keeps (s.enter env guest e b).2 := call_keeps _ _
  rw [finished]
  generalize s.enter env guest e b = entered at henter ⊢
  rcases entered with ⟨_ | ret, t⟩
  · exact ⟨henter.roster, henter.nextId⟩
  · obtain ⟨hroster, hnextId⟩ := @takeResult_mailbox env b.release ret t
    exact ⟨hroster.trans henter.roster, hnextId.trans henter.nextId⟩

/-- What the guest returned, if it returned anything. -/
def returned (env : Environment) (guest : Guest) (e : Entry) (b : Behaviour) (s : Session) :
    Option Int := (s.enter env guest e b).1.toOption

theorem finished_freed :
    (s.finished env guest e b).freed =
      s.freed ++ (s.returned env guest e b).toList.filter (0 ≤ ·) := by
  have henter : (s.enter env guest e b).2.freed = s.freed :=
    (call_keeps _ _).freed.trans setUp_freed
  rw [finished, returned]
  generalize s.enter env guest e b = entered at henter ⊢
  rcases entered with ⟨_ | ret, t⟩
  · exact henter.trans (List.append_nil _).symm
  · rw [takeResult_freed]
    exact congrArg (· ++ _) henter

end Session

end SourceHost
