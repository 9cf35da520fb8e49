import SourceHost.Proofs.Catalog.RoundTrip
import SourceHost.Proofs.Session.Turn
import SourceHost.Proofs.Source.EntryPoints
import SourceHost.Source.Load

/-!
# Setting a call up

Before the guest is called what the call is about is stored and, for some calls, a handler is
registered.  `Session.setUp` does both, and says under which handles and which number.

* `Entry.arguments_eq` — everything a call can be about can be written, so that no call fails
  before the guest is called.
* `place_spec` — what is stored is stored under handles that were free, and nothing else is touched.
* `place_isAhead` — the handles are those that the counter passes.
-/

set_option autoImplicit false

namespace SourceHost

/-! ## What a call is about -/

namespace Argument

/-- What is stored, if anything, can be read as bytes. -/
def IsReadable : Argument → Prop
  | number _ => True
  | stored r => r.bytes?.isSome = true

/-- An argument that does not fail, and can be read. -/
def IsFine (x : Except HostError Argument) : Prop := ∃ a, x = .ok a ∧ a.IsReadable

/-- Arguments that do not fail, and can be read. -/
def AreFine (x : Except HostError (List Argument)) : Prop :=
  ∃ args, x = .ok args ∧ ∀ a ∈ args, a.IsReadable

theorem areFine_nil : AreFine (all []) := ⟨[], rfl, List.forall_mem_nil _⟩

theorem IsFine.cons {x : Except HostError Argument} {l : List (Except HostError Argument)}
    (hx : IsFine x) (hl : AreFine (all l)) : AreFine (all (x :: l)) := by
  obtain ⟨a, rfl, ha⟩ := hx
  obtain ⟨args, hargs, hread⟩ := hl
  refine ⟨a :: args, ?_, List.forall_mem_cons.2 ⟨ha, hread⟩⟩
  rw [all, hargs]
  rfl

theorem isFine_number (value : Int) : IsFine (.ok (number value)) := ⟨_, rfl, trivial⟩

theorem isFine_text (t : String) : IsFine (.ok (stored (.text t))) := ⟨_, rfl, rfl⟩

variable {α : Type} [Wired α] {bare : α → α}

theorem isFine_encoded (h : WireLaws α bare) (a : α) : IsFine (encoded a) := by
  obtain ⟨b, hb⟩ := h.exists_encode a
  refine ⟨stored (.bytes b), ?_, rfl⟩
  rw [encoded, hb]

theorem isFine_encodedOption (h : WireLaws α bare) : ∀ a : Option α, IsFine (encodedOption a)
  | none => isFine_number _
  | some a => isFine_encoded h a

end Argument

namespace Entry

open Argument

/-- Everything a call can be about can be written. -/
theorem areFine_arguments (e : Entry) : AreFine e.arguments := by
  have text (t : String) := isFine_encoded .text t
  have texts (l : List String) := isFine_encoded (WireLaws.list .text rfl) l
  have manga (m : Manga) := isFine_encoded .manga m
  have context (c : Option TextMap) := isFine_encodedOption .textMap c
  cases e with
  | home | filters | settings | listings | baseUrl => exact areFine_nil
  | search query page chosen =>
    have filters := isFine_encoded (WireLaws.list .filterValue rfl) chosen
    exact (isFine_text _).cons ((isFine_number _).cons (filters.cons areFine_nil))
  | mangaUpdate m needsDetails needsChapters =>
    exact (manga _).cons ((isFine_number _).cons ((isFine_number _).cons areFine_nil))
  | pageList m c => exact (manga _).cons ((isFine_encoded .chapter _).cons areFine_nil)
  | mangaList l page => exact (isFine_encoded .listing _).cons ((isFine_number _).cons areFine_nil)
  | processPageImage r c =>
    exact (isFine_encoded .imageResponse _).cons ((context c).cons areFine_nil)
  | imageRequest url c => exact (text _).cons ((context c).cons areFine_nil)
  | pageDescription p => exact (isFine_encoded .page _).cons areFine_nil
  | alternateCovers m => exact (manga _).cons areFine_nil
  | notification t => exact (text _).cons areFine_nil
  | deepLink url => exact (text _).cons areFine_nil
  | basicLogin key username password =>
    exact (text _).cons ((text _).cons ((text _).cons areFine_nil))
  | webLogin key cookies => exact (text _).cons ((texts _).cons ((texts _).cons areFine_nil))
  | idMigration id kind => exact (text _).cons ((isFine_number _).cons areFine_nil)

/-- What the guest is called with. -/
def given (e : Entry) : List Argument := e.arguments.toOption.getD []

theorem arguments_eq (e : Entry) : e.arguments = .ok e.given := by
  obtain ⟨args, hargs, -⟩ := e.areFine_arguments
  rw [given, hargs]
  rfl

theorem isReadable_of_mem_given {e : Entry} {a : Argument} (h : a ∈ e.given) : a.IsReadable := by
  obtain ⟨args, hargs, hread⟩ := e.areFine_arguments
  rw [given, hargs] at h
  exact hread a h

end Entry

/-! ## Storing it -/

namespace Session

theorem place_stored (s : Session) (r : Resource) (args : List Argument) :
    s.place (.stored r :: args) =
      (s.arena.free :: (place { s with arena := (s.arena.store r).2 } args).1,
        s.arena.free :: (place { s with arena := (s.arena.store r).2 } args).2.1,
        (place { s with arena := (s.arena.store r).2 } args).2.2) := rfl

/-- Nothing but the arena is touched when arguments are put in their places. -/
theorem place_eq (s : Session) (args : List Argument) :
    (s.place args).2.2 = { s with arena := (s.place args).2.2.arena } := by
  induction args generalizing s with
  | nil => rfl
  | cons a args ih =>
    cases a with
    | number value => exact ih s
    | stored r => exact ih _

theorem place_isCounting {s : Session} (hs : s.arena.IsCounting) (args : List Argument) :
    (s.place args).2.2.arena.IsCounting := by
  induction args generalizing s with
  | nil => exact hs
  | cons a args ih =>
    cases a with
    | number value => exact ih hs
    | stored r => exact ih (hs.store r)

/-- What is not under the handle of an argument has not been touched. -/
theorem fetch_place {s : Session} {args : List Argument} {h : Handle}
    (hh : h ∉ (s.place args).2.1) : (s.place args).2.2.arena.fetch h = s.arena.fetch h := by
  induction args generalizing s with
  | nil => rfl
  | cons a args ih =>
    cases a with
    | number value => exact ih hh
    | stored r =>
      rw [place_stored, List.mem_cons, not_or] at hh
      rw [place_stored, ih hh.2, Arena.fetch_store, if_neg hh.1]

/-- As long as there is room, every handle of an argument was free, and is that of an argument. -/
theorem place_spec {s : Session} (hs : s.arena.IsCounting) {args : List Argument}
    (hroom : s.arena.size + args.length ≤ Handle.largest) :
    ∀ h ∈ (s.place args).2.1, s.arena.fetch h = none ∧
      ∃ r, .stored r ∈ args ∧ (s.place args).2.2.arena.fetch h = some r := by
  induction args generalizing s with
  | nil => exact List.forall_mem_nil _
  | cons a args ih =>
    rw [List.length_cons] at hroom
    cases a with
    | number value =>
      intro h hh
      obtain ⟨hfree, r, hr, hfetch⟩ := ih hs (by lia) h hh
      exact ⟨hfree, r, .tail _ hr, hfetch⟩
    | stored r =>
      have hfree : s.arena.fetch s.arena.free = none := Arena.fetch_free hs (by lia)
      have hkept : (s.arena.store r).2.fetch s.arena.free = some r := by
        rw [Arena.fetch_store, if_pos rfl]
      have hsize : (s.arena.store r).2.size ≤ s.arena.size + 1 := Std.ExtTreeMap.size_insert_le
      have hlater := ih (s := { s with arena := (s.arena.store r).2 }) (hs.store r)
        (by dsimp only; lia)
      rw [place_stored]
      refine List.forall_mem_cons.2 ⟨⟨hfree, r, .head _, ?_⟩, fun h hh ↦ ?_⟩
      · rw [fetch_place fun hmem ↦ ?_, hkept]
        rw [(hlater _ hmem).1] at hkept
        cases hkept
      · obtain ⟨hh, r', hr', hfetch⟩ := hlater h hh
        refine ⟨?_, r', .tail _ hr', hfetch⟩
        rw [Arena.fetch_store] at hh
        split at hh
        · cases hh
        · exact hh

/-- While the counter is beyond all handles in use the arguments are given handles one after the
other, and the counter is beyond them in the end. -/
theorem place_isAhead {s : Session} (hs : s.arena.IsAhead) {args : List Argument}
    (hroom : s.arena.next + args.length ≤ Handle.largest) :
    (s.place args).2.2.arena.IsAhead ∧ s.arena.next ≤ (s.place args).2.2.arena.next ∧
      ∀ h ∈ (s.place args).2.1, h < (s.place args).2.2.arena.next := by
  induction args generalizing s with
  | nil => exact ⟨hs, Int.le_refl _, List.forall_mem_nil _⟩
  | cons a args ih =>
    rw [List.length_cons] at hroom
    cases a with
    | number value => exact ih hs (by lia)
    | stored r =>
      have hnext : s.arena.next < Handle.largest := by lia
      have hstored := hs.next_store (r := r) hnext
      obtain ⟨hahead, hle, hhandles⟩ := ih (s := { s with arena := (s.arena.store r).2 })
        (hs.store hnext) (by dsimp only; lia)
      dsimp only at hle
      rw [place_stored]
      refine ⟨hahead, by dsimp only; lia, List.forall_mem_cons.2 ⟨?_, hhandles⟩⟩
      rw [hs.free_eq]
      dsimp only
      lia

/-! ## Ready to be called -/

/-- A call that has been set up. -/
structure Setup where
  /-- The number of the handler that has been registered for it. -/
  registration : Option Nat
  /-- What the guest is called with. -/
  parameters : List Int
  /-- The handles of what has been stored for it. -/
  handles : List Handle
  /-- The session in which the guest is called. -/
  session : Session

/-- A call is set up. -/
def setUp (env : Environment) (e : Entry) (s : Session) : Setup :=
  let listening := (e.begin s).listen (e.handler env.config.sourceKey)
  let placed := listening.2.place e.given
  ⟨listening.1, placed.1, placed.2.1, placed.2.2⟩

variable {env : Environment} {e : Entry} {s : Session}

theorem begin_spares (e : Entry) (s : Session) : s.Spares (e.begin s) := by
  unfold Entry.begin
  split <;> exact ⟨rfl, rfl, rfl⟩

theorem listen_arena (s : Session) (handler : Option (Option Streamed → Bytes → Option Streamed)) :
    (s.listen handler).2.arena = s.arena := by
  cases handler <;> rfl

/-- Before anything is stored the arena is as it was. -/
theorem listen_begin_arena :
    ((e.begin s).listen (e.handler env.config.sourceKey)).2.arena = s.arena :=
  (listen_arena _ _).trans (begin_spares e s).arena

theorem setUp_isCounting (hs : s.arena.IsCounting) : (s.setUp env e).session.arena.IsCounting := by
  refine place_isCounting ?_ e.given
  rw [listen_begin_arena]
  exact hs

theorem fetch_setUp {h : Handle} (hh : h ∉ (s.setUp env e).handles) :
    (s.setUp env e).session.arena.fetch h = s.arena.fetch h := by
  refine (fetch_place hh).trans ?_
  rw [listen_begin_arena]

/-- As long as there is room, every handle of an argument was free, and something that can be read
as bytes is under it. -/
theorem setUp_spec (hs : s.arena.IsCounting)
    (hroom : s.arena.size + e.given.length ≤ Handle.largest) :
    ∀ h ∈ (s.setUp env e).handles, s.arena.fetch h = none ∧
      ∃ r, r.bytes?.isSome = true ∧ (s.setUp env e).session.arena.fetch h = some r := by
  intro h hh
  have hcounting : ((e.begin s).listen (e.handler env.config.sourceKey)).2.arena.IsCounting := by
    rw [listen_begin_arena]
    exact hs
  obtain ⟨hfree, r, hr, hfetch⟩ := place_spec hcounting
    (by rw [listen_begin_arena]; exact hroom) h hh
  rw [listen_begin_arena] at hfree
  exact ⟨hfree, r, Entry.isReadable_of_mem_given hr, hfetch⟩

theorem setUp_isAhead (env : Environment) (hs : s.arena.IsAhead)
    (hroom : s.arena.next + e.given.length ≤ Handle.largest) :
    (s.setUp env e).session.arena.IsAhead ∧
      ∀ h ∈ (s.setUp env e).handles, h < (s.setUp env e).session.arena.next := by
  rw [← @listen_begin_arena env e s] at hs hroom
  obtain ⟨hahead, -, hhandles⟩ := place_isAhead hs hroom
  exact ⟨hahead, hhandles⟩

theorem setUp_freed : (s.setUp env e).session.freed = s.freed := by
  have hlisten : ∀ (s : Session) handler, (s.listen handler).2.freed = s.freed := by
    intro s handler
    cases handler <;> rfl
  rw [setUp]
  dsimp only
  rw [place_eq, hlisten]
  exact (begin_spares e s).freed

/-- Either nobody has been registered, or one handler under a number that is new. -/
theorem setUp_mailbox :
    ((s.setUp env e).registration = none ∧ (s.setUp env e).session.mailbox = s.mailbox) ∨
    ∃ handler, (s.setUp env e).registration = some s.mailbox.nextId ∧
      (s.setUp env e).session.mailbox = (s.mailbox.register handler).2 := by
  have hbegin := (begin_spares e s).mailbox
  rw [setUp]
  dsimp only
  rw [place_eq]
  cases e.handler env.config.sourceKey with
  | none => exact .inl ⟨rfl, hbegin⟩
  | some handler =>
    refine .inr ⟨handler, ?_, ?_⟩
    · rw [← hbegin]
      rfl
    · rw [← hbegin]
      rfl

end Session

end SourceHost
