import SourceHost.Proofs.Arena.Handles
import SourceHost.Proofs.Functions.AllOrNothing
import SourceHost.Proofs.Memory.Frame
import SourceHost.Proofs.Source.Results

/-!
# What a question is about reaches the guest

What is stored for a call is known to the guest by handles only, and it is told the length of a
buffer and given its bytes by functions of the host.  Between what the caller says and what the
guest reads stand the wire form, the search for a free handle and the bounds of the memory.

* `Arena.HasFree` — there are handles left for what is to be stored.
* `Arena.Placed`, `place_placed` — everything is where the parameters of the call say, under handles
  that were free.
* `Arena.Gives`, `Arena.Holds` — what a guest gets that asks for a buffer, and when this is a value.
* `Entry.Reaches` — what each of the questions passes to the guest.
* `setUp_reaches` — that is what it passes.
* `perform_echoing` — so a guest that copies its first argument into a frame returns it.
* `argumentsArrive` — all of it, for a source that has been loaded.
-/

set_option autoImplicit false

namespace SourceHost

/-! ## Handles for what is stored -/

namespace Arena

variable {a : Arena} {h : Handle} {n : Nat}

/-- There are so many handles left, at least. -/
def HasFree (a : Arena) (n : Nat) : Prop :=
  ∃ ks : List Handle, ks.Nodup ∧ n ≤ ks.length ∧
    ∀ k ∈ ks, (1 ≤ k ∧ k ≤ Handle.largest) ∧ a.fetch k = none

/-- A resource takes one handle. -/
theorem HasFree.store (ha : a.HasFree (n + 1)) (r : Resource) : (a.store r).2.HasFree n := by
  obtain ⟨ks, hnodup, hlength, hks⟩ := ha
  have herase : ks.length - 1 ≤ (ks.erase a.free).length := List.le_length_erase
  refine ⟨ks.erase a.free, hnodup.erase _, by omega, fun k hk ↦ ?_⟩
  obtain ⟨hne, hmem⟩ := hnodup.mem_erase_iff.1 hk
  rw [fetch_store, if_neg hne]
  exact hks k hmem

/-- While there are handles left the next resource gets one of them. -/
theorem HasFree.free (ha : a.HasFree (n + 1)) (hcounting : a.IsCounting) :
    (1 ≤ a.free ∧ a.free ≤ Handle.largest) ∧ a.fetch a.free = none := by
  obtain ⟨ks, -, hlength, hks⟩ := ha
  obtain ⟨k, hk⟩ := List.exists_mem_of_length_pos (show 0 < ks.length by omega)
  obtain ⟨⟨kpos, kle⟩, hfree⟩ := hks k hk
  obtain ⟨-, -, -, -, hnone⟩ := free_spec hcounting ⟨k, kpos, kle, hfree⟩
  exact ⟨freeFrom_bounds _ _ hcounting.next_pos hcounting.next_le, hnone⟩

/-- Arguments are in their places: numbers are parameters, and what is stored is under handles that
are parameters too. -/
inductive Placed (a : Arena) : List Argument → List Int → List Handle → Prop
  | nil : Placed a [] [] []
  | number {value : Int} {args : List Argument} {ps : List Int} {hs : List Handle}
      (rest : Placed a args ps hs) : Placed a (.number value :: args) (value :: ps) hs
  | stored {r : Resource} {h : Handle} {args : List Argument} {ps : List Int} {hs : List Handle}
      (fetch : a.fetch h = some r) (rest : Placed a args ps hs) :
      Placed a (.stored r :: args) (h :: ps) (h :: hs)

end Arena

namespace Session

/-- **Everything is put in its place**, under handles that were free and are all different, as long
as there are handles left. -/
theorem place_placed {s : Session} (hs : s.arena.IsCounting) {args : List Argument}
    (hfree : s.arena.HasFree (s.place args).2.1.length) :
    (s.place args).2.2.arena.Placed args (s.place args).1 (s.place args).2.1 ∧
      (s.place args).2.1.Nodup ∧
      ∀ h ∈ (s.place args).2.1, (1 ≤ h ∧ h ≤ Handle.largest) ∧ s.arena.fetch h = none := by
  induction args generalizing s with
  | nil => exact ⟨.nil, .nil, List.forall_mem_nil _⟩
  | cons arg args ih =>
    cases arg with
    | number value =>
      obtain ⟨hplaced, hnodup, hfresh⟩ := ih hs hfree
      exact ⟨.number hplaced, hnodup, hfresh⟩
    | stored r =>
      rw [place_stored] at hfree ⊢
      obtain ⟨hbounds, hnone⟩ := hfree.free hs
      have hkept : (s.arena.store r).2.fetch s.arena.free = some r := by
        rw [Arena.fetch_store, if_pos rfl]
      obtain ⟨hplaced, hnodup, hfresh⟩ :=
        ih (s := { s with arena := (s.arena.store r).2 }) (hs.store r) (hfree.store r)
      -- what is stored later is stored under other handles
      have hnew : s.arena.free ∉ (place { s with arena := (s.arena.store r).2 } args).2.1 := by
        intro hmem
        rw [(hfresh _ hmem).2] at hkept
        cases hkept
      refine ⟨.stored ((fetch_place hnew).trans hkept) hplaced, hnodup.cons hnew,
        List.forall_mem_cons.2 ⟨⟨hbounds, hnone⟩, fun h hh ↦ ⟨(hfresh h hh).1, ?_⟩⟩⟩
      have hlater := (hfresh h hh).2
      rw [Arena.fetch_store] at hlater
      split at hlater
      · cases hlater
      · exact hlater

end Session

/-! ## What a guest gets -/

namespace Arena

variable {a : Arena} {h : Handle}

/-- What the functions of the host say of the buffer under a handle, in every session with this
arena: its length is that of the data, unless a number of 32 bits is too small for it, and its first
bytes are copied if it has so many and there is room for them. -/
structure Gives (a : Arena) (h : Handle) (data : Bytes) : Prop where
  /-- The length. -/
  bufferLength : ∀ s : Session, s.arena = a → s.bufferLength h =
    if data.length < capacity 31 then (data.length : Int) else BufferStatus.invalidBufferSize.code
  /-- The bytes. -/
  readBuffer : ∀ s : Session, s.arena = a → ∀ ptr size : Int,
    if (0 ≤ size ∧ size ≤ data.length) ∧ 0 ≤ ptr ∧ ptr + size ≤ s.memory.size then
      ∃ t, s.readBuffer h ptr size = (0, t) ∧ s.Copied data ptr size t
    else (s.readBuffer h ptr size).1 < 0 ∧ (s.readBuffer h ptr size).2 = s

theorem gives_of_fetch {r : Resource} {data : Bytes} (hr : a.fetch h = some r)
    (hdata : r.bytes? = some data) : a.Gives h data := by
  have hbytes : a.bytes h = .ok data := lookup_eq_ok_iff.2 ⟨r, hr, hdata⟩
  refine ⟨?_, ?_⟩
  · rintro s rfl
    rw [Session.bufferLength, hbytes]
    rfl
  · rintro s rfl ptr size
    rw [Session.readBuffer, hbytes]
    dsimp only
    by_cases hsize : 0 ≤ size ∧ size ≤ data.length
    · have hpart : Session.chunk data size = some (data.take size.toNat) := if_pos hsize
      have hlength : (data.take size.toNat).length = size.toNat := by
        rw [List.length_take]
        lia
      rw [hpart]
      dsimp only
      by_cases hroom : 0 ≤ ptr ∧ ptr + size ≤ s.memory.size
      · have hwrite : s.writeAt ptr (data.take size.toNat) =
            .ok { s with memory := s.memory.put ptr.toNat (data.take size.toNat) } :=
          Session.writeAt_eq_ok_iff.2 ⟨⟨hroom.1, by lia⟩, rfl⟩
        rw [if_pos ⟨hsize, hroom⟩, hwrite]
        exact ⟨_, rfl, Session.copied_of_writeAt hpart hwrite⟩
      · rw [if_neg fun h ↦ hroom h.2]
        cases hwrite : s.writeAt ptr (data.take size.toNat) with
        | ok t =>
          obtain ⟨⟨hptr, hfit⟩, -⟩ := Session.writeAt_eq_ok_iff.1 hwrite
          exact absurd ⟨hptr, by lia⟩ hroom
        | error => exact ⟨BufferStatus.code_neg .failedMemoryWrite, rfl⟩
    · have hnone : Session.chunk data size = none := if_neg hsize
      rw [hnone, if_neg fun h ↦ hsize h.1]
      exact ⟨BufferStatus.code_neg .invalidBufferSize, rfl⟩

/-- The buffer under a handle is the wire form of a value, and is read as what `bare` keeps of
it. -/
def Holds {α : Type} [Wired α] (a : Arena) (bare : α → α) (h : Handle) (v : α) : Prop :=
  ∃ data, Wired.encode v = .ok data ∧ a.Gives h data ∧
    ((Wired.shape α).IsSized (Wired.toWire v) → Wired.decode data = .ok (bare v))

/-- A parameter stands for a value that may be absent. -/
def HoldsOption {α : Type} [Wired α] (a : Arena) (p : Int) (hs : List Handle) : Option α → Prop
  | some v => hs = [p] ∧ a.Holds id p v
  | none => hs = [] ∧ p = -1

/-- Arguments that do not fail are in their places. -/
def Passes (a : Arena) (l : List (Except HostError Argument)) (ps : List Int) (hs : List Handle) :
    Prop := ∃ args, Argument.all l = .ok args ∧ a.Placed args ps hs

namespace Passes

variable {l : List (Except HostError Argument)} {ps : List Int} {hs : List Handle}

theorem nil (h : a.Passes [] ps hs) : ps = [] ∧ hs = [] := by
  obtain ⟨args, hargs, hplaced⟩ := h
  cases hargs
  cases hplaced
  exact ⟨rfl, rfl⟩

theorem cons {arg : Argument} (h : a.Passes (.ok arg :: l) ps hs) :
    ∃ args, a.Placed (arg :: args) ps hs ∧ Argument.all l = .ok args := by
  obtain ⟨args, hargs, hplaced⟩ := h
  rw [Argument.all] at hargs
  cases hrest : Argument.all l with
  | error =>
    rw [hrest] at hargs
    cases hargs
  | ok rest =>
    rw [hrest] at hargs
    cases hargs
    exact ⟨rest, hplaced, rfl⟩

theorem number {value : Int} (h : a.Passes (.ok (.number value) :: l) ps hs) :
    ∃ ps', ps = value :: ps' ∧ a.Passes l ps' hs := by
  obtain ⟨args, hplaced, hargs⟩ := h.cons
  cases hplaced with
  | number rest => exact ⟨_, rfl, args, hargs, rest⟩

theorem stored {r : Resource} {data : Bytes} (hdata : r.bytes? = some data)
    (h : a.Passes (.ok (.stored r) :: l) ps hs) :
    ∃ k ps' hs', ps = k :: ps' ∧ hs = k :: hs' ∧ a.Gives k data ∧ a.Passes l ps' hs' := by
  obtain ⟨args, hplaced, hargs⟩ := h.cons
  cases hplaced with
  | stored fetch rest =>
    exact ⟨_, _, _, rfl, rfl, gives_of_fetch fetch hdata, args, hargs, rest⟩

theorem encoded {α : Type} [Wired α] {bare : α → α} (law : WireLaws α bare) {v : α}
    (h : a.Passes (Argument.encoded v :: l) ps hs) :
    ∃ k ps' hs', ps = k :: ps' ∧ hs = k :: hs' ∧ a.Holds bare k v ∧ a.Passes l ps' hs' := by
  obtain ⟨data, hdata⟩ := law.exists_encode v
  have harg : Argument.encoded v = .ok (.stored (.bytes data)) := by rw [Argument.encoded, hdata]
  rw [harg] at h
  obtain ⟨k, ps', hs', rfl, rfl, hgives, hrest⟩ := h.stored rfl
  exact ⟨k, ps', hs', rfl, rfl, ⟨data, hdata, hgives, law.decode_of_encode hdata⟩, hrest⟩

theorem encodedOption {α : Type} [Wired α] (law : WireLaws α id) {v : Option α}
    (h : a.Passes [Argument.encodedOption v] ps hs) : ∃ p, ps = [p] ∧ a.HoldsOption p hs v := by
  cases v with
  | none =>
    obtain ⟨ps', rfl, hrest⟩ := h.number
    obtain ⟨rfl, rfl⟩ := hrest.nil
    exact ⟨_, rfl, rfl, rfl⟩
  | some v =>
    obtain ⟨k, ps', hs', rfl, rfl, hholds, hrest⟩ := h.encoded law
    obtain ⟨rfl, rfl⟩ := hrest.nil
    exact ⟨k, rfl, rfl, hholds⟩

end Passes

end Arena

/-! ## What each question passes -/

/-- The parameters `ps` and the buffers under `hs`, which are among them, are what a question is
about.  A query is a text as it is, and everything else a value in its wire form. -/
def Entry.Reaches (a : Arena) (ps : List Int) (hs : List Handle) : Entry → Prop
  | search query page chosen =>
    ∃ q f, ps = [q, page, f] ∧ hs = [q, f] ∧ a.Gives q (Utf8.encode (query.getD "")) ∧
      a.Holds id f chosen
  | mangaUpdate manga needsDetails needsChapters =>
    ∃ m, ps = [m, if needsDetails then 1 else 0, if needsChapters then 1 else 0] ∧ hs = [m] ∧
      a.Holds (·.stamped "") m manga
  | pageList manga chapter =>
    ∃ m c, ps = [m, c] ∧ hs = [m, c] ∧ a.Holds (·.stamped "") m { manga with chapters := none } ∧
      a.Holds id c chapter
  | mangaList listing page => ∃ l, ps = [l, page] ∧ hs = [l] ∧ a.Holds id l listing
  | home | filters | settings | listings | baseUrl => ps = [] ∧ hs = []
  | processPageImage response context =>
    ∃ r c cs, ps = [r, c] ∧ hs = r :: cs ∧ a.Holds id r response ∧ a.HoldsOption c cs context
  | imageRequest url context =>
    ∃ u c cs, ps = [u, c] ∧ hs = u :: cs ∧ a.Holds id u url ∧ a.HoldsOption c cs context
  | pageDescription page => ∃ p, ps = [p] ∧ hs = [p] ∧ a.Holds id p page
  | alternateCovers manga => ∃ m, ps = [m] ∧ hs = [m] ∧ a.Holds (·.stamped "") m manga
  | notification text => ∃ t, ps = [t] ∧ hs = [t] ∧ a.Holds id t text
  | deepLink url => ∃ u, ps = [u] ∧ hs = [u] ∧ a.Holds id u url
  | basicLogin key username password =>
    ∃ k u p, ps = [k, u, p] ∧ hs = [k, u, p] ∧ a.Holds id k key ∧ a.Holds id u username ∧
      a.Holds id p password
  | webLogin key cookies =>
    ∃ k ns vs, ps = [k, ns, vs] ∧ hs = [k, ns, vs] ∧ a.Holds id k key ∧
      a.Holds id ns (cookies.toList.map (·.1)) ∧ a.Holds id vs (cookies.toList.map (·.2))
  | idMigration name kind => ∃ n, ps = [n, kind.selector] ∧ hs = [n] ∧ a.Holds id n name

open Std DTreeMap.Internal in
/-- The values of a map stand in the order of its keys. -/
theorem map_snd_toList {α β : Type} {cmp : α → α → Ordering} [TransCmp cmp]
    (m : ExtTreeMap α β cmp) : m.toList.map (·.2) = m.values := by
  obtain ⟨⟨q⟩⟩ := m
  induction q using Quotient.ind with
  | _ t =>
    show (Impl.Const.toList t.inner).map (·.2) = t.inner.values
    rw [Impl.Const.toList_eq_toListModel_map, Impl.values_eq_map_snd, List.map_map]
    rfl

/-- **Every question passes what it is about.** -/
theorem Entry.reaches_of_passes {a : Arena} {ps : List Int} {hs : List Handle} {e : Entry}
    (h : ∃ args, e.arguments = .ok args ∧ a.Placed args ps hs) : e.Reaches a ps hs := by
  have texts : WireLaws (List String) id := by
    have law := WireLaws.list .text rfl
    rwa [List.map_id_fun] at law
  have values : WireLaws (List FilterValue) id := by
    have law := WireLaws.list .filterValue rfl
    rwa [List.map_id_fun] at law
  cases e with
  | home | filters | settings | listings | baseUrl => exact Arena.Passes.nil h
  | search query page chosen =>
    obtain ⟨q, ps₁, hs₁, rfl, rfl, hq, h₁⟩ := Arena.Passes.stored rfl h
    obtain ⟨ps₂, rfl, h₂⟩ := h₁.number
    obtain ⟨f, ps₃, hs₃, rfl, rfl, hf, h₃⟩ := h₂.encoded values
    obtain ⟨rfl, rfl⟩ := h₃.nil
    exact ⟨q, f, rfl, rfl, hq, hf⟩
  | mangaUpdate manga needsDetails needsChapters =>
    obtain ⟨m, ps₁, hs₁, rfl, rfl, hm, h₁⟩ := Arena.Passes.encoded .manga h
    obtain ⟨ps₂, rfl, h₂⟩ := h₁.number
    obtain ⟨ps₃, rfl, h₃⟩ := h₂.number
    obtain ⟨rfl, rfl⟩ := h₃.nil
    exact ⟨m, rfl, rfl, hm⟩
  | pageList manga chapter =>
    obtain ⟨m, ps₁, hs₁, rfl, rfl, hm, h₁⟩ := Arena.Passes.encoded .manga h
    obtain ⟨c, ps₂, hs₂, rfl, rfl, hc, h₂⟩ := h₁.encoded .chapter
    obtain ⟨rfl, rfl⟩ := h₂.nil
    exact ⟨m, c, rfl, rfl, hm, hc⟩
  | mangaList listing page =>
    obtain ⟨l, ps₁, hs₁, rfl, rfl, hl, h₁⟩ := Arena.Passes.encoded .listing h
    obtain ⟨ps₂, rfl, h₂⟩ := h₁.number
    obtain ⟨rfl, rfl⟩ := h₂.nil
    exact ⟨l, rfl, rfl, hl⟩
  | processPageImage response context =>
    obtain ⟨r, ps₁, hs₁, rfl, rfl, hr, h₁⟩ := Arena.Passes.encoded .imageResponse h
    obtain ⟨c, rfl, hc⟩ := h₁.encodedOption .textMap
    exact ⟨r, c, hs₁, rfl, rfl, hr, hc⟩
  | imageRequest url context =>
    obtain ⟨u, ps₁, hs₁, rfl, rfl, hu, h₁⟩ := Arena.Passes.encoded .text h
    obtain ⟨c, rfl, hc⟩ := h₁.encodedOption .textMap
    exact ⟨u, c, hs₁, rfl, rfl, hu, hc⟩
  | pageDescription page =>
    obtain ⟨p, ps₁, hs₁, rfl, rfl, hp, h₁⟩ := Arena.Passes.encoded .page h
    obtain ⟨rfl, rfl⟩ := h₁.nil
    exact ⟨p, rfl, rfl, hp⟩
  | alternateCovers manga =>
    obtain ⟨m, ps₁, hs₁, rfl, rfl, hm, h₁⟩ := Arena.Passes.encoded .manga h
    obtain ⟨rfl, rfl⟩ := h₁.nil
    exact ⟨m, rfl, rfl, hm⟩
  | notification text | deepLink text =>
    obtain ⟨t, ps₁, hs₁, rfl, rfl, ht, h₁⟩ := Arena.Passes.encoded .text h
    obtain ⟨rfl, rfl⟩ := h₁.nil
    exact ⟨t, rfl, rfl, ht⟩
  | basicLogin key username password =>
    obtain ⟨k, ps₁, hs₁, rfl, rfl, hk, h₁⟩ := Arena.Passes.encoded .text h
    obtain ⟨u, ps₂, hs₂, rfl, rfl, hu, h₂⟩ := h₁.encoded .text
    obtain ⟨p, ps₃, hs₃, rfl, rfl, hp, h₃⟩ := h₂.encoded .text
    obtain ⟨rfl, rfl⟩ := h₃.nil
    exact ⟨k, u, p, rfl, rfl, hk, hu, hp⟩
  | webLogin key cookies =>
    obtain ⟨k, ps₁, hs₁, rfl, rfl, hk, h₁⟩ := Arena.Passes.encoded .text h
    obtain ⟨ns, ps₂, hs₂, rfl, rfl, hns, h₂⟩ := h₁.encoded texts
    obtain ⟨vs, ps₃, hs₃, rfl, rfl, hvs, h₃⟩ := h₂.encoded texts
    obtain ⟨rfl, rfl⟩ := h₃.nil
    have hkeys : cookies.toList.map (·.1) = cookies.keys := Std.ExtTreeMap.map_fst_toList_eq_keys
    exact ⟨k, ns, vs, rfl, rfl, hk, by rwa [hkeys], by rwa [map_snd_toList]⟩
  | idMigration name kind =>
    obtain ⟨n, ps₁, hs₁, rfl, rfl, hn, h₁⟩ := Arena.Passes.encoded .text h
    obtain ⟨ps₂, rfl, h₂⟩ := h₁.number
    obtain ⟨rfl, rfl⟩ := h₂.nil
    exact ⟨n, rfl, rfl, hn⟩

namespace Session

variable {env : Environment} {guest : Guest} {e : Entry} {s : Session}

/-- When the guest is called everything the question is about is there, under handles that were
free, as long as there were handles left. -/
theorem setUp_reaches (hs : s.arena.IsCounting)
    (hfree : s.arena.HasFree (s.setUp env e).handles.length) :
    e.Reaches (s.setUp env e).session.arena (s.setUp env e).parameters (s.setUp env e).handles ∧
      (s.setUp env e).handles.Nodup ∧
      ∀ h ∈ (s.setUp env e).handles, (1 ≤ h ∧ h ≤ Handle.largest) ∧ s.arena.fetch h = none := by
  rw [← @listen_begin_arena env e s] at hs hfree
  obtain ⟨hplaced, hnodup, hfresh⟩ := place_placed hs hfree
  rw [listen_begin_arena] at hfresh
  exact ⟨Entry.reaches_of_passes ⟨e.given, e.arguments_eq, hplaced⟩, hnodup, hfresh⟩

end Session

/-! ## A guest that copies -/

namespace Memory

variable {m m' : Memory} {i j : Nat} {b c : Bytes}

/-- What is written behind some bytes leaves them as they are. -/
theorem Overwrites.holds_before (h : m.Overwrites i b m') (hc : m.Holds j c)
    (hle : j + c.length ≤ i) : m'.Holds j c := by
  have hsame : m'.between j (j + c.length) = m.between j (j + c.length) := by
    refine List.map_congr_left fun k hk ↦ h.elsewhere _ (.inl ?_)
    rw [List.mem_range] at hk
    lia
  rw [Holds, hsame]
  exact hc

/-- A payload that is written behind the header for it makes a frame. -/
theorem Overwrites.readFrame {p : Nat} {data : Bytes}
    (hheader : m.Holds p (Bytes.littleEndian 4 (data.length + 8)))
    (h : m.Overwrites (p + 8) data m') (hroom : p + 8 + data.length ≤ m.size)
    (hlength : data.length + 8 < messageMarker) : m'.readFrame p = .ok (.payload data) := by
  have hgap : (m'.between (p + 4) (p + 8)).length = 4 := by
    rw [length_between]
    lia
  have hbefore : m'.Holds p (Bytes.littleEndian 4 (data.length + 8)) :=
    h.holds_before hheader (by rw [Bytes.length_littleEndian]; lia)
  refine readFrame_of_holds (.payload hgap hlength) ?_ ?_
  · rw [holds_append, holds_append, Bytes.length_littleEndian, hgap, Nat.add_assoc p]
    refine ⟨hbefore, ?_, h.holds⟩
    rw [Holds, hgap, Nat.add_assoc p]
  · simp only [List.length_append, Bytes.length_littleEndian, hgap, h.size]
    lia

end Memory

/-- A guest asks for the length of its first argument, puts the header of a frame at a place and has
the argument copied behind it.  What it counts in the header is the length it has been told, which
is that of the data. -/
def echoing (ptr : Nat) (data : Bytes) : Script :=
  [.call "std.buffer_len" [.parameter 0],
    .writeIntegers (.literal ptr) [.literal (data.length + 8)],
    .call "std.read_buffer" [.parameter 0, .literal (ptr + 8), .result 0],
    .ret (.literal ptr)]

namespace Session

variable {env : Environment} {guest : Guest} {e : Entry} {b : Behaviour} {s t : Session}
  {parameters results : List Int}

/-- A function that nobody has added is that of the host. -/
theorem callFunction_of_find?_eq_none {name : String} {f : HostFunction} (arguments : List Int)
    (hadded : env.capabilities.find? (·.name = name) = none)
    (hname : HostFunction.ofName? name = some f) :
    env.callFunction name arguments s = f.run env arguments s := by
  rw [Environment.callFunction, hadded, hname]

/-- A guest that asks for the length of a buffer is told it. -/
theorem callFunction_bufferLength {k : Handle} {data : Bytes} (hgives : s.arena.Gives k data)
    (hadded : env.capabilities.find? (·.name = "std.buffer_len") = none)
    (hlength : data.length < capacity 31) :
    env.callFunction "std.buffer_len" [k] s = (some (.word data.length), s) := by
  rw [callFunction_of_find?_eq_none _ hadded rfl]
  show (some (HostValue.word (s.bufferLength k)), s) = _
  rw [hgives.bufferLength s rfl, if_pos hlength]

/-- A guest that asks for all of a buffer gets it, where there is room. -/
theorem callFunction_readBuffer {k : Handle} {data : Bytes} {ptr : Nat}
    (hgives : s.arena.Gives k data)
    (hadded : env.capabilities.find? (·.name = "std.read_buffer") = none)
    (hroom : ptr + data.length ≤ s.memory.size) :
    ∃ t, env.callFunction "std.read_buffer" [k, ptr, data.length] s = (some (.word 0), t) ∧
      s.memory.Overwrites ptr data t.memory := by
  have hcopy := hgives.readBuffer s rfl ptr data.length
  rw [if_pos (by lia)] at hcopy
  obtain ⟨t, hcopy, hcopied⟩ := hcopy
  have hmemory := hcopied.memory
  rw [Int.toNat_natCast, Int.toNat_natCast, List.take_length] at hmemory
  refine ⟨t, ?_, hmemory⟩
  rw [callFunction_of_find?_eq_none _ hadded rfl]
  show (some (HostValue.word (s.readBuffer k ptr data.length).1),
    (s.readBuffer k ptr data.length).2) = _
  rw [hcopy]

theorem run_of_next {step : Step} {script : Script} {results' : List Int}
    (h : step.run env parameters results s = (.next results', t)) :
    Script.run env parameters (step :: script) results s =
      Script.run env parameters script results' t := by
  rw [Script.run, h]

theorem run_call {name : String} {arguments : List Operand} {w : Int}
    (h : env.callFunction name (arguments.map (·.value parameters results)) s =
      (some (.word w), t)) :
    (Step.call name arguments).run env parameters results s =
      (.next (results ++ [w]), t.log (.called name (.word w))) := by
  rw [Step.run, h]

theorem poke_of_le {ptr : Nat} {data : Bytes} (hptr : ptr < capacity 32)
    (hroom : ptr + data.length ≤ s.memory.size) :
    s.poke ptr data = some { s with memory := s.memory.put ptr data } := by
  have haddress : address ptr = ptr := by
    rw [address, Int.emod_eq_of_lt (Int.natCast_nonneg _) (by lia), Int.toNat_natCast]
  rw [poke, haddress, Memory.write_eq, if_pos hroom]

/-- The frame that the guest returns holds its first argument. -/
theorem run_echoing {k : Handle} {ps : List Int} {data : Bytes} {ptr : Nat}
    (hlen : env.capabilities.find? (·.name = "std.buffer_len") = none)
    (hread : env.capabilities.find? (·.name = "std.read_buffer") = none)
    (hgives : s.arena.Gives k data) (hroom : ptr + 8 + data.length ≤ s.memory.size)
    (hptr : ptr + 8 < capacity 31) (hlength : data.length < capacity 31) :
    ∃ t, (echoing ptr data).run env (k :: ps) [] s = (.returned ptr, t) ∧
      t.memory.readFrame ptr = .ok (.payload data) := by
  have hsmall : capacity 31 + 8 < Memory.messageMarker := by decide
  have hmarker : Memory.messageMarker < capacity 32 := by decide
  let header := Bytes.littleEndian 4 (data.length + 8)
  have hheader : header.length = 4 := Bytes.length_littleEndian _ _
  have hinteger : Memory.integerBytes (data.length + 8) = header := by
    show Bytes.littleEndian 4 _ = _
    rw [Int.emod_eq_of_lt (by lia) (by lia)]
    rfl
  -- the guest is told the length, and puts down the header
  let told := s.log (.called "std.buffer_len" (.word data.length))
  have htold := callFunction_bufferLength hgives hlen hlength
  let begun : Session := { told with memory := s.memory.put ptr header }
  have hsize : begun.memory.size = s.memory.size := Memory.size_put _ _ _
  have hbegun : (Step.writeIntegers (.literal ptr) [.literal (data.length + 8)]).run env (k :: ps)
      [(data.length : Int)] told = (.next [(data.length : Int)], begun) := by
    have hpoke : told.poke ptr header = some begun := poke_of_le (by lia) (by
      rw [hheader]
      show ptr + 4 ≤ s.memory.size
      lia)
    simp [Step.run, Operand.value, hinteger, hpoke]
  -- the bytes are copied behind it
  have hgives' : begun.arena.Gives k data := hgives
  obtain ⟨t, hdone, hmemory⟩ := callFunction_readBuffer hgives' hread (by rwa [hsize])
  refine ⟨t.log (.called "std.read_buffer" (.word 0)), ?_, ?_⟩
  · refine (run_of_next (run_call htold)).trans ((run_of_next hbegun).trans ?_)
    exact (run_of_next (run_call hdone)).trans rfl
  · exact Memory.Overwrites.readFrame (s.memory.holds_put ptr header) hmemory (by lia) (by lia)

/-! ## All that is asked -/

theorem setUp_memory : (s.setUp env e).session.memory = s.memory := by
  rw [setUp]
  dsimp only
  rw [place_eq]
  cases e <;> rfl

/-- A guest that has the function is called with what has been set up. -/
theorem enter_eq (h : guest.exports.lookup e.name = some .function) :
    s.enter env guest e b = Prod.map (Ending.result env) id
      (b.work.run env (s.setUp env e).parameters []
        ((s.setUp env e).session.log (.enter e.name (s.setUp env e).parameters))) := by
  have hfound := guest.function?_eq_function_iff.2 h
  simp [enter, call, e.supports_name, e.lookup_entryPoints, Guest.hasFunction, hfound, Prod.map]

/-- **A guest that copies its argument into a frame returns it.** -/
theorem perform_echoing (hs : s.arena.IsCounting) {name : String} {kind : IdKind} {ptr : Nat}
    {release : Script} (hlookup : guest.exports.lookup "handle_id_migration" = some .function)
    (hlen : env.capabilities.find? (·.name = "std.buffer_len") = none)
    (hread : env.capabilities.find? (·.name = "std.read_buffer") = none)
    (hfree : s.arena.HasFree 1)
    (hroom : ptr + 8 + (Utf8.encode name).counted.length ≤ s.memory.size)
    (hptr : ptr + 8 < capacity 31) (hlength : (Utf8.encode name).counted.length < capacity 31)
    (hrelease : ∀ t : Session, (t.release env release ptr).1 = .ok ()) :
    (s.perform env guest (.idMigration name kind)
      ⟨echoing ptr (Utf8.encode name).counted, release⟩).1 = .ok (.text name) := by
  obtain ⟨⟨n, hparameters, -, data, hdata, hgives, hdecode⟩, -, -⟩ :=
    @setUp_reaches env (.idMigration name kind) s hs hfree
  obtain rfl : (Utf8.encode name).counted = data := Except.ok.inj hdata
  rw [← @setUp_memory env (.idMigration name kind) s] at hroom
  let called := (s.setUp env (.idMigration name kind)).session.log
    (.enter "handle_id_migration" [n, kind.selector])
  have hgives' : called.arena.Gives n (Utf8.encode name).counted := hgives
  obtain ⟨t, hrun, hframe⟩ :=
    @run_echoing _ _ _ [kind.selector] _ _ hlen hread hgives' hroom hptr hlength
  have henter : s.enter env guest (.idMigration name kind)
      ⟨echoing ptr (Utf8.encode name).counted, release⟩ = (.ok ptr, t) := by
    rw [enter_eq (by exact hlookup), hparameters]
    exact congrArg (Prod.map _ _) hrun
  rw [(perform_of_nonneg henter (Int.natCast_nonneg _)).1, hrelease, Int.toNat_natCast, hframe]
  have hsized : (Wired.shape String).IsSized (Wired.toWire name) := by
    intro node hnode
    have hcounted : (Utf8.encode name).length ≤ (Utf8.encode name).counted.length := by
      simp [Bytes.counted]
    have hsmall : capacity 31 < capacity 64 := by decide
    rw [List.mem_singleton.1 hnode]
    show (Utf8.encode name).length < capacity 64
    lia
  show (((Wired.decode (Utf8.encode name).counted).mapError HostError.decode).map Reply.text) = _
  rw [hdecode hsized]
  rfl

end Session

/-- **What a question is about reaches the guest.**  Of a source that has been loaded, whatever has
been done with it since, and whatever is asked, as long as there are handles left for what has to be
stored — without them the search for one never ends, and the guest is not called:

1. A guest that has the function is called with the parameters that have been set up.
2. The handles among them are above zero and all different, and nothing was under any of them
   before.
3. Everything else in the arena is what and where it was.
4. The parameters stand for what the question is about, part by part (`Entry.Reaches`): what the
   guest is told of a buffer is its length, if a number of 32 bits is large enough for it, and what
   it gets is the bytes themselves.  They are those of the query, or the wire form of the part,
   which is read as that part without the source of its entries.  The chapters of an entry are left
   out where a chapter is given beside it, the names and values of cookies are in one order, and
   for something absent there is minus one.
5. A guest that is asked for a new name, and copies what it is given into a frame, returns the name
   it was given.  The frame may be anywhere in its memory where it fits, as long as its place and
   the length are numbers of 32 bits; nobody may have put other functions in the place of those it
   copies with; and it must not break down when the frame is given back. -/
theorem argumentsArrive (env : Environment) (guest : Guest) (s : Session)
    (hs : s.IsLoaded env guest) :
    (∀ e, s.arena.HasFree (s.setUp env e).handles.length →
      let call := s.setUp env e
      (guest.exports.lookup e.name = some .function → ∀ b, s.enter env guest e b =
        Prod.map (Ending.result env) id (b.work.run env call.parameters []
          (call.session.log (.enter e.name call.parameters)))) ∧
      (call.handles.Nodup ∧
        ∀ h ∈ call.handles, (1 ≤ h ∧ h ≤ Handle.largest) ∧ s.arena.fetch h = none) ∧
      (∀ h ∉ call.handles, call.session.arena.fetch h = s.arena.fetch h) ∧
      e.Reaches call.session.arena call.parameters call.handles) ∧
    (∀ (name : String) (kind : IdKind) (ptr : Nat) (release : Script),
      let data := (Utf8.encode name).counted
      guest.exports.lookup "handle_id_migration" = some .function →
      env.capabilities.find? (·.name = "std.buffer_len") = none →
      env.capabilities.find? (·.name = "std.read_buffer") = none →
      s.arena.HasFree 1 →
      ptr + 8 + data.length ≤ s.memory.size → ptr + 8 < capacity 31 → data.length < capacity 31 →
      (∀ t : Session, (t.release env release ptr).1 = .ok ()) →
      (s.perform env guest (.idMigration name kind) ⟨echoing ptr data, release⟩).1 =
        .ok (.text name)) := by
  have hsound := hs.isSound
  refine ⟨fun e hfree ↦ ?_, fun name kind ptr release ↦ Session.perform_echoing hsound.isCounting⟩
  obtain ⟨hreaches, hnodup, hfresh⟩ := Session.setUp_reaches hsound.isCounting hfree
  exact ⟨fun hlookup b ↦ Session.enter_eq hlookup, ⟨hnodup, hfresh⟩,
    fun h hh ↦ Session.fetch_setUp hh, hreaches⟩

/-- The name comes back, and a query, a page and chosen filters are there when the guest is
called. -/
theorem argumentsArrive_echo :
    let s := (Session.load .still .complete ∅ []).2
    (s.perform .still .complete (.idMigration "legacy-42" .manga)
        ⟨echoing 4096 (Utf8.encode "legacy-42").counted, []⟩).1 = .ok (.text "legacy-42") ∧
      (.search (some "cat") 2 [] : Entry).Reaches
        (s.setUp .still (.search (some "cat") 2 [])).session.arena [1, 2, 2] [1, 2] := by
  intro s
  have hloaded : s.IsLoaded .still .complete := ⟨∅, [], _, s, [], Prod.ext rfl rfl, rfl⟩
  have hfree : s.arena.HasFree 2 := by
    refine ⟨[1, 2], by decide, Nat.le_refl _, fun k hk ↦ ⟨?_, rfl⟩⟩
    simp only [List.mem_cons, List.not_mem_nil, or_false] at hk
    obtain rfl | rfl := hk <;> decide
  obtain ⟨hquestions, hecho⟩ := argumentsArrive .still .complete s hloaded
  refine ⟨hecho _ _ 4096 [] (by decide) rfl rfl ?handles (by decide +kernel) (by decide)
    (by decide +kernel) fun t ↦ rfl, ?query⟩
  case handles =>
    obtain ⟨ks, hnodup, hlength, hks⟩ := hfree
    exact ⟨ks, hnodup, Nat.le_trans (by decide) hlength, hks⟩
  case query => exact (hquestions (.search (some "cat") 2 []) hfree).2.2.2

end SourceHost
