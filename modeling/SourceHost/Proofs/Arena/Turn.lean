import Mathlib.Data.List.Nodup
import Mathlib.Data.List.Perm.Subperm
import Mathlib.Logic.Function.Iterate
import SourceHost.Arena.Basic

/-!
# What happens to an arena

Whatever a guest does changes the arena in one of three ways, and `Arena.Turn` says which: a
resource more, a resource less, or requests that have been changed under their handles.  What holds
of an arena at every moment of a call is therefore shown by looking at three cases.

* `fetch_store`, `fetch_replace`, `fetch_remove`, `fetch_removeAll` — what is found afterwards.
* `IsCounting` — the counter is a handle, and it is back at one when nothing is kept.
* `fetch_free` — as long as there is room a new resource takes nobody's place.
* `Turn.fetch_eq` — so a resource that is there before and after a turn is the same resource.
* `IsAhead` — the counter is beyond all handles in use.  While it stays there nothing new comes
  under a handle that has been given out before.
-/

set_option autoImplicit false

namespace SourceHost.Arena

variable {a b : Arena} {h k : Handle} {r : Resource}

/-! ## What is found -/

theorem fetch_replace : (a.replace h r).fetch k = if k = h then some r else a.fetch k := by
  rw [fetch, replace, Std.ExtTreeMap.getElem?_insert]
  simp only [Std.compare_eq_iff_eq, @eq_comm Handle _ k]
  rfl

theorem fetch_store : (a.store r).2.fetch k = if k = a.free then some r else a.fetch k := by
  rw [fetch, store, Std.ExtTreeMap.getElem?_insert]
  simp only [Std.compare_eq_iff_eq, @eq_comm Handle _ k]
  rfl

theorem fetch_remove : (a.remove h).fetch k = if k = h then none else a.fetch k := by
  rw [fetch, remove, Std.ExtTreeMap.getElem?_erase]
  simp only [Std.compare_eq_iff_eq, @eq_comm Handle _ k]
  rfl

theorem fetch_removeAll {hs : List Handle} :
    (a.removeAll hs).fetch k = if k ∈ hs then none else a.fetch k := by
  induction hs generalizing a with
  | nil => rw [if_neg List.not_mem_nil]; rfl
  | cons h hs ih =>
    rw [removeAll, List.foldl_cons, ← removeAll, ih, fetch_remove]
    by_cases hk : k = h <;> simp [hk]

theorem isEmpty_iff : a.isEmpty = true ↔ ∀ h, a.fetch h = none := by
  rw [isEmpty, Std.ExtTreeMap.isEmpty_iff]
  refine ⟨fun hentries h ↦ ?_, fun hfetch ↦ Std.ExtTreeMap.ext_getElem? fun h ↦ ?_⟩
  · rw [fetch, hentries, Std.ExtTreeMap.getElem?_empty]
  · rw [Std.ExtTreeMap.getElem?_empty]
    exact hfetch h

theorem lookup_eq_ok_iff {α : Type} {expected : ResourceKind} {look : Resource → Option α} {v : α} :
    a.lookup expected look h = .ok v ↔ ∃ r, a.fetch h = some r ∧ look r = some v := by
  rw [lookup]
  cases a.fetch h with
  | none => simp
  | some r => cases hlook : look r <;> simp [hlook]

theorem request_eq_ok_iff {q : Request} :
    a.request h = .ok q ↔ a.fetch h = some (.request q) := by
  rw [request, lookup_eq_ok_iff]
  constructor
  · rintro ⟨r, hr, hq⟩
    cases r <;> cases hq
    exact hr
  · exact fun hr ↦ ⟨_, hr, rfl⟩

theorem image_eq_ok_iff {i : Image} : a.image h = .ok i ↔ a.fetch h = some (.image i) := by
  rw [image, lookup_eq_ok_iff]
  constructor
  · rintro ⟨r, hr, hi⟩
    cases r <;> cases hi
    exact hr
  · exact fun hr ↦ ⟨_, hr, rfl⟩

/-! ## The counter -/

/-- The counter is a handle, and back at the first one when nothing is kept. -/
structure IsCounting (a : Arena) : Prop where
  /-- When nothing is kept counting has started over. -/
  rewound : a.isEmpty = true → a.next = 1
  /-- No handle is below the first one. -/
  next_pos : 1 ≤ a.next
  /-- No handle is above the largest one. -/
  next_le : a.next ≤ Handle.largest

theorem isCounting_empty : IsCounting {} := ⟨fun _ ↦ rfl, by decide, by decide⟩

theorem after_eq (hpos : 1 ≤ h) (hle : h ≤ Handle.largest) :
    after h = h % Handle.largest + 1 := by
  unfold after Handle.largest at *
  split <;> lia

theorem after_pos (hpos : 1 ≤ h) : 1 ≤ after h := by
  rw [after]
  split <;> lia

theorem after_le : after h ≤ Handle.largest := by
  unfold after Handle.largest
  split <;> lia

theorem freeFrom_bounds (entries : Std.ExtTreeMap Handle Resource) (room : Nat) (hpos : 1 ≤ h)
    (hle : h ≤ Handle.largest) :
    1 ≤ freeFrom entries room h ∧ freeFrom entries room h ≤ Handle.largest := by
  induction room generalizing h with
  | zero => exact ⟨hpos, hle⟩
  | succ room ih =>
    rw [freeFrom]
    split
    · exact ih (after_pos hpos) after_le
    · exact ⟨hpos, hle⟩

/-- The counter after `i` handles. -/
theorem iterate_after (hpos : 1 ≤ h) (hle : h ≤ Handle.largest) (i : Nat) :
    after^[i] h = (h - 1 + i) % Handle.largest + 1 := by
  induction i with
  | zero =>
    rw [Function.iterate_zero_apply]
    unfold Handle.largest at *
    lia
  | succ i ih =>
    rw [Function.iterate_succ_apply', ih, after_eq (by unfold Handle.largest; lia)
      (by unfold Handle.largest; lia)]
    rw [Handle.largest]
    lia

/-- A search that ends at a handle in use has found all handles on its way in use. -/
theorem iterate_after_mem {entries : Std.ExtTreeMap Handle Resource} {room : Nat}
    (hmem : freeFrom entries room h ∈ entries) {i : Nat} (hi : i ≤ room) :
    after^[i] h ∈ entries := by
  induction room generalizing h i with
  | zero =>
    obtain rfl : i = 0 := Nat.le_zero.1 hi
    exact hmem
  | succ room ih =>
    rw [freeFrom] at hmem
    split at hmem
    · rename_i hh
      cases i with
      | zero => exact hh
      | succ i =>
        rw [Function.iterate_succ_apply]
        exact ih hmem (Nat.le_of_succ_le_succ hi)
    · contradiction

/-- Handles in use that follow each other from the counter on are no more than there are resources,
unless the counter has come round. -/
theorem le_size_of_passed (ha : a.IsCounting) {i : Nat} (hi : i ≤ Handle.largest)
    (hpassed : ∀ j < i, after^[j] a.next ∈ a.entries) : i ≤ a.size := by
  let passed := (List.range i).map fun j ↦ after^[j] a.next
  have hnodup : passed.Nodup := by
    refine List.nodup_range.map_on fun j hj k hk hjk ↦ ?_
    rw [List.mem_range] at hj hk
    rw [iterate_after ha.next_pos ha.next_le, iterate_after ha.next_pos ha.next_le] at hjk
    unfold Handle.largest at *
    lia
  have hsubset : passed ⊆ a.entries.keys := by
    intro k hk
    obtain ⟨j, hj, rfl⟩ := List.mem_map.1 hk
    rw [Std.ExtTreeMap.mem_keys]
    exact hpassed j (List.mem_range.1 hj)
  have hlength := (List.subperm_of_subset hnodup hsubset).length_le
  rwa [List.length_map, List.length_range, Std.ExtTreeMap.length_keys] at hlength

/-- As long as there is room a new resource gets a handle that nothing is under. -/
theorem fetch_free (ha : a.IsCounting) (hroom : a.size < Handle.largest) :
    a.fetch a.free = none := by
  -- otherwise more handles than there are resources would be in use
  by_contra hsome
  have hmem : a.free ∈ a.entries := by
    rw [Std.ExtTreeMap.mem_iff_isSome_getElem?, Option.isSome_iff_ne_none]
    exact hsome
  have hpassed : ∀ j < a.size + 1, after^[j] a.next ∈ a.entries := fun j hj ↦
    iterate_after_mem hmem (Nat.le_of_lt_succ hj)
  exact Nat.not_succ_le_self _ (le_size_of_passed ha (by lia) hpassed)

/-- When nothing is kept the next resource gets the first handle. -/
theorem store_fst_of_isEmpty (ha : a.IsCounting) (hempty : a.isEmpty = true) (r : Resource) :
    (a.store r).1 = 1 := by
  have hsize : a.entries.size = 0 :=
    Std.ExtTreeMap.eq_empty_iff_size_eq_zero.1 (Std.ExtTreeMap.isEmpty_iff.1 hempty)
  rw [store, free, hsize, freeFrom, ha.rewound hempty]

/-! ## Turns -/

/-- The arena is the same but for requests that have been changed under their handles. -/
structure Amends (a b : Arena) : Prop where
  /-- The counter is the same. -/
  next : b.next = a.next
  /-- What is under a handle is the same, or was a request and is one. -/
  fetch : ∀ h, b.fetch h = a.fetch h ∨
    ∃ q q', a.fetch h = some (.request q) ∧ b.fetch h = some (.request q')

theorem Amends.refl (a : Arena) : Amends a a := ⟨rfl, fun _ ↦ .inl rfl⟩

theorem Amends.trans {c : Arena} (hab : Amends a b) (hbc : Amends b c) : Amends a c := by
  refine ⟨hbc.next.trans hab.next, fun h ↦ ?_⟩
  rcases hab.fetch h with heq | ⟨q, q', hq, hq'⟩ <;>
    rcases hbc.fetch h with heq' | ⟨p, p', hp, hp'⟩
  · exact .inl (heq'.trans heq)
  · exact .inr ⟨p, p', heq ▸ hp, hp'⟩
  · exact .inr ⟨q, q', hq, heq'.trans hq'⟩
  · exact .inr ⟨q, p', hq, hp'⟩

/-- A request is changed under its handle. -/
theorem Amends.replace {q : Request} (hq : a.request h = .ok q) (q' : Request) :
    Amends a (a.replace h (.request q')) := by
  refine ⟨rfl, fun k ↦ ?_⟩
  rw [fetch_replace]
  split
  · rename_i hk
    exact .inr ⟨q, q', hk ▸ request_eq_ok_iff.1 hq, rfl⟩
  · exact .inl rfl

/-- What a guest can do to an arena at once. -/
inductive Turn (a : Arena) : Arena → Prop where
  /-- A resource is stored. -/
  | store (r : Resource) : Turn a (a.store r).2
  /-- A resource is given up. -/
  | remove (h : Handle) : Turn a (a.remove h)
  /-- Requests are changed, if anything. -/
  | amend {b : Arena} (h : Amends a b) : Turn a b

theorem Turn.refl (a : Arena) : Turn a a := .amend (.refl a)

theorem Amends.isSome_eq (hab : Amends a b) : (b.fetch h).isSome = (a.fetch h).isSome := by
  rcases hab.fetch h with heq | ⟨q, q', hq, hq'⟩
  · rw [heq]
  · rw [hq, hq']
    rfl

theorem Amends.isEmpty_eq (h : Amends a b) : b.isEmpty = a.isEmpty := by
  rw [Bool.eq_iff_iff, isEmpty_iff, isEmpty_iff]
  refine forall_congr' fun k ↦ ?_
  rw [← Option.not_isSome_iff_eq_none, ← Option.not_isSome_iff_eq_none, h.isSome_eq]

theorem IsCounting.store (ha : a.IsCounting) (r : Resource) : (a.store r).2.IsCounting := by
  obtain ⟨hpos, hle⟩ := freeFrom_bounds a.entries a.entries.size ha.next_pos ha.next_le
  refine ⟨fun hempty ↦ ?_, after_pos hpos, after_le⟩
  have hfetch := isEmpty_iff.1 hempty a.free
  rw [fetch_store, if_pos rfl] at hfetch
  cases hfetch

theorem IsCounting.replace (ha : a.IsCounting) (h : Handle) (r : Resource) :
    (a.replace h r).IsCounting := by
  refine ⟨fun hempty ↦ ?_, ha.next_pos, ha.next_le⟩
  have hfetch := isEmpty_iff.1 hempty h
  rw [fetch_replace, if_pos rfl] at hfetch
  cases hfetch

theorem IsCounting.remove (ha : a.IsCounting) (h : Handle) : (a.remove h).IsCounting := by
  refine ⟨fun hempty ↦ if_pos hempty, ?_, ?_⟩ <;> dsimp only [Arena.remove] <;> split
  · exact Int.le_refl 1
  · exact ha.next_pos
  · decide
  · exact ha.next_le

theorem IsCounting.removeAll (ha : a.IsCounting) (hs : List Handle) :
    (a.removeAll hs).IsCounting := by
  induction hs generalizing a with
  | nil => exact ha
  | cons h hs ih => exact ih (ha.remove h)

theorem Turn.isCounting (hturn : Turn a b) (ha : a.IsCounting) : b.IsCounting := by
  cases hturn with
  | store r => exact ha.store r
  | remove h => exact ha.remove h
  | amend h =>
    refine ⟨fun hempty ↦ ?_, h.next ▸ ha.next_pos, h.next ▸ ha.next_le⟩
    rw [h.next]
    exact ha.rewound (h.isEmpty_eq ▸ hempty)

/-- While there is room, what is under a handle before and after a turn is the same, unless it is a
request. -/
theorem Turn.fetch_eq (hturn : Turn a b) (ha : a.IsCounting) (hroom : a.size < Handle.largest)
    (hr : a.fetch h = some r) (hrequest : r.request? = none) (hlive : (b.fetch h).isSome) :
    b.fetch h = some r := by
  cases hturn with
  | store r' =>
    rw [fetch_store, if_neg, hr]
    rintro rfl
    rw [fetch_free ha hroom] at hr
    cases hr
  | remove k =>
    rw [fetch_remove] at hlive ⊢
    split at hlive
    · cases hlive
    · rename_i hk
      rw [if_neg hk, hr]
  | amend hab =>
    rcases hab.fetch h with heq | ⟨q, q', hq, -⟩
    · rw [heq, hr]
    · rw [hq] at hr
      cases hr
      cases hrequest

/-! ## Counting on -/

/-- The counter is beyond all handles in use. -/
def IsAhead (a : Arena) : Prop := ∀ h, (a.fetch h).isSome → h < a.next

theorem isAhead_empty : IsAhead {} := by
  intro h hlive
  rw [isEmpty_iff.1 rfl h] at hlive
  cases hlive

theorem IsAhead.free_eq (ha : a.IsAhead) : a.free = a.next := by
  have hnext : a.next ∉ a.entries := fun hmem ↦
    Int.lt_irrefl _ (ha a.next (Std.ExtTreeMap.mem_iff_isSome_getElem?.1 hmem))
  rw [free]
  cases a.entries.size with
  | zero => rfl
  | succ room => rw [freeFrom, if_neg hnext]

theorem IsAhead.next_store (ha : a.IsAhead) (hroom : a.next < Handle.largest) :
    (a.store r).2.next = a.next + 1 := by
  rw [store, ha.free_eq]
  exact if_pos hroom

theorem IsAhead.store (ha : a.IsAhead) (hroom : a.next < Handle.largest) :
    (a.store r).2.IsAhead := by
  intro h hlive
  rw [ha.next_store hroom]
  rw [fetch_store, ha.free_eq] at hlive
  split at hlive
  · lia
  · have := ha h hlive
    lia

theorem next_remove (hlive : (a.remove h).isEmpty = false) : (a.remove h).next = a.next := by
  have hlive' : (a.entries.erase h).isEmpty = false := hlive
  rw [remove]
  simp only [hlive', Bool.false_eq_true, if_false]

/-- As long as something is kept the counter goes on. -/
theorem Turn.isAhead (hturn : Turn a b) (ha : a.IsAhead) (hroom : a.next < Handle.largest)
    (hlive : b.isEmpty = false) : b.IsAhead ∧ a.next ≤ b.next := by
  cases hturn with
  | store r =>
    refine ⟨ha.store hroom, ?_⟩
    rw [ha.next_store hroom]
    lia
  | remove k =>
    refine ⟨fun h hh ↦ ?_, Int.le_of_eq (next_remove hlive).symm⟩
    rw [next_remove hlive]
    rw [fetch_remove] at hh
    split at hh
    · cases hh
    · exact ha h hh
  | amend hab =>
    refine ⟨fun h hh ↦ ?_, Int.le_of_eq hab.next.symm⟩
    rw [hab.next]
    rw [hab.isSome_eq] at hh
    exact ha h hh

/-- Nothing new comes under a handle that the counter has passed. -/
theorem Turn.fetch_of_lt (hturn : Turn a b) (ha : a.IsAhead) (hh : h < a.next)
    (hrequest : ∀ q, a.fetch h ≠ some (.request q)) : b.fetch h = a.fetch h ∨ b.fetch h = none := by
  cases hturn with
  | store r =>
    left
    rw [fetch_store, ha.free_eq, if_neg (Int.ne_of_lt hh)]
  | remove k =>
    rw [fetch_remove]
    split
    · exact .inr rfl
    · exact .inl rfl
  | amend hab =>
    rcases hab.fetch h with heq | ⟨q, q', hq, -⟩
    · exact .inl heq
    · exact absurd hq (hrequest q)

end SourceHost.Arena
