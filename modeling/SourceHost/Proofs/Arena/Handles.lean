import Mathlib.Data.Set.Card
import SourceHost.Proofs.Arena.Turn

/-!
# The arena as a table with fresh handles

Handles come from a counter that goes round, and resources can be put under handles that the counter
has not reached, or never will.  So the next handle has to be searched for, and what is under a
handle is a matter of all that has happened.  This file says what a guest may rely on, whatever has
been done with the arena since it was empty.

* `free_spec` — the search ends as soon as one handle is free: it ends at the first one from the
  counter on, going round.
* `Op`, `run` — what can be done with an arena, and the arena after it has been done.
* `Note`, `noted` — what has been done under each handle, and what ought to be there by the notes
  about this handle alone.
* `fetch_run` — what is found under a handle is what was noted.
* `freshHandles` — all of this, with how many resources there are.
-/

set_option autoImplicit false

namespace SourceHost.Arena

variable {a : Arena} {h k : Handle} {r : Resource}

theorem mem_entries : h ∈ a.entries ↔ (a.fetch h).isSome :=
  Std.ExtTreeMap.mem_iff_isSome_getElem?

/-! ## The search for a free handle

`le_size_of_passed` says that the search cannot have come far before it meets a handle that is not
in use.  So it does not matter that it gives up after as many handles as there are resources. -/

/-- A search that is long enough ends at the first handle on its way that is free. -/
theorem freeFrom_eq {entries : Std.ExtTreeMap Handle Resource} {room i : Nat} (hi : i ≤ room)
    (hpassed : ∀ j < i, after^[j] h ∈ entries) (hfree : after^[i] h ∉ entries) :
    freeFrom entries room h = after^[i] h := by
  induction i generalizing h room with
  | zero =>
    rw [Function.iterate_zero_apply] at hfree ⊢
    cases room with
    | zero => rfl
    | succ room => rw [freeFrom, if_neg hfree]
  | succ i ih =>
    obtain ⟨room, rfl⟩ := Nat.exists_eq_add_of_lt hi
    have hmem : h ∈ entries := hpassed 0 (Nat.succ_pos i)
    rw [freeFrom, if_pos hmem, Function.iterate_succ_apply]
    refine ih (by lia) (fun j hj ↦ ?_) hfree
    have hlater := hpassed (j + 1) (Nat.succ_lt_succ hj)
    rwa [Function.iterate_succ_apply] at hlater

/-- Whoever goes round comes past every handle. -/
theorem exists_iterate_after (hpos : 1 ≤ h) (hle : h ≤ Handle.largest) (kpos : 1 ≤ k)
    (kle : k ≤ Handle.largest) : ∃ i : Nat, i < Handle.largest ∧ after^[i] h = k := by
  rcases Int.le_total h k with hk | hk
  · refine ⟨(k - h).toNat, by lia, ?_⟩
    rw [iterate_after hpos hle]
    unfold Handle.largest at *
    lia
  · by_cases heq : h = k
    · exact ⟨0, by decide, heq⟩
    · refine ⟨(k - h + Handle.largest).toNat, by lia, ?_⟩
      rw [iterate_after hpos hle]
      unfold Handle.largest at *
      lia

/-- **The search ends as soon as one handle is free.**  It ends at the first one from the counter
on. -/
theorem free_spec (ha : a.IsCounting)
    (hroom : ∃ k, 1 ≤ k ∧ k ≤ Handle.largest ∧ a.fetch k = none) :
    ∃ i : Nat, i < Handle.largest ∧ a.free = after^[i] a.next ∧
      (∀ j < i, (a.fetch (after^[j] a.next)).isSome) ∧ a.fetch a.free = none := by
  obtain ⟨k, kpos, kle, hk⟩ := hroom
  obtain ⟨n, hn, rfl⟩ := exists_iterate_after ha.next_pos ha.next_le kpos kle
  have hkfree : after^[n] a.next ∉ a.entries := by simp [mem_entries, hk]
  have hexists : ∃ i, after^[i] a.next ∉ a.entries := ⟨n, hkfree⟩
  let i := Nat.find hexists
  have hfree : after^[i] a.next ∉ a.entries := Nat.find_spec hexists
  have hpassed : ∀ j < i, after^[j] a.next ∈ a.entries := fun j hj ↦
    not_not.1 (Nat.find_min hexists hj)
  have hin : i ≤ n := Nat.find_min' hexists hkfree
  have hi : (i : Int) < Handle.largest := by lia
  have heq : a.free = after^[i] a.next :=
    freeFrom_eq (le_size_of_passed ha (Int.le_of_lt hi) hpassed) hpassed hfree
  refine ⟨i, hi, heq, fun j hj ↦ mem_entries.1 (hpassed j hj), ?_⟩
  rw [heq, ← Option.not_isSome_iff_eq_none, ← mem_entries]
  exact hfree

/-- The search goes round at the largest handle. -/
example : ((({ next := Handle.largest } : Arena).replace Handle.largest (.text "a")).replace 1
    (.text "b")).free = 2 := by decide +kernel

/-! ## What can be done with an arena -/

/-- The arena with the resource under a handle changed in its place. -/
def mutate (a : Arena) (h : Handle) (change : Resource → Resource) : Arena :=
  match a.fetch h with
  | some r => a.replace h (change r)
  | none => a

/-- Something that is done with an arena. -/
inductive Op : Type 1 where
  /-- A resource is stored. -/
  | store (r : Resource)
  /-- The wire form of a value is stored, if it has one. -/
  | storeEncoded {α : Type} [Wired α] (value : α)
  /-- A resource is put under a handle. -/
  | replace (h : Handle) (r : Resource)
  /-- A resource is taken away. -/
  | remove (h : Handle)
  /-- The resource under a handle is changed in its place. -/
  | mutate (h : Handle) (change : Resource → Resource)

/-- What is done under one handle. -/
inductive Note where
  /-- A resource is put there. -/
  | put (h : Handle) (r : Resource)
  /-- The resource there is changed. -/
  | changed (h : Handle) (change : Resource → Resource)
  /-- It is taken away. -/
  | removed (h : Handle)

/-- The handle. -/
def Note.handle : Note → Handle
  | put h _ => h
  | changed h _ => h
  | removed h => h

/-- What is under the handle then, after what was there before. -/
def Note.outcome (before : Option Resource) : Note → Option Resource
  | put _ r => some r
  | changed _ change => before.map change
  | removed _ => none

namespace Op

/-- The arena after it has been done. -/
def run (a : Arena) : Op → Arena
  | store r => (a.store r).2
  | storeEncoded value => match a.storeEncoded value with
    | .ok (_, b) => b
    | .error _ => a
  | replace h r => a.replace h r
  | remove h => a.remove h
  | mutate h change => a.mutate h change

/-- What is noted about it.  Of what is stored the handle is noted that was handed out for it. -/
def note? (a : Arena) : Op → Option Note
  | store r => some (.put (a.store r).1 r)
  | storeEncoded value => match Wired.encode value with
    | .ok data => some (.put (a.store (.bytes data)).1 (.bytes data))
    | .error _ => none
  | replace h r => some (.put h r)
  | remove h => some (.removed h)
  | mutate h change => some (.changed h change)

end Op

/-- The arena after several things have been done in turn. -/
def run (a : Arena) (ops : List Op) : Arena := ops.foldl Op.run a

/-- What is noted meanwhile. -/
def notes (a : Arena) : List Op → List Note
  | [] => []
  | op :: ops => (op.note? a).toList ++ notes (op.run a) ops

/-- What ought to be under a handle: what the notes about this handle make of what was there. -/
def noted (h : Handle) (before : Option Resource) (notes : List Note) : Option Resource :=
  (notes.filter (·.handle = h)).foldl Note.outcome before

theorem fetch_mutate {change : Resource → Resource} :
    (a.mutate h change).fetch k = if k = h then (a.fetch k).map change else a.fetch k := by
  rw [mutate]
  by_cases hk : k = h
  · rw [if_pos hk, hk]
    cases hr : a.fetch h with
    | none => exact hr
    | some r => exact fetch_replace.trans (if_pos rfl)
  · rw [if_neg hk]
    cases a.fetch h with
    | none => rfl
    | some r => exact fetch_replace.trans (if_neg hk)

/-- Storing the wire form of a value is storing bytes, or nothing happens. -/
theorem Op.run_storeEncoded {α : Type} [Wired α] (a : Arena) (value : α) :
    (storeEncoded value).run a = match Wired.encode value with
      | .ok data => (a.store (.bytes data)).2
      | .error _ => a := by
  simp only [run, Arena.storeEncoded]
  cases Wired.encode value <;> rfl

theorem Op.isCounting_run (op : Op) (ha : a.IsCounting) : (op.run a).IsCounting := by
  cases op with
  | store r => exact ha.store r
  | storeEncoded value =>
    rw [run_storeEncoded]
    split
    · exact ha.store _
    · exact ha
  | replace h r => exact ha.replace h r
  | remove h => exact ha.remove h
  | mutate h change =>
    rw [run, Arena.mutate]
    split
    · exact ha.replace h _
    · exact ha

theorem isCounting_run (ha : a.IsCounting) (ops : List Op) : (a.run ops).IsCounting := by
  induction ops generalizing a with
  | nil => exact ha
  | cons op ops ih => exact ih (op.isCounting_run ha)

/-- What is done changes what is under the handle it is noted for, and nothing else. -/
theorem Op.fetch_run (op : Op) :
    (op.run a).fetch h = noted h (a.fetch h) (op.note? a).toList := by
  have hput (k : Handle) (r : Resource) :
      noted h (a.fetch h) [.put k r] = if h = k then some r else a.fetch h := by
    by_cases hk : h = k <;> simp [noted, Note.handle, Note.outcome, hk, eq_comm]
  cases op with
  | store r => exact fetch_store.trans (hput _ r).symm
  | storeEncoded value =>
    rw [run_storeEncoded, note?]
    split
    · exact fetch_store.trans (hput _ _).symm
    · rfl
  | replace k r => exact fetch_replace.trans (hput k r).symm
  | remove k =>
    refine fetch_remove.trans ?_
    by_cases hk : h = k <;> simp [noted, note?, Note.handle, Note.outcome, hk, eq_comm]
  | mutate k change =>
    refine fetch_mutate.trans ?_
    by_cases hk : h = k <;> simp [noted, note?, Note.handle, Note.outcome, hk, eq_comm]

/-- **What is found under a handle is what was noted for it.** -/
theorem fetch_run (ops : List Op) : (a.run ops).fetch h = noted h (a.fetch h) (a.notes ops) := by
  induction ops generalizing a with
  | nil => rfl
  | cons op ops ih =>
    calc (a.run (op :: ops)).fetch h
      _ = noted h ((op.run a).fetch h) ((op.run a).notes ops) := ih
      _ = noted h (a.fetch h) (a.notes (op :: ops)) := by
        rw [op.fetch_run, notes, noted, noted, noted, List.filter_append, List.foldl_append]

/-- There are as many resources as handles in use. -/
theorem encard_live (a : Arena) : {h | (a.fetch h).isSome}.encard = a.size := by
  have hlive : {h | (a.fetch h).isSome} = (a.entries.keys.toFinset : Set Handle) := by
    ext h
    simp [mem_entries]
  rw [hlive, Set.encard_coe_eq_coe_finsetCard, List.toFinset_card_of_nodup
    Std.ExtTreeMap.nodup_keys, Std.ExtTreeMap.length_keys]
  rfl

/-! ## Fresh handles -/

/-- **The arena is a table with fresh handles.**  Whatever has been done with an arena since it was
empty:

1. The counter is a handle.
2. As soon as one handle is free storing a resource comes to an end.  The resource gets the first
   handle that is free from the counter on, going round after the largest.  That is a handle, nothing
   was under it, the resource is, and under all others there is what there was.
3. What is found under a handle is what was noted for it: what was last stored there, put there or
   changed there since it was last taken away, and otherwise nothing.
4. There are as many resources as handles under which there is one.
5. When there is none the next resource gets the first handle. -/
theorem freshHandles (ops : List Op) :
    let a := run {} ops
    (1 ≤ a.next ∧ a.next ≤ Handle.largest) ∧
    ((∃ k, 1 ≤ k ∧ k ≤ Handle.largest ∧ a.fetch k = none) → ∀ r,
      (∃ i : Nat, i < Handle.largest ∧ (a.store r).1 = after^[i] a.next ∧
        ∀ j < i, (a.fetch (after^[j] a.next)).isSome) ∧
      (1 ≤ (a.store r).1 ∧ (a.store r).1 ≤ Handle.largest) ∧
      a.fetch (a.store r).1 = none ∧
      ∀ k, (a.store r).2.fetch k = if k = (a.store r).1 then some r else a.fetch k) ∧
    (∀ h, a.fetch h = noted h none (notes {} ops)) ∧
    {h | (a.fetch h).isSome}.encard = a.size ∧
    (a.isEmpty → ∀ r, (a.store r).1 = 1) := by
  intro a
  have ha : a.IsCounting := isCounting_run isCounting_empty ops
  refine ⟨⟨ha.next_pos, ha.next_le⟩, fun hroom r ↦ ?store, fun h ↦ ?noted, encard_live a,
    fun hempty r ↦ store_fst_of_isEmpty ha hempty r⟩
  case store =>
    obtain ⟨i, hi, heq, hpassed, hfree⟩ := free_spec ha hroom
    have hbounds := freeFrom_bounds a.entries a.entries.size ha.next_pos ha.next_le
    exact ⟨⟨i, hi, heq, hpassed⟩, hbounds, hfree, fun k ↦ fetch_store⟩
  case noted =>
    have hnone : ({} : Arena).fetch h = none := isEmpty_iff.1 rfl h
    rw [fetch_run, hnone]

/-- Some resources, one of them ahead of the counter and one under no handle at all. -/
def crowded : List Op :=
  [.store (.text "a"), .storeEncoded "b", .replace 3 (.text "c"), .replace (-7) (.text "d"),
    .remove 1, .mutate 3 fun _ ↦ .text "e"]

/-- The counter is at a handle in use, and the next resource gets the one after it. -/
theorem freshHandles_crowded :
    let a := run {} crowded
    a.next = 3 ∧ (a.store (.text "f")).1 = 4 ∧ a.fetch 4 = none ∧
      a.fetch 3 = some (.text "e") ∧ {h | (a.fetch h).isSome}.encard = 3 := by
  intro a
  obtain ⟨-, hstore, hnoted, hsize, -⟩ := freshHandles crowded
  have hstored : (a.store (.text "f")).1 = 4 := by decide +kernel
  have hroom : ∃ k, 1 ≤ k ∧ k ≤ Handle.largest ∧ a.fetch k = none :=
    ⟨1, by decide, by decide, by decide +kernel⟩
  obtain ⟨-, -, hfree, -⟩ := hstore hroom (.text "f")
  refine ⟨by decide +kernel, hstored, ?_, (hnoted 3).trans (by decide +kernel), ?_⟩
  · rw [← hstored]
    exact hfree
  · have hthree : a.size = 3 := by decide +kernel
    rw [hsize, hthree]
    rfl

end SourceHost.Arena
