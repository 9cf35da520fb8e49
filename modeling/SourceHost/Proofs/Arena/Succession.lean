import Mathlib.Data.List.Iterate
import SourceHost.Proofs.Arena.Handles

/-!
# Handles that have been given back

A guest may go on using a handle after it has given it back.  It then finds nothing there, or
something else: as soon as the arena is empty, or the counter has come round, handles are handed out
anew.  This file says that nothing else makes a handle come back.

* `passed`, `course` — where the counter has been, handle by handle.
* `course_eq` — as long as something is kept, that is one handle after the other.
* `issued` — the handles that have been handed out, which are on this course.
* `risingHandles` — so they rise, and a handle that has been given back leads nowhere.
-/

set_option autoImplicit false

namespace SourceHost.Arena

variable {a b : Arena} {h k : Handle}

/-! ## The course of the counter -/

/-- Where the counter has been when the search from `h` on is over: at the handles in use that the
search has passed, and at the one it has ended at. -/
def passed (entries : Std.ExtTreeMap Handle Resource) : (room : Nat) → Handle → List Handle
  | 0, h => [h]
  | room + 1, h => if h ∈ entries then h :: passed entries room (after h) else [h]

/-- The resource that is stored, if one is. -/
def Op.stored? : Op → Option Resource
  | store r => some r
  | storeEncoded value => (Wired.encode value).toOption.map .bytes
  | replace .. | remove _ | mutate .. => none

/-- Where the counter has been when it has been done. -/
def Op.course (a : Arena) (op : Op) : List Handle :=
  match op.stored? with
  | some _ => passed a.entries a.entries.size a.next
  | none => []

/-- Where the counter has been when several things have been done in turn. -/
def course (a : Arena) : List Op → List Handle
  | [] => []
  | op :: ops => op.course a ++ course (op.run a) ops

/-- The handle that is handed out, if one is. -/
def Op.issued? (a : Arena) (op : Op) : Option Handle := op.stored?.map fun r ↦ (a.store r).1

/-- The handles that are handed out when several things are done in turn. -/
def issued (a : Arena) : List Op → List Handle
  | [] => []
  | op :: ops => (op.issued? a).toList ++ issued (op.run a) ops

/-- A search takes one handle after the other, up to the one it ends at. -/
theorem passed_eq (entries : Std.ExtTreeMap Handle Resource) (room : Nat) (h : Handle) :
    ∃ n, passed entries room h = List.iterate after h (n + 1) ∧
      freeFrom entries room h = after^[n] h := by
  induction room generalizing h with
  | zero => exact ⟨0, rfl, rfl⟩
  | succ room ih =>
    rw [passed, freeFrom]
    split
    · obtain ⟨n, hpassed, hfree⟩ := ih (after h)
      exact ⟨n + 1, by rw [hpassed]; rfl, hfree⟩
    · exact ⟨0, rfl, rfl⟩

theorem Op.run_of_stored? {op : Op} {r : Resource} (hr : op.stored? = some r) :
    op.run a = (a.store r).2 := by
  cases op with
  | store r' =>
    cases hr
    rfl
  | storeEncoded value =>
    rw [run_storeEncoded]
    rw [stored?] at hr
    cases hvalue : Wired.encode value with
    | error e => rw [hvalue] at hr; cases hr
    | ok data => rw [hvalue] at hr; cases hr; rfl
  | replace h r' => cases hr
  | remove h => cases hr
  | mutate h change => cases hr

/-- What can be done without storing anything. -/
theorem Op.run_cases {op : Op} (hr : op.stored? = none) (a : Arena) :
    op.run a = a ∨ (∃ h r, op = .replace h r ∧ op.run a = a.replace h r) ∨
      (∃ h, op.run a = a.remove h) ∨ ∃ h change, op.run a = a.mutate h change := by
  cases op with
  | store r => cases hr
  | storeEncoded value =>
    refine .inl ?_
    rw [run_storeEncoded]
    rw [stored?] at hr
    cases hvalue : Wired.encode value with
    | error e => rfl
    | ok data => rw [hvalue] at hr; cases hr
  | replace h r => exact .inr (.inl ⟨h, r, rfl, rfl⟩)
  | remove h => exact .inr (.inr (.inl ⟨h, rfl⟩))
  | mutate h change => exact .inr (.inr (.inr ⟨h, change, rfl⟩))

theorem Op.next_run_of_stored? {op : Op} (hr : op.stored? = none)
    (hlive : (op.run a).isEmpty = false) : (op.run a).next = a.next := by
  rcases run_cases hr a with heq | ⟨h, r, -, heq⟩ | ⟨h, heq⟩ | ⟨h, change, heq⟩ <;>
    rw [heq] at hlive ⊢
  · rfl
  · exact next_remove hlive
  · rw [Arena.mutate]
    split <;> rfl

/-- Unless nothing is left the counter takes one handle after the other. -/
theorem Op.course_eq (op : Op) (hlive : (op.run a).isEmpty = false) :
    ∃ n, op.course a = List.iterate after a.next n ∧ (op.run a).next = after^[n] a.next := by
  rw [course]
  cases hr : op.stored? with
  | none => exact ⟨0, rfl, next_run_of_stored? hr hlive⟩
  | some r =>
    obtain ⟨n, hpassed, hfree⟩ := passed_eq a.entries a.entries.size a.next
    refine ⟨n + 1, hpassed, ?_⟩
    rw [run_of_stored? hr, Function.iterate_succ_apply', ← hfree]
    rfl

/-- **As long as something is kept the counter takes one handle after the other.** -/
theorem course_eq (ops : List Op)
    (hlive : ∀ n < ops.length, (a.run (ops.take (n + 1))).isEmpty = false) :
    ∃ n, a.course ops = List.iterate after a.next n := by
  induction ops generalizing a with
  | nil => exact ⟨0, rfl⟩
  | cons op ops ih =>
    have hfirst : (op.run a).isEmpty = false := hlive 0 (Nat.succ_pos _)
    obtain ⟨m, hcourse, hnext⟩ := op.course_eq hfirst
    obtain ⟨n, hrest⟩ := ih (a := op.run a) fun i hi ↦ hlive (i + 1) (Nat.succ_lt_succ hi)
    refine ⟨m + n, ?_⟩
    rw [course, hcourse, hrest, hnext, List.iterate_add]

/-- A counter that does not go on from the largest handle rises. -/
theorem pairwise_iterate_after {n : Nat} (hle : h ≤ Handle.largest)
    (hn : Handle.largest ∉ (List.iterate after h n).dropLast) :
    (List.iterate after h n).Pairwise (· < ·) := by
  induction n generalizing h with
  | zero => exact List.Pairwise.nil
  | succ n ih =>
    cases n with
    | zero => exact List.pairwise_singleton _ h
    | succ n =>
      obtain ⟨hne, hrest⟩ := not_or.1 (mt List.mem_cons.2 hn)
      have hafter : after h = h + 1 := if_pos (by lia)
      have hrises := ih (by lia) hrest
      refine List.pairwise_cons.2 ⟨fun k hk ↦ ?_, hrises⟩
      rcases List.mem_cons.1 hk with rfl | hk
      · lia
      · have := (List.pairwise_cons.1 hrises).1 k hk
        lia

/-! ## What is handed out -/

/-- What is handed out the counter has been at. -/
theorem issued_sublist (a : Arena) (ops : List Op) : (a.issued ops).Sublist (a.course ops) := by
  induction ops generalizing a with
  | nil => exact List.Sublist.slnil
  | cons op ops ih =>
    refine List.Sublist.append ?_ (ih (op.run a))
    rw [Op.issued?, Op.course]
    cases op.stored? with
    | none => exact List.Sublist.slnil
    | some r =>
      obtain ⟨n, hpassed, hfree⟩ := passed_eq a.entries a.entries.size a.next
      refine List.singleton_sublist.2 ?_
      change freeFrom a.entries a.entries.size a.next ∈ _
      rw [hpassed, hfree, List.iterate_add]
      exact List.mem_append_right _ List.mem_cons_self

theorem issued_append (a : Arena) (earlier later : List Op) :
    a.issued (earlier ++ later) = a.issued earlier ++ (a.run earlier).issued later := by
  induction earlier generalizing a with
  | nil => rfl
  | cons op earlier ih => rw [List.cons_append, issued, issued, ih, List.append_assoc]; rfl

theorem Op.fetch_run_eq_none {op : Op} (hnone : a.fetch k = none) (hissued : op.issued? a ≠ some k)
    (hput : ∀ r, op ≠ .replace k r) : (op.run a).fetch k = none := by
  cases hr : op.stored? with
  | some r =>
    rw [run_of_stored? hr, fetch_store, if_neg, hnone]
    rintro rfl
    rw [issued?, hr] at hissued
    exact hissued rfl
  | none =>
    rcases run_cases hr a with heq | ⟨h, r, rfl, heq⟩ | ⟨h, heq⟩ | ⟨h, change, heq⟩ <;> rw [heq]
    · exact hnone
    · rw [fetch_replace, if_neg, hnone]
      rintro rfl
      exact hput r rfl
    · rw [fetch_remove, hnone, ite_self]
    · rw [fetch_mutate, hnone, Option.map_none, ite_self]

/-- There is nothing under a handle until it is handed out or something is put there. -/
theorem fetch_run_eq_none {ops : List Op} (hnone : a.fetch k = none) (hissued : k ∉ a.issued ops)
    (hput : ∀ r, .replace k r ∉ ops) : (a.run ops).fetch k = none := by
  induction ops generalizing a with
  | nil => exact hnone
  | cons op ops ih =>
    obtain ⟨hfirst, hlater⟩ := not_or.1 (mt List.mem_append.2 hissued)
    refine ih (op.fetch_run_eq_none hnone ?_ fun r hop ↦ ?_) hlater fun r hr ↦ ?_
    · rwa [Option.mem_toList] at hfirst
    · exact hput r (hop ▸ List.mem_cons_self)
    · exact hput r (List.mem_cons_of_mem op hr)

/-- What is handed out rises, as long as something is kept and the counter does not go on from the
largest handle. -/
theorem pairwise_issued (ha : a.IsCounting) (ops : List Op)
    (hlive : ∀ n < ops.length, (a.run (ops.take (n + 1))).isEmpty = false)
    (hcounter : Handle.largest ∉ (a.course ops).dropLast) : (a.issued ops).Pairwise (· < ·) := by
  obtain ⟨n, hcourse⟩ := course_eq ops hlive
  have hrises := pairwise_iterate_after ha.next_le (hcourse ▸ hcounter)
  exact (hcourse ▸ hrises).sublist (issued_sublist a ops)

/-- **Handles rise, and one that has been given back leads nowhere.**  Let `h` be handed out,
whatever has been done with the arena before, and let something be kept throughout all that is done
later.  Let the counter stay below the largest handle as well: it may come to it, but does not go on
from there in search of another one.  Then:

1. All handles that are handed out later are above `h`.
2. Each of them is above those before.
3. If one of them is given back, or `h` is, it is not handed out again.
4. Nor is there anything under it any more, unless something is put there. -/
theorem risingHandles (before : List Op) (op : Op) (later : List Op)
    (hissued : op.issued? (run {} before) = some h)
    (hlive : ∀ n ≤ later.length,
      (run {} (before ++ op :: later.take n)).isEmpty = false)
    (hcounter : Handle.largest ∉ ((run {} before).course (op :: later)).dropLast) :
    let b := run {} (before ++ [op])
    (∀ k ∈ b.issued later, h < k) ∧
    (b.issued later).Pairwise (· < ·) ∧
    ∀ earlier k rest, later = earlier ++ .remove k :: rest → k ∈ h :: b.issued earlier →
      k ∉ (b.run (earlier ++ [.remove k])).issued rest ∧
      ((∀ r, .replace k r ∉ rest) →
        ∀ n, (b.run (earlier ++ .remove k :: rest.take n)).fetch k = none) := by
  intro b
  have hb : b = op.run (run {} before) := List.foldl_append
  have ha : (run {} before).IsCounting := isCounting_run isCounting_empty before
  have hrises : (h :: b.issued later).Pairwise (· < ·) := by
    have hpairwise := pairwise_issued ha (op :: later) (fun n hn ↦ ?live) hcounter
    · rwa [issued, hissued, ← hb] at hpairwise
    case live =>
      have hlive' := hlive n (Nat.le_of_lt_succ hn)
      rwa [run, List.foldl_append] at hlive'
  obtain ⟨habove, hlater⟩ := List.pairwise_cons.1 hrises
  refine ⟨habove, hlater, fun earlier k rest hsplit hk ↦ ?_⟩
  subst hsplit
  have hafter : (b.run (earlier ++ [.remove k])).issued rest
      = ((b.run earlier).remove k).issued rest := by
    rw [run, List.foldl_append]
    rfl
  have hnew : k ∉ ((b.run earlier).remove k).issued rest := by
    intro hagain
    have hlast : k ∈ (b.run earlier).issued (.remove k :: rest) := hagain
    rw [issued_append b earlier] at habove hlater
    rcases List.mem_cons.1 hk with rfl | hk
    · exact Int.lt_irrefl k (habove k (List.mem_append_right _ hlast))
    · exact Int.lt_irrefl k ((List.pairwise_append.1 hlater).2.2 k hk k hlast)
  refine ⟨hafter ▸ hnew, fun hput n ↦ ?_⟩
  rw [run, List.foldl_append]
  refine fetch_run_eq_none (a := (b.run earlier).remove k) ?_ (fun hagain ↦ hnew ?_)
    fun r hr ↦ hput r (List.mem_of_mem_take hr)
  · rw [fetch_remove, if_pos rfl]
  · rw [← List.take_append_drop n rest, issued_append]
    exact List.mem_append_left _ hagain

/-- The first resource is given back while others are kept, one of them ahead of the counter. -/
def busy : List Op :=
  [.replace 3 (.text "c"), .storeEncoded "d", .remove 1, .remove 9, .mutate 2 fun _ ↦ .text "e",
    .store (.text "f"), .remove 3]

/-- Counting has started over before, and the counter passes the resource ahead of it. -/
theorem risingHandles_busy :
    let b := run {} [.store (.text "a"), .remove 1, .store (.text "b")]
    b.issued busy = [2, 4] ∧ (∀ k ∈ b.issued busy, 1 < k) ∧ (b.issued busy).Pairwise (· < ·) ∧
      ∀ n, (b.run (busy.take 3 ++ (busy.drop 3).take n)).fetch 1 = none := by
  intro b
  obtain ⟨habove, hrises, hgone⟩ := risingHandles (h := 1)
    [.store (.text "a"), .remove 1] (.store (.text "b")) busy (by decide +kernel)
    (by decide +kernel) (by decide +kernel)
  obtain ⟨-, hnothing⟩ := hgone [.replace 3 (.text "c"), .storeEncoded "d"] 1 (busy.drop 3) rfl
    List.mem_cons_self
  refine ⟨by decide +kernel, habove, hrises, hnothing fun r hr ↦ ?_⟩
  simp [busy] at hr

end SourceHost.Arena
