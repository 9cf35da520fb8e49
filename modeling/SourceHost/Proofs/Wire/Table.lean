import Mathlib.Order.Defs.LinearOrder
import SourceHost.Proofs.Text.Order
import SourceHost.Wire.Wired

/-!
# Tables and their entries

On the wire a table is a list of entries, in any order and with any number of entries under one
key.  What becomes of such a list when it is made a table and the table is listed again is said
here.

* `mem_of_mem_toList_ofList`, `ofList_toList` — no entry is made up, and a table that is listed and
  made a table again is the same.
* `ascending_toList` — the keys are listed in strictly ascending order of their bytes.
* `ofList_map` — it makes no difference whether the values are changed before or after.
-/

set_option autoImplicit false

namespace SourceHost.Table

open Std (ExtTreeMap)

variable {β γ : Type}

/-- What is found after entries have been put in is one of them, or was there before. -/
theorem mem_or_of_getElem?_insertMany {m : ExtTreeMap String β} {l : List (String × β)}
    {k : String} {v : β} (h : (m.insertMany l)[k]? = some v) : (k, v) ∈ l ∨ m[k]? = some v := by
  induction l generalizing m with
  | nil =>
    rw [ExtTreeMap.insertMany_nil] at h
    exact .inr h
  | cons e l ih =>
    rw [ExtTreeMap.insertMany_cons] at h
    rcases ih h with hmem | hget
    · exact .inl (.tail _ hmem)
    · rw [ExtTreeMap.getElem?_insert] at hget
      split at hget
      · rename_i heq
        obtain rfl := Std.LawfulEqCmp.eq_of_compare heq
        cases hget
        exact .inl (.head _)
      · exact .inr hget

/-- A table that was read holds only entries that were read. -/
theorem mem_of_mem_toList_ofList {l : List (String × β)} {e : String × β}
    (h : e ∈ (ExtTreeMap.ofList l).toList) : e ∈ l := by
  rw [ExtTreeMap.mem_toList_iff_getElem?_eq_some, ExtTreeMap.ofList_eq_insertMany_empty] at h
  rcases mem_or_of_getElem?_insertMany h with hmem | hget
  · exact hmem
  · rw [ExtTreeMap.getElem?_empty] at hget
    cases hget

theorem ofList_toList (m : ExtTreeMap String β) : ExtTreeMap.ofList m.toList = m := by
  refine ExtTreeMap.ext_getElem? fun k ↦ Option.ext fun v ↦ ?_
  rw [← ExtTreeMap.mem_toList_iff_getElem?_eq_some, ← ExtTreeMap.mem_toList_iff_getElem?_eq_some]
  refine ⟨mem_of_mem_toList_ofList, fun h ↦ ?_⟩
  rw [ExtTreeMap.mem_toList_iff_getElem?_eq_some]
  exact ExtTreeMap.getElem?_ofList_of_mem Std.ReflCmp.compare_self
    ExtTreeMap.distinct_keys_toList h

theorem nodup_toList (m : ExtTreeMap String β) : m.toList.Nodup := by
  refine List.Pairwise.imp (fun {a b} h hab ↦ h ?_) ExtTreeMap.distinct_keys_toList
  rw [hab]
  exact Std.ReflCmp.compare_self

/-- A table lists its keys in strictly ascending order of their bytes. -/
theorem ascending_toList (m : ExtTreeMap String β) :
    m.toList.Pairwise fun a b ↦ Utf8.encode a.1 < Utf8.encode b.1 := by
  refine List.Pairwise.imp (fun {a b} h ↦ ?_) ExtTreeMap.ordered_keys_toList
  exact Utf8.encode_lt_encode (compare_lt_iff_lt.1 h)

/-! ## Changing the values -/

theorem insertMany_map (f : β → γ) (m : ExtTreeMap String β) (l : List (String × β)) :
    (m.map fun _ ↦ f).insertMany (l.map fun e ↦ (e.1, f e.2)) =
      (m.insertMany l).map fun _ ↦ f := by
  induction l generalizing m with
  | nil => rfl
  | cons e l ih =>
    have hinsert : (m.map fun _ ↦ f).insert e.1 (f e.2) =
        (m.insert e.1 e.2).map fun _ ↦ f := by
      refine ExtTreeMap.ext_getElem? fun k ↦ ?_
      simp only [ExtTreeMap.getElem?_insert, ExtTreeMap.getElem?_map]
      split <;> rfl
    rw [List.map_cons, ExtTreeMap.insertMany_cons, ExtTreeMap.insertMany_cons, ← ih, hinsert]

/-- Changing the values before or after the entries become a table is the same. -/
theorem ofList_map (f : β → γ) (l : List (String × β)) :
    ExtTreeMap.ofList (l.map fun e ↦ (e.1, f e.2)) = (ExtTreeMap.ofList l).map fun _ ↦ f := by
  rw [ExtTreeMap.ofList_eq_insertMany_empty, ExtTreeMap.ofList_eq_insertMany_empty,
    ← insertMany_map]
  congr 1

end SourceHost.Table
