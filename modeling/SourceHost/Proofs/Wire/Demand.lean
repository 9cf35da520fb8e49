import SourceHost.Proofs.Wire.Reading

/-!
# What a few bytes can demand

A count is a few bytes and can be as large as one likes, and whoever reads it is about to make
room for as many items.  So the size of what is read has to be bounded by the bytes that are read
from, wherever these come from.

* `demand` — every item that takes bytes has a byte of its own.  Items that take none are bounded
  in each list or map by `maxUnbackedCount` or the bytes there are, and the lists and maps of such
  items are bounded in number, for each has a byte of its count.
-/

set_option autoImplicit false

namespace SourceHost
namespace Shape

variable {P : Mark → Prop}

/-- How many lists and maps in a value have items that take no bytes. -/
def hollowNodes (s : Shape) (v : s.Value) : Nat := (s.nodes v).countP Node.isHollow

theorem hollowNodes_pair {a b : Shape} (v : a.Value × b.Value) :
    (pair a b).hollowNodes v = a.hollowNodes v.1 + b.hollowNodes v.2 :=
  List.countP_append

theorem hollowNodes_seq_le {s : Shape} (vs : List s.Value) :
    (seq s).hollowNodes vs ≤ 1 + (vs.map s.hollowNodes).sum := by
  rw [hollowNodes, nodes, List.countP_cons, List.countP_flatMap, Nat.add_comm]
  refine Nat.add_le_add_right ?_ _
  split <;> decide

/-- Each of the lists and maps whose items take no bytes pays a byte of its own. -/
def PaysHollow (P : Mark → Prop) (s : Shape) : Prop :=
  ∀ after w v, s.Spells P after w v → s.hollowNodes v ≤ w.length

theorem PaysHollow.pair {a b : Shape} (ha : a.PaysHollow P) (hb : b.PaysHollow P) :
    (Shape.pair a b).PaysHollow P := by
  rintro after w v ⟨front, back, rfl, hfront, hback⟩
  rw [hollowNodes_pair, List.length_append]
  exact Nat.add_le_add (ha _ _ _ hfront) (hb _ _ _ hback)

theorem PaysHollow.seq {s : Shape} (h : s.PaysHollow P) : (Shape.seq s).PaysHollow P := by
  rintro after w vs ⟨front, back, rfl, hfront, -, hback⟩
  rw [List.length_append]
  exact Nat.le_trans (hollowNodes_seq_le vs) (Nat.add_le_add hfront.length_pos (hback.sum_le h))

theorem paysHollow (P : Mark → Prop) (s : Shape) : s.PaysHollow P := by
  induction s with
  | seq s ih => exact ih.seq
  | map k t ihk iht => exact (ihk.pair iht).seq
  | pair a b iha ihb => exact iha.pair ihb
  | option s ih =>
    rintro after w (_ | v) h
    · exact Nat.zero_le _
    · obtain ⟨a, back, rfl, -, -, hback⟩ := h
      exact Nat.le_succ_of_le (ih _ _ _ hback)
  | sum n p ih =>
    rintro after w ⟨i, v⟩ ⟨a, back, rfl, -, hback⟩
    exact Nat.le_succ_of_le (ih i _ _ _ hback)
  | _ => exact fun _ _ _ _ ↦ Nat.zero_le _

end Shape

/-- **What is read is no larger than its bytes pay for.**  When a value is read from `b` and the
bytes `w` are used for it:

* All the lists and maps in the value together, at any depth, have no more items that take bytes
  than `w` has bytes.
* No more lists and maps in it than `w` has bytes have items that take none, and each of these has
  no more than `maxUnbackedCount` items, or no more than `b` has bytes.
* `w` is empty if the shape is of zero width, which is to say that it is empty itself or made of
  such shapes.  Otherwise it is not empty. -/
theorem demand (s : Shape) (b : Bytes) (v : s.Value) (rest : Bytes)
    (h : s.take b = .ok (v, rest)) :
    ∃ w, b = w ++ rest ∧ s.solidItems v ≤ w.length ∧ s.hollowNodes v ≤ w.length ∧
      (∀ count, .collection true count ∈ s.nodes v → count ≤ max maxUnbackedCount b.length) ∧
      (s.isZeroWidth = true → w = []) ∧ (s.isZeroWidth = false → 1 ≤ w.length) := by
  obtain ⟨w, rfl, hw⟩ := Shape.take_eq_ok_iff.1 h
  refine ⟨w, rfl, Nat.le_of_add_right_le (s.pays _ _ _ _ hw), s.paysHollow _ _ _ _ hw, ?_,
    hw.eq_nil, hw.length_pos⟩
  intro count hnode
  rw [List.length_append]
  exact (s.fits _ _ _ _ hw _ hnode).2

/-- A list of two lists, one of three bytes and one of none, beside a list of items that take no
bytes. -/
theorem demand_nested :
    let s : Shape := .pair (.seq (.seq .u8)) (.seq .unit)
    ∃ w : Bytes, [2, 3, 7, 8, 9, 0, 40, 4] = w ++ [4] ∧
      s.solidItems ([[7, 8, 9], []], List.replicate 40 ()) ≤ w.length ∧
      s.hollowNodes ([[7, 8, 9], []], List.replicate 40 ()) ≤ w.length ∧ 1 ≤ w.length := by
  intro s
  obtain ⟨w, hw, hsolid, hhollow, -, -, hpos⟩ :=
    demand s [2, 3, 7, 8, 9, 0, 40, 4] ([[7, 8, 9], []], List.replicate 40 ()) [4] rfl
  exact ⟨w, hw, hsolid, hhollow, hpos rfl⟩

end SourceHost
