import Mathlib.Data.List.Perm.Subperm
import SourceHost.Proofs.Wire.Table
import SourceHost.Proofs.Wire.Writing

/-!
# Tidy values

A map that was read may have its entries in any order and several of them under one key.  Made a
table and listed again, its keys ascend and are different.  `Shape.tidy` does this to every map in
a value, and so says what a value read into tables comes out as.

The values of the catalog have *plain* shapes: nothing in them is without a form, no list has items
that take no bytes, and the keys of every map are texts.

* `tidy_isAscending` — in a tidy value of a plain shape the keys of every map strictly ascend.
* `fitsIn_encode_tidy` — a tidy value takes no more bytes than the value it comes from.
-/

set_option autoImplicit false

namespace SourceHost

variable {α β : Type}

namespace Shape

/-- The shape is that of texts. -/
def isText : Shape → Bool
  | text => true
  | _ => false

/-- The shapes that values of the catalog have: all items take bytes, all keys are texts, every
variant fits in its byte, and there is a form for everything. -/
def isPlain : Shape → Bool
  | option s => s.isPlain
  | seq s => !s.isZeroWidth && s.isPlain
  | map k v => k.isText && v.isPlain
  | pair a b => a.isPlain && b.isPlain
  | sum n p => n ≤ 256 && (List.finRange n).all fun i ↦ (p i).isPlain
  | unsupported _ => false
  | _ => true

/-- The entries of a map as a table lists them, if the keys are texts. -/
def tabulate : (key : Shape) → List (key.Value × β) → List (key.Value × β)
  | text, entries => (Std.ExtTreeMap.ofList entries).toList
  | _, entries => entries

/-- The value with every map in it as a table lists it. -/
def tidy : (s : Shape) → s.Value → s.Value
  | option s, v => Option.map s.tidy v
  | seq s, vs => List.map s.tidy vs
  | map k v, entries => k.tabulate (entries.map fun e ↦ (e.1, v.tidy e.2))
  | pair a b, v => (a.tidy v.1, b.tidy v.2)
  | sum _ p, v => ⟨v.1, (p v.1).tidy v.2⟩
  | _, v => v

/-- The keys of the entries are texts whose bytes strictly ascend. -/
def KeysAscend : (key : Shape) → List (key.Value × β) → Prop
  | text, entries => entries.Pairwise fun a b ↦ Utf8.encode a.1 < Utf8.encode b.1
  | _, _ => False

/-- In every map in the value the keys are texts whose bytes strictly ascend. -/
def IsAscending : (s : Shape) → s.Value → Prop
  | option s, v => ∀ x ∈ v, s.IsAscending x
  | seq s, vs => ∀ v ∈ vs, s.IsAscending v
  | map k v, entries => k.KeysAscend entries ∧ ∀ e ∈ entries, v.IsAscending e.2
  | pair a b, v => a.IsAscending v.1 ∧ b.IsAscending v.2
  | sum _ p, v => (p v.1).IsAscending v.2
  | _, _ => True

theorem isText_iff {s : Shape} : s.isText = true ↔ s = text := by
  cases s <;> simp [isText]

theorem isPlain_sum {n : Nat} {p : Fin n → Shape} :
    (sum n p).isPlain = true ↔ n ≤ 256 ∧ ∀ i, (p i).isPlain = true := by
  simp [isPlain]

theorem isSolid_of_isPlain {s : Shape} (h : s.isPlain = true) : s.IsSolid := by
  induction s with
  | option s ih => exact ih h
  | seq s ih =>
    rw [isPlain, Bool.and_eq_true, Bool.not_eq_true'] at h
    exact ⟨h.1, ih h.2⟩
  | map k t _ iht =>
    rw [isPlain, Bool.and_eq_true, isText_iff] at h
    obtain ⟨rfl, ht⟩ := h
    exact ⟨rfl, trivial, iht ht⟩
  | pair a b iha ihb =>
    rw [isPlain, Bool.and_eq_true] at h
    exact ⟨iha h.1, ihb h.2⟩
  | sum n p ih => exact fun i ↦ ih i ((isPlain_sum.1 h).2 i)
  | _ => trivial

/-- No value of a plain shape has a fault. -/
theorem fault_eq_none_of_isPlain {s : Shape} (h : s.isPlain = true) (v : s.Value) :
    ∀ node ∈ s.nodes v, node.fault = none := by
  induction s with
  | option s ih =>
    cases v with
    | none => exact List.forall_mem_nil _
    | some v => exact ih h v
  | seq s ih =>
    rw [isPlain, Bool.and_eq_true] at h
    exact forall_nodes_seq.2 ⟨rfl, fun v _ ↦ ih h.2 v⟩
  | map k t _ iht =>
    rw [isPlain, Bool.and_eq_true, isText_iff] at h
    obtain ⟨rfl, ht⟩ := h
    refine List.forall_mem_cons.2 ⟨rfl, List.forall_mem_flatMap.2 fun e _ ↦ ?_⟩
    exact List.forall_mem_append.2 ⟨List.forall_mem_singleton.2 rfl, iht ht e.2⟩
  | pair a b iha ihb =>
    rw [isPlain, Bool.and_eq_true] at h
    exact forall_nodes_pair.2 ⟨iha h.1 v.1, ihb h.2 v.2⟩
  | sum n p ih =>
    obtain ⟨hn, hp⟩ := isPlain_sum.1 h
    refine forall_nodes_sum.2 ⟨if_pos (Nat.lt_of_lt_of_le v.1.isLt hn), ih v.1 (hp v.1) v.2⟩
  | unsupported what => cases h
  | char | text | bytes => exact List.forall_mem_singleton.2 rfl
  | _ => exact List.forall_mem_nil _

theorem keysAscend_tabulate_text (entries : List (String × β)) :
    text.KeysAscend (text.tabulate entries) := by
  rw [KeysAscend, tabulate]
  exact Table.ascending_toList _

theorem tidy_isAscending {s : Shape} (h : s.isPlain = true) (v : s.Value) :
    s.IsAscending (s.tidy v) := by
  induction s with
  | option s ih =>
    intro x hx
    obtain ⟨y, -, rfl⟩ := Option.map_eq_some_iff.1 hx
    exact ih h y
  | seq s ih =>
    rw [isPlain, Bool.and_eq_true] at h
    exact List.forall_mem_map.2 fun y _ ↦ ih h.2 y
  | map k t _ iht =>
    rw [isPlain, Bool.and_eq_true, isText_iff] at h
    obtain ⟨rfl, ht⟩ := h
    refine ⟨keysAscend_tabulate_text _, fun e he ↦ ?_⟩
    obtain ⟨e', -, rfl⟩ := List.mem_map.1 (Table.mem_of_mem_toList_ofList he)
    exact iht ht e'.2
  | pair a b iha ihb =>
    rw [isPlain, Bool.and_eq_true] at h
    exact ⟨iha h.1 v.1, ihb h.2 v.2⟩
  | sum n p ih => exact ih v.1 ((isPlain_sum.1 h).2 v.1) v.2
  | _ => trivial

end Shape

/-! ## Tidy values are no longer -/

/-- Something can be written in no more than so many bytes. -/
def FitsIn (room : Nat) (x : Except WireError Bytes) : Prop := ∃ b, x = .ok b ∧ b.length ≤ room

theorem FitsIn.of_le {room room' : Nat} {x : Except WireError Bytes} (h : FitsIn room x)
    (hle : room ≤ room') : FitsIn room' x := by
  obtain ⟨b, hb, hlen⟩ := h
  exact ⟨b, hb, Nat.le_trans hlen hle⟩

theorem FitsIn.append {room room' : Nat} {x y : Except WireError Bytes} (hx : FitsIn room x)
    (hy : FitsIn room' y) :
    FitsIn (room + room') (do let front ← x; let back ← y; return front ++ back) := by
  obtain ⟨b, rfl, hlen⟩ := hx
  obtain ⟨b', rfl, hlen'⟩ := hy
  refine ⟨b ++ b', rfl, ?_⟩
  rw [List.length_append]
  exact Nat.add_le_add hlen hlen'

theorem fitsIn_self {x : Except WireError Bytes} {b : Bytes} (h : x = .ok b) : FitsIn b.length x :=
  ⟨b, h, Nat.le_refl _⟩

section Each

variable {write : α → Except WireError Bytes}

/-- If no item takes more bytes after a change, the list does not. -/
theorem fitsIn_encodeEach_map {f : α → α}
    (h : ∀ a b, write a = .ok b → FitsIn b.length (write (f a))) {as : List α} {b : Bytes}
    (hb : encodeEach write as = .ok b) : FitsIn b.length (encodeEach write (as.map f)) := by
  induction as generalizing b with
  | nil => exact fitsIn_self hb
  | cons a as ih =>
    obtain ⟨front, back, hfront, hback, rfl⟩ := append_eq_ok_iff.1 hb
    rw [List.length_append]
    exact (h a _ hfront).append (ih hback)

theorem fitsIn_encodeEach_of_sublist {as as' : List α} (h : as'.Sublist as) {b : Bytes}
    (hb : encodeEach write as = .ok b) : FitsIn b.length (encodeEach write as') := by
  induction h generalizing b with
  | slnil => exact fitsIn_self hb
  | cons a _ ih =>
    obtain ⟨front, back, -, hback, rfl⟩ := append_eq_ok_iff.1 hb
    rw [List.length_append]
    exact (ih hback).of_le (Nat.le_add_left _ _)
  | cons_cons a _ ih =>
    obtain ⟨front, back, hfront, hback, rfl⟩ := append_eq_ok_iff.1 hb
    rw [List.length_append]
    exact (fitsIn_self hfront).append (ih hback)

theorem fitsIn_encodeEach_of_perm {as as' : List α} (h : as'.Perm as) {b : Bytes}
    (hb : encodeEach write as = .ok b) : FitsIn b.length (encodeEach write as') := by
  induction h generalizing b with
  | nil => exact fitsIn_self hb
  | cons a _ ih =>
    obtain ⟨front, back, hfront, hback, rfl⟩ := append_eq_ok_iff.1 hb
    rw [List.length_append]
    exact (fitsIn_self hfront).append (ih hback)
  | swap a a' as =>
    obtain ⟨front, _, hfront, hrest, rfl⟩ := append_eq_ok_iff.1 hb
    obtain ⟨front', back, hfront', hback, rfl⟩ := append_eq_ok_iff.1 hrest
    have hswap := (fitsIn_self hfront').append ((fitsIn_self hfront).append (fitsIn_self hback))
    refine hswap.of_le ?_
    simp only [List.length_append]
    omega
  | trans _ _ ih ih' =>
    obtain ⟨c, hc, hlen⟩ := ih' hb
    exact (ih hc).of_le hlen

theorem fitsIn_encodeEach_of_subperm {as as' : List α} (h : as'.Subperm as) {b : Bytes}
    (hb : encodeEach write as = .ok b) : FitsIn b.length (encodeEach write as') := by
  obtain ⟨as'', hperm, hsub⟩ := h
  obtain ⟨c, hc, hlen⟩ := fitsIn_encodeEach_of_sublist hsub hb
  exact (fitsIn_encodeEach_of_perm hperm.symm hc).of_le hlen

end Each

theorem Varint.length_encode_mono {m n : Nat} (h : m ≤ n) :
    (Varint.encode m).length ≤ (Varint.encode n).length := by
  induction n using Varint.encode.induct generalizing m with
  | case1 n hn =>
    rw [Varint.encode, if_pos (Nat.lt_of_le_of_lt h hn), Varint.encode, if_pos hn]
    exact Nat.le_refl 1
  | case2 n hn ih =>
    rw [Varint.encode.eq_def m, Varint.encode.eq_def n, if_neg hn]
    split
    · exact Nat.succ_le_succ (Nat.zero_le _)
    · exact Nat.succ_le_succ (ih (Nat.div_le_div_right h))

namespace Shape

theorem tabulate_subperm (k : Shape) (entries : List (k.Value × β)) :
    (k.tabulate entries).Subperm entries := by
  cases k with
  | text =>
    exact List.subperm_of_subset (Table.nodup_toList _) fun e ↦ Table.mem_of_mem_toList_ofList
  | _ => exact List.Subperm.refl _

/-- **Tidying makes a value no longer.** -/
theorem fitsIn_encode_tidy {s : Shape} {v : s.Value} {b : Bytes} (h : s.encode v = .ok b) :
    FitsIn b.length (s.encode (s.tidy v)) := by
  induction s generalizing b with
  | option s ih =>
    cases v with
    | none => exact fitsIn_self h
    | some v =>
      obtain ⟨back, hv, rfl⟩ := (@prepend_eq_ok_iff [1] _ _).1 h
      rw [List.length_append]
      exact (fitsIn_self (b := [1]) rfl).append (ih hv)
  | seq s ih =>
    obtain ⟨items, hitems, rfl⟩ := prepend_eq_ok_iff.1 h
    have hitem : ∀ a b, s.encode a = .ok b → FitsIn b.length (s.encode (s.tidy a)) :=
      fun _ _ ↦ ih
    rw [List.length_append, tidy, encode, List.length_map]
    exact (fitsIn_self rfl).append (fitsIn_encodeEach_map hitem hitems)
  | map k t ihk iht =>
    obtain ⟨items, hitems, rfl⟩ := prepend_eq_ok_iff.1 h
    have hentry : ∀ e b, (pair k t).encode e = .ok b →
        FitsIn b.length ((pair k t).encode (e.1, t.tidy e.2)) := by
      intro e b he
      obtain ⟨front, back, hkey, hvalue, rfl⟩ := append_eq_ok_iff.1 he
      rw [List.length_append]
      exact (fitsIn_self hkey).append (iht hvalue)
    have hsub := tabulate_subperm k (List.map (fun e ↦ (e.1, t.tidy e.2)) v)
    obtain ⟨items', hitems', hlen⟩ := fitsIn_encodeEach_map hentry hitems
    have hitems'' := (fitsIn_encodeEach_of_subperm hsub hitems').of_le hlen
    have hcount := Varint.length_encode_mono (List.length_map _ ▸ hsub.length_le)
    rw [List.length_append]
    exact (FitsIn.of_le (fitsIn_self rfl) hcount).append hitems''
  | pair a b iha ihb =>
    obtain ⟨front, back, hx, hy, rfl⟩ := append_eq_ok_iff.1 h
    rw [List.length_append]
    exact (iha hx).append (ihb hy)
  | sum n p ih =>
    obtain ⟨front, back, hfront, hv, rfl⟩ := append_eq_ok_iff.1 h
    rw [List.length_append]
    exact (fitsIn_self hfront).append (ih v.1 hv)
  | _ => exact fitsIn_self h

/-- Tidying makes no length and no count larger. -/
theorem IsSized.tidy {s : Shape} {v : s.Value} (h : s.IsSized v) : s.IsSized (s.tidy v) := by
  induction s with
  | option s ih =>
    cases v with
    | none => exact h
    | some v => exact ih h
  | seq s ih =>
    obtain ⟨hcount, hitems⟩ := forall_nodes_seq.1 h
    refine forall_nodes_seq.2 ⟨?_, List.forall_mem_map.2 fun v hv ↦ ih (hitems v hv)⟩
    rwa [Shape.tidy, List.length_map]
  | map k t _ iht =>
    obtain ⟨hcount, hentries⟩ := List.forall_mem_cons.1 h
    rw [List.forall_mem_flatMap] at hentries
    have hsub := tabulate_subperm k (List.map (fun e ↦ (e.1, t.tidy e.2)) v)
    have hle := hsub.length_le
    rw [List.length_map] at hle
    refine List.forall_mem_cons.2 ⟨Nat.lt_of_le_of_lt hle hcount, ?_⟩
    refine List.forall_mem_flatMap.2 fun e he ↦ ?_
    obtain ⟨e', he', rfl⟩ := List.mem_map.1 (hsub.subset he)
    obtain ⟨hkey, hvalue⟩ := List.forall_mem_append.1 (hentries e' he')
    exact List.forall_mem_append.2 ⟨hkey, iht hvalue⟩
  | pair a b iha ihb =>
    obtain ⟨ha, hb⟩ := forall_nodes_pair.1 h
    exact forall_nodes_pair.2 ⟨iha ha, ihb hb⟩
  | sum n p ih =>
    obtain ⟨hindex, hv⟩ := forall_nodes_sum.1 h
    exact forall_nodes_sum.2 ⟨hindex, ih v.1 hv⟩
  | _ => exact h

end Shape
end SourceHost
