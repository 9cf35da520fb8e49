import Mathlib.Algebra.GroupWithZero.Nat
import SourceHost.Proofs.Wire.Node
import SourceHost.Proofs.Wire.Varint

/-!
# The grammar of the wire

`Shape.encode` gives one form of each value, but bytes from elsewhere may hold it in others: a
number padded with zero groups, a truth value that is some byte besides 0 and 1.
`Shape.Spells P s after w v` is the grammar of all forms: `w`, with `after` more bytes behind it,
is a form of `v`.

Two things in it need a word.

* **The bytes behind.**  A count may exceed `maxUnbackedCount` only as far as there are bytes to
  back it, and those bytes need not belong to the value.  So whether `w` is a form of `v` depends
  on how many bytes follow, though on nothing else about them.
* **The marks.**  The places where a form can differ from the shortest one are its `Mark`s: the
  varints and the one-byte flags.  `P` is what is asked of every mark, so that the grammar with
  `Mark.IsCanonical` describes the forms that are as short as can be.

`pays` and `fits` bound a value by the length of its form, and `moves` says which forms survive in
other surroundings.
-/

set_option autoImplicit false

namespace SourceHost

variable {α β : Type}

/-- A place in some bytes that could have been written in more than one way. -/
inductive Mark where
  /-- A number, a length or a count. -/
  | varint (w : Bytes)
  /-- A truth value, or whether an optional value is present. -/
  | flag (a : UInt8)

/-- Varints are as short as can be, flags are 0 or 1. -/
def Mark.IsCanonical : Mark → Prop
  | varint w => Varint.IsShortest w
  | flag a => a = 0 ∨ a = 1

/-! ## Parts of the grammar -/

/-- A number of a width. -/
def SpellsNumber (P : Mark → Prop) (bits : Nat) (w : Bytes) (n : Nat) : Prop :=
  P (.varint w) ∧ Varint.Spells w n ∧ n < capacity bits ∧ w.length ≤ Varint.maxLength bits

/-- A length and the bytes it measures. -/
def SpellsCounted (P : Mark → Prop) (w content : Bytes) : Prop :=
  ∃ front, w = front ++ content ∧ SpellsNumber P 64 front content.length

/-- One item and then another. -/
def SpellsBoth (first : Nat → Bytes → α → Prop) (second : Nat → Bytes → β → Prop) (after : Nat)
    (w : Bytes) (v : α × β) : Prop :=
  ∃ front back, w = front ++ back ∧ first (back.length + after) front v.1 ∧ second after back v.2

/-- Every item of a list in turn. -/
def SpellsEach (item : Nat → Bytes → α → Prop) (after : Nat) : Bytes → List α → Prop
  | w, [] => w = []
  | w, v :: vs => ∃ front back, w = front ++ back ∧ item (back.length + after) front v ∧
    SpellsEach item after back vs

/-- A count, accepted for the bytes that follow or on trust, and as many items. -/
def SpellsMany (P : Mark → Prop) (item : Nat → Bytes → α → Prop) (after : Nat) (w : Bytes)
    (vs : List α) : Prop :=
  ∃ front back, w = front ++ back ∧ SpellsNumber P 64 front vs.length ∧
    (vs.length ≤ back.length + after ∨ vs.length ≤ maxUnbackedCount) ∧
    SpellsEach item after back vs

/-- **The grammar.**  The bytes `w`, with `after` more behind them, are a form of the value, and
`P` holds of their marks. -/
def Shape.Spells (P : Mark → Prop) : (s : Shape) → Nat → Bytes → s.Value → Prop
  | .bool, _, w, v => ∃ a, w = [a] ∧ P (.flag a) ∧ v = (a != 0)
  | .u8, _, w, n => w = [n]
  | .i8, _, w, i => ∃ a : UInt8, w = [a] ∧ i.val = (a.toNat : Int).bmod 256
  | .unsigned width, _, w, n => SpellsNumber P width.bits w n.val
  | .signed width, _, w, i => SpellsNumber P width.bits w (Varint.zigzag i.val)
  | .f32, _, w, n => w = Bytes.littleEndian 4 n.val
  | .f64, _, w, n => w = Bytes.littleEndian 8 n.val
  | .char, _, w, c => SpellsCounted P w (String.utf8EncodeChar c)
  | .text, _, w, t => SpellsCounted P w (Utf8.encode t)
  | .bytes, _, w, b => SpellsCounted P w b
  | .unit, _, w, () => w = []
  | .option _, _, w, none => w = [0] ∧ P (.flag 0)
  | .option s, after, w, some v =>
    ∃ a back, w = a :: back ∧ a ≠ 0 ∧ P (.flag a) ∧ s.Spells P after back v
  | .seq s, after, w, vs => SpellsMany P (s.Spells P) after w vs
  | .map k v, after, w, entries =>
    SpellsMany P (SpellsBoth (k.Spells P) (v.Spells P)) after w entries
  | .pair a b, after, w, v => SpellsBoth (a.Spells P) (b.Spells P) after w v
  | .sum _ p, after, w, ⟨i, v⟩ =>
    ∃ a back, w = a :: back ∧ a.toNat = i.val ∧ (p i).Spells P after back v
  | .instant, _, w, t => SpellsNumber P 64 w (Varint.zigzag t.seconds)
  | .unsupported _, _, _, _ => False

/-- Any form of a value, whatever its marks. -/
abbrev Shape.Reads (s : Shape) : Nat → Bytes → s.Value → Prop := s.Spells fun _ ↦ True

/-! ## How many bytes a form takes -/

theorem SpellsNumber.length_pos {P : Mark → Prop} {bits n : Nat} {w : Bytes}
    (h : SpellsNumber P bits w n) : 0 < w.length :=
  h.2.1.length_pos

theorem SpellsCounted.length_pos {P : Mark → Prop} {w content : Bytes}
    (h : SpellsCounted P w content) : 0 < w.length := by
  obtain ⟨front, rfl, hfront⟩ := h
  have hpos := hfront.length_pos
  rw [List.length_append]
  omega

theorem SpellsMany.length_pos {P : Mark → Prop} {item : Nat → Bytes → α → Prop} {after : Nat}
    {w : Bytes} {vs : List α} (h : SpellsMany P item after w vs) : 0 < w.length := by
  obtain ⟨front, back, rfl, hfront, -⟩ := h
  have hpos := hfront.length_pos
  rw [List.length_append]
  omega

/-- If every item pays for what is charged to it, the list pays for the sum. -/
theorem SpellsEach.sum_le {item : Nat → Bytes → α → Prop} {charge : α → Nat}
    (hitem : ∀ n w v, item n w v → charge v ≤ w.length) {after : Nat} {w : Bytes} {vs : List α}
    (h : SpellsEach item after w vs) : (vs.map charge).sum ≤ w.length := by
  induction vs generalizing w with
  | nil => exact Nat.zero_le _
  | cons v vs ih =>
    obtain ⟨front, back, rfl, hfront, hback⟩ := h
    rw [List.map_cons, List.sum_cons, List.length_append]
    exact Nat.add_le_add (hitem _ _ _ hfront) (ih hback)

theorem SpellsEach.length_le {item : Nat → Bytes → α → Prop}
    (hitem : ∀ n w v, item n w v → 0 < w.length) {after : Nat} {w : Bytes} {vs : List α}
    (h : SpellsEach item after w vs) : vs.length ≤ w.length := by
  have hsum : (vs.map fun _ ↦ 1).sum ≤ w.length := h.sum_le hitem
  rwa [List.map_const', List.sum_replicate_nat, Nat.mul_one] at hsum

/-- No item reaches further than the list. -/
theorem SpellsEach.exists_of_mem {item : Nat → Bytes → α → Prop} {after : Nat} {w : Bytes}
    {vs : List α} (h : SpellsEach item after w vs) {v : α} (hv : v ∈ vs) :
    ∃ n front, item n front v ∧ front.length + n ≤ w.length + after := by
  induction vs generalizing w with
  | nil => exact absurd hv List.not_mem_nil
  | cons v' vs ih =>
    obtain ⟨front, back, rfl, hfront, hback⟩ := h
    rw [List.length_append]
    rcases List.mem_cons.1 hv with rfl | hv
    · exact ⟨_, front, hfront, by omega⟩
    · obtain ⟨n, front', hitem, hle⟩ := ih hback hv
      exact ⟨n, front', hitem, by omega⟩

theorem SpellsEach.imp {item item' : Nat → Bytes → α → Prop} {after after' : Nat} {w : Bytes}
    {vs : List α} (h : SpellsEach item after w vs)
    (hitem : ∀ n w, ∀ v ∈ vs, item (n + after) w v → item' (n + after') w v) :
    SpellsEach item' after' w vs := by
  induction vs generalizing w with
  | nil => exact h
  | cons v vs ih =>
    obtain ⟨front, back, hw, hfront, hback⟩ := h
    exact ⟨front, back, hw, hitem _ _ _ (.head _) hfront,
      ih hback fun n w v hv ↦ hitem n w v (.tail _ hv)⟩

namespace Shape

variable {P Q : Mark → Prop}

/-- How many items that take bytes the lists and maps in a value hold together. -/
def solidItems (s : Shape) (v : s.Value) : Nat := ((s.nodes v).map Node.solidItems).sum

/-- The least number of bytes a form can have. -/
def leastWidth (s : Shape) : Nat := bif s.isZeroWidth then 0 else 1

theorem solidItems_pair {a b : Shape} (v : a.Value × b.Value) :
    (pair a b).solidItems v = a.solidItems v.1 + b.solidItems v.2 := by
  rw [solidItems, nodes, List.map_append, List.sum_append_nat, solidItems, solidItems]

theorem leastWidth_pair_le (a b : Shape) :
    (pair a b).leastWidth ≤ a.leastWidth + b.leastWidth := by
  simp only [leastWidth, isZeroWidth]
  cases a.isZeroWidth <;> cases b.isZeroWidth <;> decide

/-- The items of a list and what is in them, charged to the items one by one. -/
theorem solidItems_seq {s : Shape} (vs : List s.Value) :
    (seq s).solidItems vs = (vs.map fun v ↦ s.solidItems v + s.leastWidth).sum := by
  have hnode : ∀ n, (Node.collection s.isZeroWidth n).solidItems = n * s.leastWidth := by
    intro n
    rw [leastWidth]
    cases s.isZeroWidth
    · exact (Nat.mul_one n).symm
    · exact (Nat.mul_zero n).symm
  rw [solidItems, nodes, List.map_cons, List.sum_cons, hnode]
  induction vs with
  | nil => rw [List.length_nil, Nat.zero_mul]; rfl
  | cons v vs ih =>
    rw [List.map_cons, List.sum_cons, ← ih, List.length_cons, Nat.succ_mul, List.flatMap_cons,
      List.map_append, List.sum_append_nat, ← solidItems]
    omega

/-- Every item and every value that is not of zero width pays a byte of its own. -/
def Pays (P : Mark → Prop) (s : Shape) : Prop :=
  ∀ after w v, s.Spells P after w v → s.solidItems v + s.leastWidth ≤ w.length

theorem Pays.pair {a b : Shape} (ha : a.Pays P) (hb : b.Pays P) : (Shape.pair a b).Pays P := by
  rintro after w v ⟨front, back, rfl, hfront, hback⟩
  have hleast := leastWidth_pair_le a b
  have hpaid := Nat.add_le_add (ha _ _ _ hfront) (hb _ _ _ hback)
  rw [solidItems_pair, List.length_append]
  omega

theorem Pays.seq {s : Shape} (h : s.Pays P) : (Shape.seq s).Pays P := by
  rintro after w vs ⟨front, back, rfl, hfront, -, hback⟩
  have hcount := hfront.length_pos
  have hitems := hback.sum_le h
  rw [solidItems_seq, List.length_append, show (Shape.seq s).leastWidth = 1 from rfl]
  omega

/-- **Every item pays a byte of its own**, and so does every value that is not of zero width. -/
theorem pays (P : Mark → Prop) (s : Shape) : s.Pays P := by
  induction s with
  | seq s ih => exact ih.seq
  -- a map is read as the list of its entries
  | map k t ihk iht => exact (ihk.pair iht).seq
  | pair a b iha ihb => exact iha.pair ihb
  | unit => exact fun _ _ _ _ ↦ Nat.zero_le _
  | unsupported _ => exact fun _ _ _ h ↦ False.elim h
  | unsigned _ | signed _ | instant => exact fun _ _ _ h ↦ h.length_pos
  | char | text | bytes => exact fun _ _ _ h ↦ h.length_pos
  | u8 =>
    rintro _ _ _ rfl
    exact Nat.le_refl 1
  | bool | i8 =>
    rintro _ _ _ ⟨a, rfl, -⟩
    exact Nat.le_refl 1
  | f32 | f64 =>
    rintro _ _ n rfl
    rw [Bytes.length_littleEndian]
    exact Nat.succ_le_succ (Nat.zero_le _)
  | option s ih =>
    rintro after w (_ | v) h
    · rw [h.1]
      exact Nat.le_refl 1
    · obtain ⟨a, back, rfl, -, -, hback⟩ := h
      exact Nat.succ_le_succ (Nat.le_of_add_right_le (ih _ _ _ hback))
  | sum n p ih =>
    rintro after w ⟨i, v⟩ ⟨a, back, rfl, -, hback⟩
    have hpaid := Nat.succ_le_succ (Nat.le_of_add_right_le (ih i _ _ _ hback))
    rw [solidItems, nodes, List.map_cons, List.sum_cons]
    exact (Nat.zero_add _).symm ▸ hpaid

theorem Spells.length_pos {s : Shape} {after : Nat} {w : Bytes} {v : s.Value}
    (h : s.Spells P after w v) (hs : s.isZeroWidth = false) : 0 < w.length := by
  have hpaid := s.pays P after w v h
  rw [leastWidth, hs] at hpaid
  exact Nat.le_of_add_left_le hpaid

theorem Spells.eq_nil {s : Shape} {after : Nat} {w : Bytes} {v : s.Value}
    (h : s.Spells P after w v) (hs : s.isZeroWidth = true) : w = [] := by
  induction s generalizing after w with
  | unit => exact h
  | pair a b iha ihb =>
    obtain ⟨front, back, rfl, hfront, hback⟩ := h
    rw [isZeroWidth, Bool.and_eq_true] at hs
    rw [iha hfront hs.1, ihb hback hs.2, List.append_nil]
  | _ => exact absurd hs Bool.false_ne_true

/-! ## How many items a form can have -/

/-- No length or count in a value is more than the bytes in reach of its form allow. -/
def Fits (P : Mark → Prop) (s : Shape) : Prop :=
  ∀ after w v, s.Spells P after w v → ∀ node ∈ s.nodes v, node.Fits (w.length + after)

theorem Fits.pair {a b : Shape} (ha : a.Fits P) (hb : b.Fits P) : (Shape.pair a b).Fits P := by
  rintro after w v ⟨front, back, rfl, hfront, hback⟩
  rw [List.length_append, forall_nodes_pair]
  constructor
  · exact fun node hnode ↦ (ha _ _ _ hfront node hnode).of_le (by omega)
  · exact fun node hnode ↦ (hb _ _ _ hback node hnode).of_le (by omega)

theorem Fits.seq {s : Shape} (h : s.Fits P) : (Shape.seq s).Fits P := by
  rintro after w vs ⟨front, back, rfl, hfront, hcount, hback⟩
  rw [List.length_append, forall_nodes_seq]
  constructor
  · exact ⟨hfront.2.2.1, by omega⟩
  · intro v hv node hnode
    obtain ⟨n, w, hitem, hle⟩ := hback.exists_of_mem hv
    exact (h _ _ _ hitem node hnode).of_le (by omega)

theorem fits (P : Mark → Prop) (s : Shape) : s.Fits P := by
  induction s with
  | seq s ih => exact ih.seq
  | map k t ihk iht => exact (ihk.pair iht).seq
  | pair a b iha ihb => exact iha.pair ihb
  | char | text | bytes =>
    rintro after w v ⟨front, rfl, hfront⟩
    exact List.forall_mem_singleton.2 hfront.2.2.1
  | option s ih =>
    rintro after w (_ | v) h
    · exact List.forall_mem_nil _
    · obtain ⟨a, back, rfl, -, -, hback⟩ := h
      intro node hnode
      exact (ih _ _ _ hback node hnode).of_le (Nat.add_le_add_right (Nat.le_succ _) _)
  | sum n p ih =>
    rintro after w ⟨i, v⟩ ⟨a, back, rfl, -, hback⟩
    refine forall_nodes_sum.2 ⟨trivial, fun node hnode ↦ ?_⟩
    exact (ih i _ _ _ hback node hnode).of_le (Nat.add_le_add_right (Nat.le_succ _) _)
  | unsupported _ => exact fun _ _ _ h ↦ False.elim h
  | _ => exact fun _ _ _ _ ↦ List.forall_mem_nil _

/-- What is read has only lengths that fit in their 64 bits. -/
theorem Spells.isSized {s : Shape} {after : Nat} {w : Bytes} {v : s.Value}
    (h : s.Spells P after w v) : s.IsSized v :=
  fun node hnode ↦ (s.fits P after w v h node hnode).isSized

/-! ## Forms in other surroundings -/

/-- The count of a list that needs no bytes behind it is accepted. -/
theorem length_le_of_isBacked {s : Shape} {after after' : Nat} {w : Bytes} {vs : List s.Value}
    (h : SpellsEach (s.Spells P) after w vs)
    (hnode : (Node.collection s.isZeroWidth vs.length).IsBacked) :
    vs.length ≤ w.length + after' ∨ vs.length ≤ maxUnbackedCount := by
  cases hzero : s.isZeroWidth with
  | true =>
    rw [hzero] at hnode
    exact .inr hnode
  | false =>
    have hlen := h.length_le fun _ _ _ hv ↦ hv.length_pos hzero
    exact .inl (Nat.le_add_right_of_le hlen)

/-- A form remains one when less is asked of its marks and more bytes follow it, or when the value
has no count that needs bytes behind it. -/
def Moves (P Q : Mark → Prop) (s : Shape) : Prop :=
  ∀ after after' w v, s.Spells P after w v → (after ≤ after' ∨ s.IsBacked v) →
    s.Spells Q after' w v

theorem Moves.pair {a b : Shape} (ha : a.Moves P Q) (hb : b.Moves P Q) :
    (Shape.pair a b).Moves P Q := by
  rintro after after' w v ⟨front, back, rfl, hfront, hback⟩ h
  rw [IsBacked, forall_nodes_pair] at h
  exact ⟨front, back, rfl,
    ha _ _ _ _ hfront (h.imp (fun hle ↦ Nat.add_le_add_left hle _) And.left),
    hb _ _ _ _ hback (h.imp_right And.right)⟩

theorem Moves.seq (hPQ : ∀ m, P m → Q m) {s : Shape} (hs : s.Moves P Q) :
    (Shape.seq s).Moves P Q := by
  rintro after after' w vs ⟨front, back, rfl, ⟨hmark, hfront⟩, hcount, hback⟩ h
  rw [IsBacked, forall_nodes_seq] at h
  refine ⟨front, back, rfl, ⟨hPQ _ hmark, hfront⟩, ?_, ?_⟩
  · rcases h with hle | ⟨hnode, -⟩
    · exact hcount.imp_left fun hcount ↦ Nat.le_trans hcount (Nat.add_le_add_left hle _)
    · exact length_le_of_isBacked hback hnode
  · refine hback.imp fun n w v hv hform ↦ hs _ _ _ _ hform ?_
    exact h.imp (fun hle ↦ Nat.add_le_add_left hle _) fun hback ↦ hback.2 v hv

theorem moves (hPQ : ∀ m, P m → Q m) (s : Shape) : s.Moves P Q := by
  have hnumber : ∀ {bits w n}, SpellsNumber P bits w n → SpellsNumber Q bits w n :=
    And.imp_left (hPQ _)
  have hcounted : ∀ {w content}, SpellsCounted P w content → SpellsCounted Q w content := by
    rintro w content ⟨front, hw, hfront⟩
    exact ⟨front, hw, hnumber hfront⟩
  induction s with
  | seq s ih => exact ih.seq hPQ
  | map k t ihk iht => exact (ihk.pair iht).seq hPQ
  | pair a b iha ihb => exact iha.pair ihb
  | unit | unsupported _ | u8 | i8 | f32 | f64 => exact fun _ _ _ _ h _ ↦ h
  | unsigned _ | signed _ | instant => exact fun _ _ _ _ h _ ↦ hnumber h
  | char | text | bytes => exact fun _ _ _ _ h _ ↦ hcounted h
  | bool =>
    rintro _ _ w v ⟨a, hw, hmark, hv⟩ -
    exact ⟨a, hw, hPQ _ hmark, hv⟩
  | option s ih =>
    rintro after after' w (_ | v) h hafter
    · exact ⟨h.1, hPQ _ h.2⟩
    · obtain ⟨a, back, hw, ha, hmark, hback⟩ := h
      exact ⟨a, back, hw, ha, hPQ _ hmark, ih _ _ _ _ hback hafter⟩
  | sum n p ih =>
    rintro after after' w ⟨i, v⟩ ⟨a, back, hw, ha, hback⟩ hafter
    rw [IsBacked, forall_nodes_sum] at hafter
    exact ⟨a, back, hw, ha, ih i _ _ _ _ hback (hafter.imp_right And.right)⟩

/-- More bytes behind a form do no harm. -/
theorem Spells.of_le {s : Shape} {after after' : Nat} {w : Bytes} {v : s.Value}
    (h : s.Spells P after w v) (hle : after ≤ after') : s.Spells P after' w v :=
  s.moves (fun _ hm ↦ hm) _ _ _ _ h (.inl hle)

/-- The form of a value whose counts need no bytes behind them is one in front of anything. -/
theorem Spells.of_isBacked {s : Shape} {after after' : Nat} {w : Bytes} {v : s.Value}
    (h : s.Spells P after w v) (hv : s.IsBacked v) : s.Spells P after' w v :=
  s.moves (fun _ hm ↦ hm) _ _ _ _ h (.inr hv)

theorem Spells.reads {s : Shape} {after : Nat} {w : Bytes} {v : s.Value}
    (h : s.Spells P after w v) : s.Reads after w v :=
  s.moves (fun _ _ ↦ trivial) _ _ _ _ h (.inl (Nat.le_refl _))

end Shape

end SourceHost
