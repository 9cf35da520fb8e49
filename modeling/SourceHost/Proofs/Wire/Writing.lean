import SourceHost.Proofs.Wire.Spelling

/-!
# The writer follows the grammar

`Shape.encode` produces one form of each value, the one whose marks are canonical.

* `isWritten` — what is written for a value is a form of it with canonical marks, if its lengths
  fit and no count in it needs bytes behind it.
* `Spells.rewrites` — a value of which there is any form at all can be written, in no more bytes
  than that form has, and in the same bytes if the form's marks are canonical.
-/

set_option autoImplicit false

namespace SourceHost

variable {α β : Type}

/-! ## What is written is a form -/

theorem spellsNumber_encode {bits n : Nat} (hbits : 0 < bits) (hn : n < capacity bits) :
    SpellsNumber Mark.IsCanonical bits (Varint.encode n) n :=
  ⟨Varint.isShortest_encode n, Varint.spells_encode n, hn,
    Varint.length_encode_le_maxLength hbits hn⟩

theorem spellsCounted_counted {content : Bytes} (h : content.length < capacity 64) :
    SpellsCounted Mark.IsCanonical content.counted content :=
  ⟨_, rfl, spellsNumber_encode (by decide) h⟩

theorem append_eq_ok_iff {x y : Except WireError Bytes} {b : Bytes} :
    (do let front ← x; let back ← y; return front ++ back) = .ok b ↔
      ∃ front back, x = .ok front ∧ y = .ok back ∧ b = front ++ back := by
  cases x <;> cases y <;> simp [bind, Except.bind, pure, Except.pure, eq_comm]

theorem prepend_eq_ok_iff {front b : Bytes} {x : Except WireError Bytes} :
    (do let back ← x; return front ++ back) = .ok b ↔ ∃ back, x = .ok back ∧ b = front ++ back := by
  cases x <;> simp [bind, Except.bind, pure, Except.pure, eq_comm]

theorem encodeIndex_eq_ok_iff {index : Nat} {b : Bytes} :
    encodeIndex index = .ok b ↔ ∃ a : UInt8, a.toNat = index ∧ b = [a] := by
  rw [encodeIndex]
  constructor
  · intro h
    split at h
    · rename_i hlt
      cases h
      exact ⟨_, UInt8.toNat_ofNat_of_lt' hlt, rfl⟩
    · cases h
  · rintro ⟨a, rfl, rfl⟩
    rw [if_pos a.toNat_lt, UInt8.ofNat_toNat]

theorem spellsEach_of_encodeEach {write : α → Except WireError Bytes}
    {form : Nat → Bytes → α → Prop} {after : Nat} {vs : List α}
    (h : ∀ v ∈ vs, ∀ n b, write v = .ok b → form n b v) {b : Bytes}
    (hb : encodeEach write vs = .ok b) : SpellsEach form after b vs := by
  induction vs generalizing b with
  | nil =>
    cases hb
    rfl
  | cons v vs ih =>
    obtain ⟨front, back, hfront, hback, rfl⟩ := append_eq_ok_iff.1 hb
    exact ⟨front, back, rfl, h v (.head _) _ _ hfront, ih (fun v hv ↦ h v (.tail _ hv)) hback⟩

/-- The byte of a signed number of eight bits. -/
theorem ofNat_emod_eq_iff {a : UInt8} {i : Signed 8} :
    UInt8.ofNat (i.val % 256).toNat = a ↔ i.val = (a.toNat : Int).bmod 256 := by
  have hlow := i.le_val
  have hhigh := i.val_lt
  have hcap : (capacity (8 - 1) : Int) = 128 := rfl
  have ha := a.toNat_lt
  rw [hcap] at hlow hhigh
  rw [← UInt8.toNat_inj, UInt8.toNat_ofNat', Int.bmod_eq_emod]
  split <;> omega

theorem zigzag_seconds_lt (t : Instant) : Varint.zigzag t.seconds < capacity 64 := by
  have hcap : capacity 64 = 18446744073709551616 := rfl
  have hlow := t.le_seconds
  have hhigh := t.seconds_le
  rw [Varint.zigzag]
  split <;> omega

namespace Shape

/-- What is written for a value is a form of it with canonical marks. -/
def IsWritten (s : Shape) : Prop :=
  ∀ after v b, s.encode v = .ok b → s.IsBacked v → s.IsSized v → s.Spells Mark.IsCanonical after b v

theorem IsWritten.pair {a b : Shape} (ha : a.IsWritten) (hb : b.IsWritten) :
    (Shape.pair a b).IsWritten := by
  intro after v w hw hback hsize
  rw [IsBacked, forall_nodes_pair] at hback
  rw [IsSized, forall_nodes_pair] at hsize
  obtain ⟨front, back, hx, hy, rfl⟩ := append_eq_ok_iff.1 hw
  exact ⟨front, back, rfl, ha _ _ _ hx hback.1 hsize.1, hb _ _ _ hy hback.2 hsize.2⟩

theorem IsWritten.seq {s : Shape} (hs : s.IsWritten) : (Shape.seq s).IsWritten := by
  intro after vs b hb hback hsize
  rw [IsBacked, forall_nodes_seq] at hback
  rw [IsSized, forall_nodes_seq] at hsize
  obtain ⟨items, hitems, rfl⟩ := prepend_eq_ok_iff.1 hb
  have hform : SpellsEach (s.Spells Mark.IsCanonical) after items vs :=
    spellsEach_of_encodeEach (fun v hv n b h ↦ hs n v b h (hback.2 v hv) (hsize.2 v hv)) hitems
  exact ⟨_, items, rfl, spellsNumber_encode (by decide) hsize.1,
    length_le_of_isBacked hform hback.1, hform⟩

/-- **What is written for a value is a form of it with canonical marks**, in front of anything, if
the lengths in the value fit and no count in it needs bytes behind it. -/
theorem isWritten (s : Shape) : s.IsWritten := by
  induction s with
  | seq s ih => exact ih.seq
  | map k t ihk iht => exact (ihk.pair iht).seq
  | pair a b iha ihb => exact iha.pair ihb
  | unit | u8 | f32 | f64 =>
    intro _ _ b hb _ _
    cases hb
    rfl
  | unsupported _ => exact fun _ _ _ hb ↦ nomatch hb
  | bool =>
    intro _ v b hb _ _
    cases hb
    cases v
    · exact ⟨0, rfl, .inl rfl, rfl⟩
    · exact ⟨1, rfl, .inr rfl, rfl⟩
  | i8 =>
    intro _ i b hb _ _
    cases hb
    exact ⟨_, rfl, ofNat_emod_eq_iff.1 rfl⟩
  | unsigned width =>
    intro _ n b hb _ _
    cases hb
    exact spellsNumber_encode width.bits_pos n.isLt
  | signed width =>
    intro _ i b hb _ _
    cases hb
    exact spellsNumber_encode width.bits_pos (Varint.zigzag_lt width.bits_pos i)
  | instant =>
    intro _ t b hb _ _
    cases hb
    exact spellsNumber_encode (by decide) (zigzag_seconds_lt t)
  | char | text | bytes =>
    intro _ v b hb _ hsize
    cases hb
    exact spellsCounted_counted (hsize _ (.head _))
  | option s ih =>
    rintro after (_ | v) b hb hback hsize
    · cases hb
      exact ⟨rfl, .inl rfl⟩
    · obtain ⟨back, hv, rfl⟩ := (@prepend_eq_ok_iff [1] _ _).1 hb
      exact ⟨1, back, rfl, by decide, .inr rfl, ih _ _ _ hv hback hsize⟩
  | sum n p ih =>
    rintro after ⟨i, v⟩ b hb hback hsize
    rw [IsBacked, forall_nodes_sum] at hback
    rw [IsSized, forall_nodes_sum] at hsize
    obtain ⟨front, back, hfront, hv, rfl⟩ := append_eq_ok_iff.1 hb
    obtain ⟨a, ha, rfl⟩ := encodeIndex_eq_ok_iff.1 hfront
    exact ⟨a, back, rfl, ha, ih i _ _ _ hv hback.2 hsize.2⟩

end Shape

/-! ## A form can be written again -/

/-- Something can be written, in no more bytes than `w` has, and as `w` itself if `P` only holds of
canonical marks. -/
def Rewrites (P : Mark → Prop) (x : Except WireError Bytes) (w : Bytes) : Prop :=
  ∃ b, x = .ok b ∧ b.length ≤ w.length ∧ ((∀ m, P m → m.IsCanonical) → b = w)

section Rewrites

variable {P : Mark → Prop}

theorem Rewrites.ok_self (w : Bytes) : Rewrites P (.ok w) w :=
  ⟨w, rfl, Nat.le_refl _, fun _ ↦ rfl⟩

/-- One byte in the place of one that may be another. -/
theorem Rewrites.byte {a a' : UInt8} (h : (∀ m, P m → m.IsCanonical) → a' = a) :
    Rewrites P (.ok [a']) [a] :=
  ⟨[a'], rfl, Nat.le_refl _, fun hP ↦ by rw [h hP]⟩

theorem Rewrites.append {x y : Except WireError Bytes} {front back : Bytes}
    (hx : Rewrites P x front) (hy : Rewrites P y back) :
    Rewrites P (do let front ← x; let back ← y; return front ++ back) (front ++ back) := by
  obtain ⟨b, rfl, hlen, heq⟩ := hx
  obtain ⟨b', rfl, hlen', heq'⟩ := hy
  refine ⟨b ++ b', rfl, ?_, fun hP ↦ by rw [heq hP, heq' hP]⟩
  rw [List.length_append, List.length_append]
  exact Nat.add_le_add hlen hlen'

theorem SpellsNumber.rewrites {bits n : Nat} {w : Bytes} (h : SpellsNumber P bits w n) :
    Rewrites P (.ok (Varint.encode n)) w :=
  ⟨_, rfl, h.2.1.length_encode_le, fun hP ↦ (h.2.1.isShortest_iff.1 (hP _ h.1)).symm⟩

theorem SpellsCounted.rewrites {w content : Bytes} (h : SpellsCounted P w content) :
    Rewrites P (.ok content.counted) w := by
  obtain ⟨front, rfl, hfront⟩ := h
  exact hfront.rewrites.append (.ok_self content)

theorem SpellsEach.rewrites {item : Nat → Bytes → α → Prop} {write : α → Except WireError Bytes}
    (hitem : ∀ n w v, item n w v → Rewrites P (write v) w) {after : Nat} {w : Bytes} {vs : List α}
    (h : SpellsEach item after w vs) : Rewrites P (encodeEach write vs) w := by
  induction vs generalizing w with
  | nil =>
    rw [show w = [] from h]
    exact .ok_self []
  | cons v vs ih =>
    obtain ⟨front, back, rfl, hfront, hback⟩ := h
    exact (hitem _ _ _ hfront).append (ih hback)

theorem SpellsMany.rewrites {item : Nat → Bytes → α → Prop} {write : α → Except WireError Bytes}
    (hitem : ∀ n w v, item n w v → Rewrites P (write v) w) {after : Nat} {w : Bytes} {vs : List α}
    (h : SpellsMany P item after w vs) :
    Rewrites P (do
      let items ← encodeEach write vs
      return Varint.encode vs.length ++ items) w := by
  obtain ⟨front, back, rfl, hfront, -, hback⟩ := h
  exact hfront.rewrites.append (hback.rewrites hitem)

end Rewrites

namespace Shape

variable {P : Mark → Prop}

/-- **A value of which there is a form can be written**, in no more bytes than the form has, and as
the form itself if its marks are canonical. -/
theorem Spells.rewrites {s : Shape} {after : Nat} {w : Bytes} {v : s.Value}
    (h : s.Spells P after w v) : Rewrites P (s.encode v) w := by
  induction s generalizing after w with
  | seq s ih => exact SpellsMany.rewrites (fun _ _ _ hv ↦ ih hv) h
  | map k t ihk iht =>
    refine SpellsMany.rewrites (fun _ _ _ hv ↦ ?_) h
    obtain ⟨front, back, rfl, hfront, hback⟩ := hv
    exact (ihk hfront).append (iht hback)
  | pair a b iha ihb =>
    obtain ⟨front, back, rfl, hfront, hback⟩ := h
    exact (iha hfront).append (ihb hback)
  | unsupported _ => exact False.elim h
  | unit | u8 | f32 | f64 =>
    rw [show w = _ from h]
    exact .ok_self _
  | unsigned _ | signed _ | instant => exact SpellsNumber.rewrites h
  | char | text | bytes => exact SpellsCounted.rewrites h
  | bool =>
    obtain ⟨a, rfl, hmark, rfl⟩ := h
    refine Rewrites.byte fun hP ↦ ?_
    rcases hP _ hmark with rfl | rfl <;> rfl
  | i8 =>
    obtain ⟨a, rfl, hv⟩ := h
    exact Rewrites.byte fun _ ↦ ofNat_emod_eq_iff.2 hv
  | option s ih =>
    cases v with
    | none =>
      rw [h.1]
      exact .ok_self _
    | some v =>
      obtain ⟨a, back, rfl, ha, hmark, hback⟩ := h
      have hone : (∀ m, P m → m.IsCanonical) → 1 = a := fun hP ↦
        ((hP _ hmark).resolve_left ha).symm
      exact (Rewrites.byte hone).append (ih hback)
  | sum n p ih =>
    obtain ⟨i, v⟩ := v
    obtain ⟨a, back, rfl, ha, hback⟩ := h
    rw [encode, encodeIndex_eq_ok_iff.2 ⟨a, ha, rfl⟩]
    exact (Rewrites.ok_self [a]).append (ih i hback)

end Shape

end SourceHost
