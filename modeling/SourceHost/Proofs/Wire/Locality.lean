import SourceHost.Proofs.Wire.Reading

/-!
# More bytes behind

A reader meets bytes that may go on for longer than the value it is after.  What it answers must
not hang on how they go on: a value that was read stays read, bytes that were refused for what is
in them stay refused, and only a reader that ran out of bytes may come to another answer when
there are more.

`Steady` says so of one reader.  Steady readers in a row make a steady reader (`Steady.bind`), so
that `Shape.steady_take` only has to name the parts.

* `locality` — the three laws together, with what they mean for a value cut short.
-/

set_option autoImplicit false

namespace SourceHost

variable {α β : Type}

/-- There were not enough bytes, for a value or for what its length or count announced. -/
def WireError.IsShortage (e : WireError) : Prop := e = .unexpectedEnd ∨ ∃ n, e = .lengthOutOfRange n

/-- The answer of the reader stands when more bytes follow, unless it was that there are not
enough. -/
structure Steady (read : Bytes → Except WireError (α × Bytes)) : Prop where
  /-- What was read is read again. -/
  ok : ∀ {b v rest}, read b = .ok (v, rest) → ∀ t, read (b ++ t) = .ok (v, rest ++ t)
  /-- What was refused is refused again. -/
  error : ∀ {b e}, read b = .error e → ¬ e.IsShortage → ∀ t, read (b ++ t) = .error e

namespace Steady

theorem pure (a : α) : Steady fun b ↦ .ok (a, b) where
  ok h _ := by
    cases h
    rfl
  error h := nomatch h

theorem throw (e : WireError) : Steady fun _ ↦ (.error e : Except WireError (α × Bytes)) where
  ok h := nomatch h
  error h _ _ := h

theorem bind {read : Bytes → Except WireError (α × Bytes)}
    {next : α × Bytes → Except WireError (β × Bytes)} (h : Steady read)
    (hnext : ∀ a, Steady fun b ↦ next (a, b)) : Steady fun b ↦ read b >>= next where
  ok {b v rest} hb t := by
    obtain ⟨a, behind, ha, hv⟩ := bind_eq_ok_iff.1 hb
    exact bind_eq_ok_iff.2 ⟨a, behind ++ t, h.ok ha t, (hnext a).ok hv t⟩
  error {b e} hb he t := by
    cases hread : read b with
    | error e' =>
      rw [hread] at hb
      cases hb
      rw [h.error hread he t]
      rfl
    | ok p =>
      rw [hread] at hb
      rw [h.ok hread t]
      exact (hnext p.1).error hb he t

theorem map {read : Bytes → Except WireError (α × Bytes)} (h : Steady read) (f : α → β) :
    Steady fun b ↦ do
      let (a, rest) ← read b
      return (f a, rest) :=
  h.bind fun a ↦ pure (f a)

theorem takeEach {read : Bytes → Except WireError (α × Bytes)} (h : Steady read) (count : Nat)
    (found : List α) : Steady (takeEach read count found) := by
  induction count generalizing found with
  | zero => exact pure found.reverse
  | succ count ih =>
    rw [funext (takeEach_succ read count found)]
    exact h.bind fun a ↦ ih (a :: found)

end Steady

/-! ## The parts of a reader -/

theorem steady_takeByte : Steady Bytes.takeByte where
  ok {b v rest} h t := by
    cases b with
    | nil => cases h
    | cons a b =>
      cases h
      rfl
  error {b e} h he t := by
    cases b with
    | nil =>
      cases h
      exact absurd (.inl rfl) he
    | cons a b => cases h

theorem steady_number (bits : Nat) : Steady (Varint.decode bits) where
  ok {b n rest} h t := by
    obtain ⟨w, rfl, hw⟩ := Varint.decode_eq_ok_iff.1 h
    exact Varint.decode_eq_ok_iff.2 ⟨w, List.append_assoc _ _ _, hw⟩
  error h he t := Varint.decode_append_of_error h (fun heq ↦ he (.inl heq)) t

/-- The bytes of a content are there or they are not. -/
theorem steady_takeBytes {count : Nat} {e : WireError} (he : e.IsShortage) :
    Steady fun b : Bytes ↦ if b.length < count then .error e else .ok (b.take count, b.drop count)
    where
  ok {b v rest} h t := by
    split at h
    · cases h
    · rename_i hle
      cases h
      have hle := Nat.le_of_not_lt hle
      rw [if_neg (by rw [List.length_append]; omega), List.take_append_of_le_length hle,
        List.drop_append_of_le_length hle]
  error {b e'} h he' t := by
    split at h
    · cases h
      exact absurd he he'
    · cases h

theorem steady_takeCounted : Steady Bytes.takeCounted :=
  (steady_number 64).bind fun length ↦ steady_takeBytes (.inr ⟨length.val, rfl⟩)

theorem steady_takeText : Steady Bytes.takeText := by
  refine steady_takeCounted.bind fun content ↦ ?_
  dsimp only
  split
  · exact .pure _
  · exact .throw _

theorem steady_takeCount : Steady Bytes.takeCount := by
  refine (steady_number 64).bind fun count ↦ ⟨fun {b v rest} h t ↦ ?_, fun {b e} h he t ↦ ?_⟩
  · dsimp only at h ⊢
    split at h
    · cases h
    · cases h
      rw [if_neg (by rw [List.length_append]; omega)]
      rfl
  · dsimp only at h
    split at h
    · cases h
      exact absurd (.inr ⟨_, rfl⟩) he
    · cases h

theorem Steady.many {read : Bytes → Except WireError (α × Bytes)} (h : Steady read) :
    Steady (fun b ↦ do
      let (count, rest) ← Bytes.takeCount b
      SourceHost.takeEach read count [] rest) :=
  steady_takeCount.bind fun count ↦ h.takeEach count []

theorem steady_takeLittleEndian (count bits : Nat) : Steady (Bytes.takeLittleEndian count bits) :=
  (steady_takeBytes (.inl rfl)).map fun content ↦ Unsigned.wrap bits (Bytes.ofLittleEndian content)

namespace Shape

/-- **The reader of a shape is steady.** -/
theorem steady_take (s : Shape) : Steady s.take := by
  induction s with
  | bool => exact steady_takeByte.map (· != 0)
  | u8 => exact steady_takeByte
  | i8 => exact steady_takeByte.map fun a ↦ Signed.ofInt 8 ((a.toNat : Int).bmod 256)
  | unsigned width => exact steady_number width.bits
  | signed width => exact (steady_number width.bits).map (Varint.unzigzagWide width.bits_pos)
  | f32 => exact steady_takeLittleEndian 4 32
  | f64 => exact steady_takeLittleEndian 8 64
  | char =>
    refine steady_takeText.bind fun t ↦ ?_
    dsimp only
    split
    · exact .pure _
    · exact .throw _
  | text => exact steady_takeText
  | bytes => exact steady_takeCounted
  | unit => exact .pure ()
  | option s ih =>
    refine steady_takeByte.bind fun a ↦ ?_
    by_cases ha : a = 0
    · simp only [if_pos ha]
      exact .pure none
    · simp only [if_neg ha]
      exact ih.map some
  | seq s ih => exact ih.many
  | map k t ihk iht => exact (ihk.bind fun key ↦ iht.bind fun value ↦ .pure (key, value)).many
  | pair a b iha ihb => exact iha.bind fun x ↦ ihb.bind fun y ↦ .pure (x, y)
  | sum n p ih =>
    refine steady_takeByte.bind fun a ↦ ?_
    by_cases ha : a.toNat < n
    · simp only [dif_pos ha]
      exact (ih ⟨a.toNat, ha⟩).map fun v ↦ (⟨⟨a.toNat, ha⟩, v⟩ : (sum n p).Value)
    · simp only [dif_neg ha]
      exact .throw _
  | instant =>
    refine (steady_number 64).bind fun n ↦ ?_
    dsimp only
    split
    · exact .pure _
    · exact .throw _
  | unsupported what => exact .throw _

end Shape

/-- **A value is read by its own bytes.**

* When a value is read, some of the bytes are used, and it is read again whatever is put behind
  what was left.  The bytes used are even enough without what was left, if the value has no more
  than `maxUnbackedCount` items that take no bytes in one list or map.
* When the bytes are refused and it is not that there are too few, they are refused in the same way
  whatever is put behind them.
* So when some bytes are all of a value, as what is written for it is, a part that stops short of
  their end is refused, and always because there are too few. -/
theorem locality (s : Shape) :
    (∀ b v rest, s.take b = .ok (v, rest) → ∃ w, b = w ++ rest ∧
      (∀ t, s.take (b ++ t) = .ok (v, rest ++ t)) ∧
      (s.IsBacked v → ∀ t, s.take (w ++ t) = .ok (v, t))) ∧
    (∀ b e, s.take b = .error e → ¬ e.IsShortage → ∀ t, s.take (b ++ t) = .error e) ∧
    ∀ b v, s.decode b = .ok v → ∀ p q, b = p ++ q → q ≠ [] →
      ∃ e, e.IsShortage ∧ s.take p = .error e ∧ s.decode p = .error e := by
  refine ⟨fun b v rest h ↦ ?_, fun b e h he t ↦ s.steady_take.error h he t, ?_⟩
  · obtain ⟨w, hw, hform⟩ := Shape.take_eq_ok_iff.1 h
    refine ⟨w, hw, s.steady_take.ok h, fun hv t ↦ ?_⟩
    exact Shape.take_eq_ok_iff.2 ⟨w, rfl, hform.of_isBacked hv⟩
  · rintro _ v h p q rfl hq
    rw [Shape.decode_eq_ok_iff_take] at h
    cases hp : s.take p with
    | ok r =>
      have heq := Except.ok.inj (h.symm.trans (s.steady_take.ok hp q))
      have hrest : [] = r.2 ++ q := congrArg Prod.snd heq
      exact absurd (List.append_eq_nil_iff.1 hrest.symm).2 hq
    | error e =>
      refine ⟨e, ?_, rfl, Shape.decode_of_take_eq_error hp⟩
      by_contra he
      rw [s.steady_take.error hp he q] at h
      cases h

/-- A variant that does not exist, a list with bytes behind it, and the list cut short. -/
theorem locality_list :
    (∀ t, (Shape.choice 2).take ([7] ++ t) = .error (.invalidDiscriminant 7)) ∧
    (∀ t, (Shape.seq .u8).take ([2, 8, 9] ++ t) = .ok ([8, 9], t)) ∧
    ∃ e, e.IsShortage ∧ (Shape.seq .u8).decode [2, 8] = .error e := by
  have hread : (Shape.seq .u8).take [2, 8, 9, 5] = .ok ([8, 9], [5]) := rfl
  refine ⟨(locality _).2.1 [7] _ rfl ?_, ?_, ?_⟩
  · rintro (h | ⟨_, h⟩) <;> cases h
  · obtain ⟨w, hw, -, h⟩ := (locality _).1 _ _ _ hread
    obtain rfl : [2, 8, 9] = w := List.append_cancel_right hw
    exact h (by decide)
  · obtain ⟨e, he, -, hdecode⟩ := (locality (.seq .u8)).2.2 _ [8, 9] rfl [2, 8] [9] rfl nofun
    exact ⟨e, he, hdecode⟩

end SourceHost
