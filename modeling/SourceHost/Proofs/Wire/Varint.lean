import SourceHost.Wire.Varint

/-!
# The spellings of a number

A number has one shortest varint and, up to the room its width leaves, padded ones beside it.
`Varint.Spells w n` says that `w` is any of them.

* `decode_eq_ok_iff` — the reader of a width accepts exactly the spellings of the numbers of that
  width that take no more bytes than the width has groups.
* `spells_encode`, `Spells.length_encode_le` and `Spells.isShortest_iff` — the writer produces a
  spelling, no spelling is shorter, and no other one is as short.
* `decode_append_of_error` — bytes that are refused for what is in them, and not for what is
  missing, stay refused when more follow.
-/

set_option autoImplicit false

namespace SourceHost.Varint

/-! ## Spellings -/

/-- The bytes `w` spell `n`, seven bits to a byte, with or without groups of zeros at the end. -/
inductive Spells : Bytes → Nat → Prop
  | last {a : UInt8} (ha : a.toNat < 128) : Spells [a] a.toNat
  | more {a : UInt8} {w : Bytes} {n : Nat} (ha : 128 ≤ a.toNat) (h : Spells w n) :
      Spells (a :: w) (a.toNat % 128 + 128 * n)

/-- No spelling of the same number is shorter. -/
def IsShortest (w : Bytes) : Prop := ∀ n w', Spells w n → Spells w' n → w.length ≤ w'.length

theorem Spells.length_pos {w : Bytes} {n : Nat} (h : Spells w n) : 0 < w.length := by
  cases h <;> exact Nat.succ_pos _

theorem Spells.unique {w : Bytes} {n m : Nat} (h : Spells w n) (h' : Spells w m) : n = m := by
  induction h generalizing m with
  | last ha =>
    cases h' with
    | last _ => rfl
    | more _ h' => cases h'
  | more ha h ih =>
    cases h' with
    | last _ => cases h
    | more _ h' => rw [ih h']

/-- Two spellings of one number that are as long as each other are the same. -/
theorem Spells.eq_of_length {w w' : Bytes} {n : Nat} (h : Spells w n) (h' : Spells w' n)
    (hlen : w.length = w'.length) : w = w' := by
  induction h generalizing w' with
  | @last a ha =>
    generalize hn : a.toNat = n at h'
    cases h' with
    | last _ => rw [UInt8.toNat_inj.1 hn]
    | more _ h' =>
      have hpos := h'.length_pos
      simp only [List.length_cons, List.length_nil] at hlen
      omega
  | @more a w n ha h ih =>
    generalize hm : a.toNat % 128 + 128 * n = m at h'
    cases h' with
    | last _ =>
      have hpos := h.length_pos
      simp only [List.length_cons, List.length_nil] at hlen
      omega
    | @more a' w' n' ha' h' =>
      have hbyte := a.toNat_lt
      have hbyte' := a'.toNat_lt
      obtain rfl : n' = n := by omega
      rw [UInt8.toNat_inj.1 (show a.toNat = a'.toNat by omega), ih h' (Nat.succ.inj hlen)]

/-! ## The writer -/

theorem spells_encode (n : Nat) : Spells (encode n) n := by
  induction n using encode.induct with
  | case1 n hn =>
    have hbyte : (UInt8.ofNat n).toNat = n := UInt8.toNat_ofNat_of_lt' (Nat.lt_trans hn (by decide))
    have h : Spells [UInt8.ofNat n] (UInt8.ofNat n).toNat := .last (by omega)
    rw [encode, if_pos hn]
    rwa [hbyte] at h
  | case2 n hn ih =>
    have hbyte : (UInt8.ofNat (n % 128 + 128)).toNat = n % 128 + 128 :=
      UInt8.toNat_ofNat_of_lt' (show n % 128 + 128 < 256 by omega)
    have h := Spells.more (a := UInt8.ofNat (n % 128 + 128)) (by omega) ih
    rw [hbyte, show (n % 128 + 128) % 128 + 128 * (n / 128) = n by omega] at h
    rwa [encode, if_neg hn]

theorem Spells.length_encode_le {w : Bytes} {n : Nat} (h : Spells w n) :
    (encode n).length ≤ w.length := by
  induction h with
  | last ha =>
    rw [encode, if_pos ha]
    exact Nat.le_refl _
  | @more a w n ha h ih =>
    rw [encode]
    split
    · exact Nat.succ_le_succ (Nat.zero_le _)
    · rw [show (a.toNat % 128 + 128 * n) / 128 = n by omega]
      exact Nat.succ_le_succ ih

/-- What is spelled takes no more bits than there are in the groups. -/
theorem Spells.lt_capacity {w : Bytes} {n : Nat} (h : Spells w n) :
    n < capacity (7 * w.length) := by
  induction h with
  | last ha => exact ha
  | @more a w n ha h ih =>
    have hsplit : capacity (7 * (w.length + 1)) = capacity (7 * w.length) * 128 :=
      capacity_add _ 7
    rw [List.length_cons, hsplit]
    omega

/-- **The writer's spelling is the shortest**, and the only one of its length. -/
theorem Spells.isShortest_iff {w : Bytes} {n : Nat} (h : Spells w n) :
    IsShortest w ↔ w = encode n := by
  constructor
  · intro hshort
    exact h.eq_of_length (spells_encode n)
      (Nat.le_antisymm (hshort n _ h (spells_encode n)) h.length_encode_le)
  · rintro rfl m w' hm hw'
    rw [h.unique hm]
    exact hw'.length_encode_le

theorem isShortest_encode (n : Nat) : IsShortest (encode n) :=
  (spells_encode n).isShortest_iff.2 rfl

theorem length_encode_le_maxLength {bits n : Nat} (hbits : 0 < bits) (hn : n < capacity bits) :
    (encode n).length ≤ maxLength bits := by
  induction n using encode.induct generalizing bits with
  | case1 n h =>
    rw [encode, if_pos h, maxLength]
    simp only [List.length_cons, List.length_nil]
    omega
  | case2 n h ih =>
    have hseven : 7 < bits := by
      refine Nat.lt_of_not_le fun hle ↦ h (Nat.lt_of_lt_of_le hn ?_)
      exact Nat.pow_le_pow_right (by decide) hle
    have hsplit : capacity bits = capacity (bits - 7) * 128 := by
      rw [show (128 : Nat) = capacity 7 from rfl, ← capacity_add, Nat.sub_add_cancel (by omega)]
    have hlen := @ih (bits - 7) (by omega) (by rw [Nat.div_lt_iff_lt_mul] <;> omega)
    rw [encode, if_neg h, List.length_cons]
    rw [maxLength] at hlen ⊢
    omega

/-- A number takes as many bytes as it has groups of seven bits, and zero takes one. -/
theorem length_encode_le_iff {n k : Nat} :
    (encode n).length ≤ k ↔ 0 < k ∧ n < capacity (7 * k) := by
  constructor
  · intro h
    refine ⟨Nat.lt_of_lt_of_le (spells_encode n).length_pos h, ?_⟩
    exact Nat.lt_of_lt_of_le (spells_encode n).lt_capacity
      (Nat.pow_le_pow_right (by decide) (Nat.mul_le_mul_left 7 h))
  · rintro ⟨hk, hn⟩
    have hmax : maxLength (7 * k) = k := by
      rw [maxLength]
      omega
    exact hmax ▸ length_encode_le_maxLength (by omega) hn

/-! ## The reader -/

/-- With `room` bits to come, the reader accepts the spellings of numbers of that many bits that
have no more bytes than groups of seven fit in. -/
theorem decodeFrom_eq_ok_iff {bits room : Nat} {b rest : Bytes} {n : Unsigned room} :
    decodeFrom bits room b = .ok (n, rest) ↔
      ∃ w, b = w ++ rest ∧ Spells w n.val ∧ w.length ≤ maxLength room := by
  induction b generalizing room rest with
  | nil =>
    simp only [decodeFrom, reduceCtorEq, false_iff]
    rintro ⟨w, hw, h, -⟩
    have hpos := h.length_pos
    rw [(List.append_eq_nil_iff.1 hw.symm).1] at hpos
    exact absurd hpos (Nat.lt_irrefl 0)
  | cons a b ih =>
    constructor
    · intro h
      rw [decodeFrom] at h
      split at h
      · cases h
      split at h
      · rename_i hroom hlow
        have hlen : 1 ≤ maxLength room := by rw [maxLength]; omega
        split at h
        · rename_i ha
          cases h
          refine ⟨[a], rfl, ?_, hlen⟩
          show Spells [a] (a.toNat % 128)
          rw [Nat.mod_eq_of_lt ha]
          exact .last ha
        · rename_i ha
          cases hrest : decodeFrom bits (room - 7) b with
          | error e => rw [hrest] at h; cases h
          | ok p =>
            obtain ⟨high, rest'⟩ := p
            rw [hrest] at h
            cases h
            obtain ⟨w, rfl, hw, hwlen⟩ := ih.1 hrest
            refine ⟨a :: w, rfl, .more (Nat.le_of_not_lt ha) hw, ?_⟩
            have hpos := hw.length_pos
            rw [maxLength] at hwlen ⊢
            rw [List.length_cons]
            omega
      · cases h
    · rintro ⟨w, hw, h, hlen⟩
      have hlt := n.isLt
      have hroom : room ≠ 0 := by
        rintro rfl
        exact absurd h.length_pos (Nat.not_lt.2 hlen)
      generalize hn : n.val = k at h hlt
      cases h with
      | @last a' ha =>
        obtain ⟨rfl, rfl⟩ : a = a' ∧ b = rest := by simpa using hw
        have hmod : a.toNat % 128 = a.toNat := Nat.mod_eq_of_lt ha
        rw [decodeFrom, if_neg hroom, dif_pos (by rwa [hmod]), if_pos ha]
        exact congrArg (fun k : Unsigned room ↦ Except.ok (k, b)) (Fin.ext (hmod.trans hn.symm))
      | @more a' w m ha h =>
        obtain ⟨rfl, rfl⟩ : a = a' ∧ b = w ++ rest := by simpa using hw
        have hpos := h.length_pos
        rw [maxLength, List.length_cons] at hlen
        have hsplit : capacity room = capacity (room - 7) * 128 := by
          rw [show (128 : Nat) = capacity 7 from rfl, ← capacity_add,
            Nat.sub_add_cancel (by omega)]
        have hm : m < capacity (room - 7) := by omega
        have hrest : decodeFrom bits (room - 7) (w ++ rest) = .ok (⟨m, hm⟩, rest) :=
          ih.2 ⟨w, rfl, h, by rw [maxLength]; omega⟩
        rw [decodeFrom, if_neg hroom, dif_pos (by omega), if_neg (by omega), hrest]
        exact congrArg (fun k : Unsigned room ↦ Except.ok (k, rest)) (Fin.ext hn.symm)

/-- **The reader of a width accepts exactly the spellings** of its numbers that have no more bytes
than the width has groups. -/
theorem decode_eq_ok_iff {bits : Nat} {b rest : Bytes} {n : Unsigned bits} :
    decode bits b = .ok (n, rest) ↔
      ∃ w, b = w ++ rest ∧ Spells w n.val ∧ w.length ≤ maxLength bits :=
  decodeFrom_eq_ok_iff

theorem decodeFrom_append_of_error {bits room : Nat} {b : Bytes} {e : WireError}
    (h : decodeFrom bits room b = .error e) (he : e ≠ .unexpectedEnd) (t : Bytes) :
    decodeFrom bits room (b ++ t) = .error e := by
  induction b generalizing room with
  | nil =>
    cases h
    exact absurd rfl he
  | cons a b ih =>
    rw [List.cons_append]
    rw [decodeFrom] at h ⊢
    split at h
    · rw [if_pos ‹_›, h]
    rw [if_neg ‹_›]
    split at h
    · rw [dif_pos ‹_›]
      split at h
      · cases h
      rw [if_neg ‹_›]
      cases hrest : decodeFrom bits (room - 7) b with
      | error e' =>
        rw [hrest] at h
        cases h
        rw [ih hrest]
      | ok p =>
        rw [hrest] at h
        cases h
    · rw [dif_neg ‹_›, h]

/-- Bytes refused for what is in them stay refused when more follow. -/
theorem decode_append_of_error {bits : Nat} {b : Bytes} {e : WireError}
    (h : decode bits b = .error e) (he : e ≠ .unexpectedEnd) (t : Bytes) :
    decode bits (b ++ t) = .error e :=
  decodeFrom_append_of_error h he t

/-! ## Signed numbers -/

theorem unzigzag_eq_iff {n : Nat} {i : Int} : unzigzag n = i ↔ n = zigzag i :=
  ⟨fun h ↦ by rw [← h, zigzag_unzigzag], fun h ↦ by rw [h, unzigzag_zigzag]⟩

theorem zigzag_lt_iff {bits : Nat} (hbits : 0 < bits) {i : Int} :
    zigzag i < capacity bits ↔ -(capacity (bits - 1) : Int) ≤ i ∧ i < capacity (bits - 1) := by
  have hp : capacity bits = 2 * capacity (bits - 1) := by
    rw [← capacity_succ, Nat.sub_add_cancel hbits]
  rw [zigzag]
  split <;> omega

theorem zigzag_lt {bits : Nat} (hbits : 0 < bits) (i : Signed bits) :
    zigzag i.val < capacity bits :=
  (zigzag_lt_iff hbits).2 ⟨i.le_val, i.val_lt⟩

theorem unzigzagWide_eq_iff {bits : Nat} (hbits : 0 < bits) {n : Unsigned bits}
    {i : Signed bits} : unzigzagWide hbits n = i ↔ n.val = zigzag i.val := by
  rw [← unzigzag_eq_iff]
  exact ⟨fun h ↦ by rw [← h]; rfl, fun h ↦ Signed.ext_val h⟩

end SourceHost.Varint
