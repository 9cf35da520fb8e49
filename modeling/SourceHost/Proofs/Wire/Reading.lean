import SourceHost.Proofs.Text.Utf8
import SourceHost.Proofs.Wire.Spelling

/-!
# The reader follows the grammar

`take_eq_ok_iff` says that `Shape.take` reads a value off the front of some bytes exactly when the
bytes begin with a form of it, and then leaves the bytes behind that form.  Everything else that
is to be known about a successful read is therefore a property of the grammar.

The statement is put together like the reader: `Accepts read form` says of one reader that it
takes what `form` describes, and there is one lemma for each way of making readers out of readers.
-/

set_option autoImplicit false

namespace SourceHost

variable {α β : Type}

/-- From the front of some bytes `read` takes exactly what `form` describes. -/
def Accepts (read : Bytes → Except WireError (α × Bytes)) (form : Nat → Bytes → α → Prop) : Prop :=
  ∀ b v rest, read b = .ok (v, rest) ↔ ∃ w, b = w ++ rest ∧ form rest.length w v

theorem bind_eq_ok_iff {x : Except WireError (α × Bytes)} {f : α × Bytes → Except WireError β}
    {r : β} : (x >>= f) = .ok r ↔ ∃ a rest, x = .ok (a, rest) ∧ f (a, rest) = .ok r := by
  cases x with
  | error e => simp [bind, Except.bind]
  | ok p => exact ⟨fun h ↦ ⟨p.1, p.2, rfl, h⟩, fun ⟨_, _, hp, h⟩ ↦ Except.ok.inj hp ▸ h⟩

/-! ## Readers of one thing -/

theorem accepts_takeByte : Accepts Bytes.takeByte fun _ w a ↦ w = [a] := by
  intro b a rest
  cases b with
  | nil => simp [Bytes.takeByte]
  | cons x b => simp [Bytes.takeByte, eq_comm]

theorem accepts_number (bits : Nat) :
    Accepts (Varint.decode bits) fun _ w n ↦ SpellsNumber (fun _ ↦ True) bits w n.val := by
  intro b n rest
  rw [Varint.decode_eq_ok_iff]
  simp only [SpellsNumber, true_and, n.isLt]

theorem accepts_counted :
    Accepts Bytes.takeCounted fun _ w content ↦ SpellsCounted (fun _ ↦ True) w content := by
  intro b content rest
  simp only [Bytes.takeCounted, bind_eq_ok_iff]
  constructor
  · rintro ⟨length, behind, hlength, h⟩
    obtain ⟨front, rfl, hfront⟩ := (accepts_number 64 _ _ _).1 hlength
    split at h
    · cases h
    · rename_i hle
      cases h
      refine ⟨front ++ behind.take length.val, ?_, front, rfl, ?_⟩
      · rw [List.append_assoc, List.take_append_drop]
      · rwa [List.length_take_of_le (Nat.le_of_not_lt hle)]
  · rintro ⟨_, rfl, front, rfl, hfront⟩
    refine ⟨⟨content.length, hfront.2.2.1⟩, content ++ rest, ?_, ?_⟩
    · exact (accepts_number 64 _ _ _).2 ⟨front, List.append_assoc _ _ _, hfront⟩
    · rw [if_neg (by simp), List.take_left, List.drop_left]
      rfl

theorem accepts_text :
    Accepts Bytes.takeText fun _ w t ↦ SpellsCounted (fun _ ↦ True) w (Utf8.encode t) := by
  intro b t rest
  simp only [Bytes.takeText, bind_eq_ok_iff]
  constructor
  · rintro ⟨content, behind, hcontent, h⟩
    split at h
    · rename_i t' ht
      cases h
      rw [← Utf8.decode_eq_some_iff.1 ht]
      exact (accepts_counted _ _ _).1 hcontent
    · cases h
  · intro h
    refine ⟨Utf8.encode t, rest, (accepts_counted _ _ _).2 h, ?_⟩
    rw [Utf8.decode_eq_some_iff.2 rfl]
    rfl

theorem accepts_littleEndian (count : Nat) :
    Accepts (Bytes.takeLittleEndian count (8 * count)) fun _ w n ↦
      w = Bytes.littleEndian count n.val := by
  intro b n rest
  simp only [Bytes.takeLittleEndian, bind_eq_ok_iff, Bytes.takeExactly]
  constructor
  · rintro ⟨content, behind, hcontent, h⟩
    split at hcontent
    · cases hcontent
    · rename_i hle
      cases hcontent
      cases h
      have hlen : (b.take count).length = count := List.length_take_of_le (Nat.le_of_not_lt hle)
      have hlt := Bytes.ofLittleEndian_lt (b.take count)
      rw [hlen] at hlt
      refine ⟨b.take count, (List.take_append_drop _ _).symm, ?_⟩
      rw [Unsigned.val_wrap_of_lt hlt]
      have hback := Bytes.littleEndian_ofLittleEndian (b.take count)
      rwa [hlen, eq_comm] at hback
  · rintro ⟨w, rfl, rfl⟩
    have hlen := Bytes.length_littleEndian count n.val
    refine ⟨Bytes.littleEndian count n.val, rest, ?_, ?_⟩
    · rw [if_neg (by rw [List.length_append, hlen]; omega), List.take_left' hlen,
        List.drop_left' hlen]
    · rw [Bytes.ofLittleEndian_littleEndian n.isLt]
      exact congrArg (fun n ↦ Except.ok (n, rest)) (Fin.ext (Unsigned.val_wrap_of_lt n.isLt))

theorem Accepts.congr {read : Bytes → Except WireError (α × Bytes)}
    {form form' : Nat → Bytes → α → Prop} (h : Accepts read form)
    (heq : ∀ after w v, form after w v ↔ form' after w v) : Accepts read form' := by
  intro b v rest
  simp only [h b v rest, heq]

theorem Accepts.map {read : Bytes → Except WireError (α × Bytes)} {form : Nat → Bytes → α → Prop}
    (h : Accepts read form) (f : α → β) :
    Accepts (fun b ↦ do
      let (a, rest) ← read b
      return (f a, rest)) fun after w v ↦ ∃ a, form after w a ∧ v = f a := by
  intro b v rest
  simp only [bind_eq_ok_iff]
  constructor
  · rintro ⟨a, rest', ha, heq⟩
    cases heq
    obtain ⟨w, hw, hform⟩ := (h _ _ _).1 ha
    exact ⟨w, hw, a, hform, rfl⟩
  · rintro ⟨w, hw, a, hform, rfl⟩
    exact ⟨a, rest, (h _ _ _).2 ⟨w, hw, hform⟩, rfl⟩

/-- A reader followed by a test that some values fail. -/
theorem Accepts.filterMap {read : Bytes → Except WireError (α × Bytes)}
    {form : Nat → Bytes → α → Prop} (h : Accepts read form)
    {next : α × Bytes → Except WireError (β × Bytes)} {f : α → Option β}
    (hnext : ∀ a rest r, next (a, rest) = .ok r ↔ f a = some r.1 ∧ rest = r.2) :
    Accepts (fun b ↦ read b >>= next) fun after w v ↦ ∃ a, form after w a ∧ f a = some v := by
  intro b v rest
  simp only [bind_eq_ok_iff, hnext]
  constructor
  · rintro ⟨a, rest', ha, hv, rfl⟩
    obtain ⟨w, hw, hform⟩ := (h _ _ _).1 ha
    exact ⟨w, hw, a, hform, hv⟩
  · rintro ⟨w, hw, a, hform, hv⟩
    exact ⟨a, rest, (h _ _ _).2 ⟨w, hw, hform⟩, hv, rfl⟩

/-! ## Readers of several things -/

theorem Accepts.both {first : Bytes → Except WireError (α × Bytes)}
    {second : Bytes → Except WireError (β × Bytes)} {form : Nat → Bytes → α → Prop}
    {form' : Nat → Bytes → β → Prop} (h : Accepts first form) (h' : Accepts second form') :
    Accepts (fun b ↦ do
      let (x, rest) ← first b
      let (y, rest) ← second rest
      return ((x, y), rest)) (SpellsBoth form form') := by
  rintro b ⟨x, y⟩ rest
  simp only [bind_eq_ok_iff]
  constructor
  · rintro ⟨x', behind, hx, y', rest', hy, heq⟩
    cases heq
    obtain ⟨front, rfl, hfront⟩ := (h _ _ _).1 hx
    obtain ⟨back, rfl, hback⟩ := (h' _ _ _).1 hy
    rw [List.length_append] at hfront
    exact ⟨front ++ back, (List.append_assoc _ _ _).symm, front, back, rfl, hfront, hback⟩
  · rintro ⟨_, rfl, front, back, rfl, hfront, hback⟩
    refine ⟨x, back ++ rest, (h _ _ _).2 ⟨front, List.append_assoc _ _ _, ?_⟩, y, rest,
      (h' _ _ _).2 ⟨back, rfl, hback⟩, rfl⟩
    rwa [List.length_append]

theorem takeEach_succ (read : Bytes → Except WireError (α × Bytes)) (count : Nat)
    (found : List α) (b : Bytes) : takeEach read (count + 1) found b =
      read b >>= fun p ↦ takeEach read count (p.1 :: found) p.2 := by
  rw [takeEach]
  cases read b <;> rfl

theorem takeEach_eq_ok_iff {read : Bytes → Except WireError (α × Bytes)}
    {form : Nat → Bytes → α → Prop} (h : Accepts read form) {count : Nat} {found vs : List α}
    {b rest : Bytes} : takeEach read count found b = .ok (vs, rest) ↔
      ∃ w vs', b = w ++ rest ∧ vs = found.reverse ++ vs' ∧ vs'.length = count ∧
        SpellsEach form rest.length w vs' := by
  induction count generalizing found b with
  | zero =>
    rw [takeEach]
    constructor
    · intro heq
      cases heq
      exact ⟨[], [], rfl, (List.append_nil _).symm, rfl, rfl⟩
    · rintro ⟨w, vs', rfl, rfl, hlen, hw⟩
      obtain rfl := List.eq_nil_of_length_eq_zero hlen
      rw [show w = [] from hw, List.append_nil, List.nil_append]
  | succ count ih =>
    rw [takeEach_succ, bind_eq_ok_iff]
    constructor
    · rintro ⟨v, behind, hread, heq⟩
      obtain ⟨back, vs', rfl, rfl, hlen, hback⟩ := ih.1 heq
      obtain ⟨front, rfl, hfront⟩ := (h _ _ _).1 hread
      rw [List.length_append] at hfront
      refine ⟨front ++ back, v :: vs', (List.append_assoc _ _ _).symm, ?_, ?_, ?_⟩
      · rw [List.reverse_cons, List.append_assoc, List.singleton_append]
      · rw [List.length_cons, hlen]
      · exact ⟨front, back, rfl, hfront, hback⟩
    · rintro ⟨w, _ | ⟨v, vs'⟩, rfl, rfl, hlen, hw⟩
      · cases hlen
      · obtain ⟨front, back, rfl, hfront, hback⟩ := hw
        refine ⟨v, back ++ rest, (h _ _ _).2 ⟨front, List.append_assoc _ _ _, ?_⟩, ?_⟩
        · rwa [List.length_append]
        · refine ih.2 ⟨back, vs', rfl, ?_, Nat.succ.inj hlen, hback⟩
          rw [List.reverse_cons, List.append_assoc, List.singleton_append]

theorem Accepts.many {read : Bytes → Except WireError (α × Bytes)} {form : Nat → Bytes → α → Prop}
    (h : Accepts read form) :
    Accepts (fun b ↦ do
      let (count, rest) ← b.takeCount
      takeEach read count [] rest) (SpellsMany (fun _ ↦ True) form) := by
  intro b vs rest
  simp only [bind_eq_ok_iff, Bytes.takeCount]
  constructor
  · rintro ⟨count, behind, ⟨n, behind', hn, hcount⟩, hitems⟩
    split at hcount
    · cases hcount
    · rename_i hbound
      cases hcount
      obtain ⟨back, vs', rfl, rfl, hlen, hback⟩ := (takeEach_eq_ok_iff h).1 hitems
      obtain ⟨front, rfl, hfront⟩ := (accepts_number 64 _ _ _).1 hn
      rw [← hlen] at hfront
      rw [List.length_append, ← hlen] at hbound
      refine ⟨front ++ back, (List.append_assoc _ _ _).symm, front, back, rfl, hfront, ?_, hback⟩
      omega
  · rintro ⟨_, rfl, front, back, rfl, hfront, hcount, hback⟩
    refine ⟨vs.length, back ++ rest, ⟨⟨vs.length, hfront.2.2.1⟩, back ++ rest, ?_, ?_⟩, ?_⟩
    · exact (accepts_number 64 _ _ _).2 ⟨front, List.append_assoc _ _ _, hfront⟩
    · rw [if_neg]
      · rfl
      · rw [List.length_append]
        simp only
        omega
    · exact (takeEach_eq_ok_iff h).2 ⟨back, vs, rfl, rfl, rfl, hback⟩

/-! ## The reader of a shape -/

theorem ofInt_eq_iff {a : UInt8} {i : Signed 8} :
    i = Signed.ofInt 8 ((a.toNat : Int).bmod 256) ↔ i.val = (a.toNat : Int).bmod 256 := by
  have hval : (Signed.ofInt 8 ((a.toNat : Int).bmod 256)).val = (a.toNat : Int).bmod 256 :=
    Signed.val_ofInt (Int.le_bmod (by decide)) (Int.bmod_lt (by decide))
  exact ⟨fun h ↦ h ▸ hval, fun h ↦ Signed.ext_val (h.trans hval.symm)⟩

theorem ofSeconds_eq_some_iff {i : Int} {t : Instant} :
    Instant.ofSeconds i = some t ↔ i = t.seconds := by
  obtain ⟨seconds, hlow, hhigh⟩ := t
  rw [Instant.ofSeconds]
  constructor
  · intro h
    split at h
    · exact congrArg Instant.seconds (Option.some.inj h)
    · cases h
  · rintro rfl
    exact dif_pos ⟨hlow, hhigh⟩

theorem encode_ofList_singleton (c : Char) :
    Utf8.encode (String.ofList [c]) = String.utf8EncodeChar c := by
  rw [Utf8.encode, String.toList_ofList, List.flatMap_singleton]

namespace Shape

theorem accepts_bool : Accepts bool.take bool.Reads :=
  (accepts_takeByte.map (· != 0)).congr fun _ _ _ ↦ by simp [Spells]

theorem accepts_i8 : Accepts i8.take i8.Reads :=
  (accepts_takeByte.map fun a ↦ Signed.ofInt 8 ((a.toNat : Int).bmod 256)).congr
    fun _ _ _ ↦ by simp only [ofInt_eq_iff, Spells]

theorem accepts_signed (width : Width) : Accepts (signed width).take (signed width).Reads := by
  refine ((accepts_number width.bits).map (Varint.unzigzagWide width.bits_pos)).congr ?_
  intro after w i
  simp only [eq_comm (a := i), Varint.unzigzagWide_eq_iff]
  constructor
  · rintro ⟨n, hn, hi⟩
    rwa [hi] at hn
  · exact fun h ↦ ⟨⟨_, h.2.2.1⟩, h, rfl⟩

theorem accepts_instant : Accepts instant.take instant.Reads := by
  refine ((accepts_number 64).filterMap (f := fun n ↦ Instant.ofSeconds (Varint.unzigzag n.val))
    ?_).congr ?_
  · rintro n rest ⟨t, rest'⟩
    dsimp only
    split <;> simp_all [pure, Except.pure]
  · intro after w t
    simp only [ofSeconds_eq_some_iff, Varint.unzigzag_eq_iff]
    constructor
    · rintro ⟨n, hn, ht⟩
      rwa [ht] at hn
    · exact fun h ↦ ⟨⟨_, h.2.2.1⟩, h, rfl⟩

/-- The only character of a text of one. -/
def onlyChar (t : String) : Option Char :=
  match t.toList with
  | [c] => some c
  | _ => none

theorem onlyChar_eq_some_iff {t : String} {c : Char} :
    onlyChar t = some c ↔ t = String.ofList [c] := by
  rw [← String.toList_inj, String.toList_ofList, onlyChar]
  split <;> simp_all

theorem accepts_char : Accepts char.take char.Reads := by
  refine (accepts_text.filterMap (f := onlyChar) ?_).congr ?_
  · rintro t rest ⟨c, rest'⟩
    dsimp only [onlyChar]
    split <;> simp_all [pure, Except.pure]
  · intro after w c
    simp only [onlyChar_eq_some_iff]
    constructor
    · rintro ⟨_, ht, rfl⟩
      rwa [encode_ofList_singleton] at ht
    · intro h
      exact ⟨_, (encode_ofList_singleton c).symm ▸ h, rfl⟩

theorem accepts_option {s : Shape} (h : Accepts s.take s.Reads) :
    Accepts (option s).take (option s).Reads := by
  intro b v rest
  simp only [take, bind_eq_ok_iff]
  constructor
  · rintro ⟨a, behind, ha, hv⟩
    obtain ⟨_, rfl, rfl⟩ := (accepts_takeByte _ _ _).1 ha
    split at hv
    · rename_i hzero
      cases hv
      exact ⟨[a], rfl, by rw [hzero], trivial⟩
    · rename_i hzero
      obtain ⟨v', rest', hv', heq⟩ := bind_eq_ok_iff.1 hv
      cases heq
      obtain ⟨back, rfl, hback⟩ := (h _ _ _).1 hv'
      exact ⟨a :: back, rfl, a, back, rfl, hzero, trivial, hback⟩
  · rintro ⟨w, rfl, hw⟩
    cases v with
    | none =>
      obtain ⟨rfl, -⟩ := hw
      exact ⟨0, rest, rfl, rfl⟩
    | some v =>
      obtain ⟨a, back, rfl, ha, -, hback⟩ := hw
      refine ⟨a, back ++ rest, rfl, ?_⟩
      rw [if_neg ha, bind_eq_ok_iff]
      exact ⟨v, rest, (h _ _ _).2 ⟨back, rfl, hback⟩, rfl⟩

theorem accepts_sum {n : Nat} {p : Fin n → Shape} (h : ∀ i, Accepts (p i).take (p i).Reads) :
    Accepts (sum n p).take (sum n p).Reads := by
  rintro b ⟨i, v⟩ rest
  simp only [take, bind_eq_ok_iff]
  constructor
  · rintro ⟨a, behind, ha, hv⟩
    obtain ⟨_, rfl, rfl⟩ := (accepts_takeByte _ _ _).1 ha
    split at hv
    · obtain ⟨v', rest', hv', heq⟩ := bind_eq_ok_iff.1 hv
      cases heq
      obtain ⟨back, rfl, hback⟩ := (h _ _ _ _).1 hv'
      exact ⟨a :: back, rfl, a, back, rfl, rfl, hback⟩
    · cases hv
  · rintro ⟨w, rfl, a, back, rfl, ha, hback⟩
    refine ⟨a, back ++ rest, rfl, ?_⟩
    obtain ⟨i, hi⟩ := i
    obtain rfl : a.toNat = i := ha
    rw [dif_pos hi, bind_eq_ok_iff]
    exact ⟨v, rest, (h _ _ _ _).2 ⟨back, rfl, hback⟩, rfl⟩

/-- **The reader of a shape takes the forms of its values.** -/
theorem accepts_take (s : Shape) : Accepts s.take s.Reads := by
  induction s with
  | bool => exact accepts_bool
  | u8 => exact accepts_takeByte
  | i8 => exact accepts_i8
  | unsigned width => exact accepts_number width.bits
  | signed width => exact accepts_signed width
  | f32 => exact accepts_littleEndian 4
  | f64 => exact accepts_littleEndian 8
  | char => exact accepts_char
  | text => exact accepts_text
  | bytes => exact accepts_counted
  | unit =>
    rintro b ⟨⟩ rest
    simp [take, Spells]
  | option s ih => exact accepts_option ih
  | seq s ih => exact ih.many
  -- a map is read as the list of its entries
  | map k t ihk iht => exact (ihk.both iht).many
  | pair a b iha ihb => exact iha.both ihb
  | sum n p ih => exact accepts_sum ih
  | instant => exact accepts_instant
  | unsupported _ => exact fun _ _ _ ↦ iff_of_false (fun h ↦ nomatch h) fun ⟨_, _, h⟩ ↦ h

theorem take_eq_ok_iff {s : Shape} {b rest : Bytes} {v : s.Value} :
    s.take b = .ok (v, rest) ↔ ∃ w, b = w ++ rest ∧ s.Reads rest.length w v :=
  s.accepts_take b v rest

theorem decode_eq_ok_iff_take {s : Shape} {b : Bytes} {v : s.Value} :
    s.decode b = .ok v ↔ s.take b = .ok (v, []) := by
  rw [decode, bind_eq_ok_iff]
  constructor
  · rintro ⟨v', rest, h, hv⟩
    cases rest with
    | nil =>
      cases hv
      exact h
    | cons a rest => cases hv
  · exact fun h ↦ ⟨v, [], h, rfl⟩

theorem decode_eq_ok_iff {s : Shape} {b : Bytes} {v : s.Value} :
    s.decode b = .ok v ↔ s.Reads 0 b v := by
  rw [decode_eq_ok_iff_take, take_eq_ok_iff]
  simp only [List.append_nil, List.length_nil, exists_eq_left']

/-- What cannot be taken off the front cannot be all there is. -/
theorem decode_of_take_eq_error {s : Shape} {b : Bytes} {e : WireError} (h : s.take b = .error e) :
    s.decode b = .error e := by
  rw [decode, h]
  rfl

end Shape

end SourceHost
