import Mathlib.Data.List.Basic
import Mathlib.Tactic.SplitIfs
import SourceHost.Text.Utf8

/-!
# The reader of UTF-8 accepts exactly what is written

`Utf8.decode` runs a machine over bytes, `Utf8.encode` computes bytes from code points.  Between
the two stands `Utf8.Sequence`, the table of well-formed byte sequences of one character, with the
code point each stands for.

* `Sequence.encodeChar` and `sequence_encodeChar` say that the table is what the writer produces.
* `Sequence.scan_append` says that the machine reads one row of the table as one character, and
  `exists_sequence_of_scan` that without a fault there is nothing else it could have read.
* `decode_eq_some_iff` puts the two together: some bytes are read as a text exactly when they are
  the bytes of that text.  So there is one way to write a text.
* `wellFormed_iff` says that the bytes of texts are the rows of the table, one after the other.
-/

set_option autoImplicit false

namespace SourceHost.Utf8

/-! ## The table of well-formed sequences -/

/-- A byte that continues a character. -/
def IsTail (a : UInt8) : Prop := 0x80 ≤ a.toNat ∧ a.toNat ≤ 0xBF

/-- The bytes of one character, with its code point.  The bounds on the second byte rule out
longer forms of a shorter character, surrogates, and what lies beyond the last code point. -/
inductive Sequence : Bytes → Nat → Prop
  | one {a : UInt8} (ha : a.toNat < 0x80) : Sequence [a] a.toNat
  | two {a b : UInt8} (ha : 0xC2 ≤ a.toNat ∧ a.toNat ≤ 0xDF) (hb : IsTail b) :
      Sequence [a, b] ((a.toNat - 0xC0) * 64 + (b.toNat - 0x80))
  | three {a b c : UInt8} (ha : 0xE0 ≤ a.toNat ∧ a.toNat ≤ 0xEF) (hb : IsTail b) (hc : IsTail c)
      (hlow : a.toNat = 0xE0 → 0xA0 ≤ b.toNat) (hhigh : a.toNat = 0xED → b.toNat ≤ 0x9F) :
      Sequence [a, b, c] (((a.toNat - 0xE0) * 64 + (b.toNat - 0x80)) * 64 + (c.toNat - 0x80))
  | four {a b c d : UInt8} (ha : 0xF0 ≤ a.toNat ∧ a.toNat ≤ 0xF4) (hb : IsTail b) (hc : IsTail c)
      (hd : IsTail d) (hlow : a.toNat = 0xF0 → 0x90 ≤ b.toNat)
      (hhigh : a.toNat = 0xF4 → b.toNat ≤ 0x8F) :
      Sequence [a, b, c, d] ((((a.toNat - 0xF0) * 64 + (b.toNat - 0x80)) * 64
        + (c.toNat - 0x80)) * 64 + (d.toNat - 0x80))

theorem val_ofNat {n : Nat} (h : n.isValidChar) : (Char.ofNat n).val.toNat = n := by
  rw [Char.ofNat, dif_pos h]
  rfl

theorem ofNat_eq_of_toNat {a : UInt8} {n : Nat} (h : n = a.toNat) : UInt8.ofNat n = a := by
  rw [h, UInt8.ofNat_toNat]

/-- Every row of the table is what the writer makes of its code point. -/
theorem Sequence.encodeChar {w : Bytes} {n : Nat} (h : Sequence w n) :
    String.utf8EncodeChar (Char.ofNat n) = w := by
  cases h with
  | one ha =>
    rw [String.utf8EncodeChar, val_ofNat (.inl (by omega)), if_pos (by omega), UInt8.ofNat_toNat]
  | two ha hb =>
    rw [IsTail] at hb
    rw [String.utf8EncodeChar, val_ofNat (.inl (by omega)), if_neg (by omega), if_pos (by omega)]
    simp only [List.cons.injEq, and_true]
    exact ⟨ofNat_eq_of_toNat (by omega), ofNat_eq_of_toNat (by omega)⟩
  | three ha hb hc hlow hhigh =>
    rw [IsTail] at hb hc
    rw [String.utf8EncodeChar, val_ofNat (by rw [Nat.isValidChar]; omega), if_neg (by omega),
      if_neg (by omega), if_pos (by omega)]
    simp only [List.cons.injEq, and_true]
    exact ⟨ofNat_eq_of_toNat (by omega), ofNat_eq_of_toNat (by omega),
      ofNat_eq_of_toNat (by omega)⟩
  | four ha hb hc hd hlow hhigh =>
    rw [IsTail] at hb hc hd
    rw [String.utf8EncodeChar, val_ofNat (.inr ⟨by omega, by omega⟩), if_neg (by omega),
      if_neg (by omega), if_neg (by omega)]
    simp only [List.cons.injEq, and_true]
    exact ⟨ofNat_eq_of_toNat (by omega), ofNat_eq_of_toNat (by omega),
      ofNat_eq_of_toNat (by omega), ofNat_eq_of_toNat (by omega)⟩

theorem isTail_ofNat (n : Nat) : IsTail (UInt8.ofNat (n % 0x40 + 0x80)) := by
  rw [IsTail, UInt8.toNat_ofNat']
  omega

theorem Sequence.of_eq {w : Bytes} {n m : Nat} (h : Sequence w n) (hn : n = m) : Sequence w m :=
  hn ▸ h

/-- What the writer makes of a character is a row of the table. -/
theorem sequence_encodeChar (c : Char) : Sequence (String.utf8EncodeChar c) c.val.toNat := by
  have hvalid : c.val.toNat.isValidChar := c.valid
  rw [Nat.isValidChar] at hvalid
  rw [String.utf8EncodeChar]
  generalize c.val.toNat = v at hvalid ⊢
  split_ifs with h₁ h₂ h₃
  · refine (Sequence.one ?_).of_eq ?_ <;> rw [UInt8.toNat_ofNat'] <;> omega
  · refine (Sequence.two ?_ (isTail_ofNat _)).of_eq ?_ <;>
      simp only [UInt8.toNat_ofNat'] <;> omega
  · refine (Sequence.three ?_ (isTail_ofNat _) (isTail_ofNat _) ?_ ?_).of_eq ?_ <;>
      simp only [UInt8.toNat_ofNat'] <;> omega
  · refine (Sequence.four ?_ (isTail_ofNat _) (isTail_ofNat _) (isTail_ofNat _) ?_ ?_).of_eq ?_ <;>
      simp only [UInt8.toNat_ofNat'] <;> omega

/-! ## The machine on one row -/

theorem scanFrom_eq_append (held : Option Partial) (found : List Item) (b : Bytes) :
    scanFrom held found b = found.reverse ++ scanFrom held [] b := by
  induction b generalizing held found with
  | nil => simp [scanFrom, List.reverse_append]
  | cons a rest ih =>
    show scanFrom _ _ rest = _ ++ scanFrom _ _ rest
    rw [ih, ih _ (_ ++ [])]
    simp

theorem scanFrom_cons {held next : Option Partial} {items : List Item} {a : UInt8}
    (h : step held a = (items, next)) (rest : Bytes) :
    scanFrom held [] (a :: rest) = items ++ scanFrom next [] rest := by
  rw [scanFrom, h]
  show scanFrom next (items.reverse ++ []) rest = _
  rw [scanFrom_eq_append, List.append_nil, List.reverse_reverse]

/-- What the first byte of several says about the bytes to come. -/
theorem lead_spec {a : UInt8} {p : Partial} (h : lead a = some p) :
    (p.later = 0 ∧ p.value = a.toNat - 0xC0 ∧ (0xC2 ≤ a.toNat ∧ a.toNat ≤ 0xDF) ∧
      p.low.toNat = 0x80 ∧ p.high.toNat = 0xBF) ∨
    (p.later = 1 ∧ p.value = a.toNat - 0xE0 ∧ (0xE0 ≤ a.toNat ∧ a.toNat ≤ 0xEF) ∧
      p.low.toNat = (if a.toNat = 0xE0 then 0xA0 else 0x80) ∧
      p.high.toNat = if a.toNat = 0xED then 0x9F else 0xBF) ∨
    (p.later = 2 ∧ p.value = a.toNat - 0xF0 ∧ (0xF0 ≤ a.toNat ∧ a.toNat ≤ 0xF4) ∧
      p.low.toNat = (if a.toNat = 0xF0 then 0x90 else 0x80) ∧
      p.high.toNat = if a.toNat = 0xF4 then 0x8F else 0xBF) := by
  simp only [lead, UInt8.le_iff_toNat_le, ← UInt8.toNat_inj, UInt8.reduceToNat] at h
  split_ifs at h <;> obtain rfl := Option.some.inj h <;> simp only [UInt8.reduceToNat] <;> grind

theorem exists_lead {a : UInt8} (h : 0xC2 ≤ a.toNat ∧ a.toNat ≤ 0xF4) : ∃ p, lead a = some p := by
  simp only [lead, UInt8.le_iff_toNat_le, ← UInt8.toNat_inj, UInt8.reduceToNat]
  split_ifs <;> first | exact ⟨_, rfl⟩ | omega

theorem step_first {a : UInt8} (h : a.toNat < 0x80) :
    step none a = ([some (Char.ofNat a.toNat)], none) := by
  rw [step, start, if_pos (UInt8.lt_iff_toNat_lt.2 h)]

theorem step_lead {a : UInt8} {p : Partial} (ha : 0x80 ≤ a.toNat) (h : lead a = some p) :
    step none a = ([], some p) := by
  have hlt : ¬a < 0x80 := fun hlt ↦ Nat.not_lt.2 ha (UInt8.lt_iff_toNat_lt.1 hlt)
  rw [step, start, if_neg hlt, h]

theorem step_last {p : Partial} {a : UInt8} (hl : p.later = 0) (hlow : p.low.toNat ≤ a.toNat)
    (hhigh : a.toNat ≤ p.high.toNat) :
    step (some p) a = ([some (Char.ofNat (p.value * 64 + (a.toNat - 0x80)))], none) := by
  rw [step, if_pos ⟨hlow, hhigh⟩, hl]

theorem step_more {p : Partial} {a : UInt8} {k : Nat} (hl : p.later = k + 1)
    (hlow : p.low.toNat ≤ a.toNat) (hhigh : a.toNat ≤ p.high.toNat) :
    step (some p) a = ([], some ⟨p.value * 64 + (a.toNat - 0x80), k, 0x80, 0xBF⟩) := by
  rw [step, if_pos ⟨hlow, hhigh⟩, hl]

/-- **One row of the table is read as one character**, whatever comes after it. -/
theorem Sequence.scan_append {w : Bytes} {n : Nat} (h : Sequence w n) (rest : Bytes) :
    scan (w ++ rest) = some (Char.ofNat n) :: scan rest := by
  rw [scan, scan]
  cases h with
  | one ha => rw [List.singleton_append, scanFrom_cons (step_first ha), List.singleton_append]
  | @two a b ha hb =>
    rw [IsTail] at hb
    obtain ⟨p, hp⟩ := exists_lead (a := a) (by omega)
    have hspec := lead_spec hp
    have hvalue : p.value = a.toNat - 0xC0 := by omega
    rw [List.cons_append, scanFrom_cons (step_lead (by omega) hp), List.cons_append,
      scanFrom_cons (step_last (p := p) (by omega) (by omega) (by omega)), hvalue]
    simp only [List.nil_append, List.singleton_append]
  | @three a b c ha hb hc hlow hhigh =>
    rw [IsTail] at hb hc
    obtain ⟨p, hp⟩ := exists_lead (a := a) (by omega)
    have hspec := lead_spec hp
    have hvalue : p.value = a.toNat - 0xE0 := by omega
    rw [List.cons_append, scanFrom_cons (step_lead (by omega) hp), List.cons_append,
      scanFrom_cons (step_more (p := p) (k := 0) (by omega) (by grind) (by grind)), hvalue,
      List.cons_append,
      scanFrom_cons (step_last (p := ⟨_, 0, 0x80, 0xBF⟩) rfl hc.1 hc.2)]
    simp only [List.nil_append, List.singleton_append]
  | @four a b c d ha hb hc hd hlow hhigh =>
    rw [IsTail] at hb hc hd
    obtain ⟨p, hp⟩ := exists_lead (a := a) (by omega)
    have hspec := lead_spec hp
    have hvalue : p.value = a.toNat - 0xF0 := by omega
    rw [List.cons_append, scanFrom_cons (step_lead (by omega) hp), List.cons_append,
      scanFrom_cons (step_more (p := p) (k := 1) (by omega) (by grind) (by grind)), hvalue,
      List.cons_append, scanFrom_cons (step_more (p := ⟨_, 1, 0x80, 0xBF⟩) rfl hc.1 hc.2),
      List.cons_append, scanFrom_cons (step_last (p := ⟨_, 0, 0x80, 0xBF⟩) rfl hd.1 hd.2)]
    simp only [List.nil_append, List.singleton_append]

/-! ## Reading without a fault -/

/-- No item is a fault. -/
def Clean (items : List Item) : Prop := ∀ item ∈ items, item.isSome

theorem Clean.tail {front back : List Item} (h : Clean (front ++ back)) : Clean back :=
  fun item hitem ↦ h item (List.mem_append_right front hitem)

theorem not_clean_cons_none (items : List Item) : ¬Clean (none :: items) :=
  fun h ↦ absurd (h none List.mem_cons_self) (by simp)

/-- Inside a character, bytes without a fault go on with one in the range that is expected. -/
theorem Clean.next {p : Partial} {b : Bytes} (h : Clean (scanFrom (some p) [] b)) :
    ∃ a rest, b = a :: rest ∧ p.low.toNat ≤ a.toNat ∧ a.toNat ≤ p.high.toNat := by
  cases b with
  | nil => exact absurd h (not_clean_cons_none [])
  | cons a rest =>
    by_cases hrange : p.low ≤ a ∧ a ≤ p.high
    · exact ⟨a, rest, rfl, hrange.1, hrange.2⟩
    · have hstep : step (some p) a = (none :: (start a).1, (start a).2) := by
        rw [step, if_neg hrange]
      rw [scanFrom_cons hstep] at h
      exact absurd h (not_clean_cons_none _)

/-- Without a fault, the first character is a row of the table. -/
theorem exists_sequence_of_scan {a : UInt8} {b : Bytes} (h : Clean (scan (a :: b))) :
    ∃ w n rest, a :: b = w ++ rest ∧ Sequence w n := by
  rw [scan] at h
  by_cases ha : a.toNat < 0x80
  · exact ⟨[a], _, b, rfl, .one ha⟩
  · cases hlead : lead a with
    | none =>
      have hstep : step none a = ([none], none) := by
        rw [step, start, if_neg (fun hlt ↦ ha (UInt8.lt_iff_toNat_lt.1 hlt)), hlead]
      rw [scanFrom_cons hstep] at h
      exact absurd h (not_clean_cons_none _)
    | some p =>
      rw [scanFrom_cons (step_lead (by omega) hlead)] at h
      obtain ⟨x, b, rfl, hx, hx'⟩ := h.tail.next
      rcases lead_spec hlead with ⟨hl, -, ha', hlow, hhigh⟩ | ⟨hl, -, ha', hlow, hhigh⟩ |
        ⟨hl, -, ha', hlow, hhigh⟩
      · exact ⟨[a, x], _, b, rfl, .two ha' ⟨by omega, by omega⟩⟩
      · rw [scanFrom_cons (step_more (k := 0) hl hx hx')] at h
        obtain ⟨y, b, rfl, hy⟩ := h.tail.tail.next
        exact ⟨[a, x, y], _, b, rfl, .three ha' ⟨by grind, by grind⟩ hy (by grind) (by grind)⟩
      · rw [scanFrom_cons (step_more (k := 1) hl hx hx')] at h
        obtain ⟨y, b, rfl, hy⟩ := h.tail.tail.next
        rw [scanFrom_cons (step_more (k := 0) rfl hy.1 hy.2)] at h
        obtain ⟨z, b, rfl, hz⟩ := h.tail.tail.tail.next
        exact ⟨[a, x, y, z], _, b, rfl,
          .four ha' ⟨by grind, by grind⟩ hy hz (by grind) (by grind)⟩

/-! ## Reading and writing -/

theorem scan_encodeChar_append (c : Char) (rest : Bytes) :
    scan (String.utf8EncodeChar c ++ rest) = some c :: scan rest := by
  rw [(sequence_encodeChar c).scan_append]
  exact congrArg (fun c ↦ some c :: scan rest) (Char.ofNat_toNat c)

theorem scan_flatMap_encodeChar (cs : List Char) :
    scan (cs.flatMap String.utf8EncodeChar) = cs.map some := by
  induction cs with
  | nil => rfl
  | cons c cs ih => rw [List.flatMap_cons, scan_encodeChar_append, ih, List.map_cons]

/-- In what has been written no fault is replaced. -/
theorem lossy_encode (t : String) : lossy (encode t) = t := by
  rw [lossy, encode, scan_flatMap_encodeChar, List.map_map]
  simp [Function.comp_def]

/-- Bytes without a fault are the bytes of some characters. -/
theorem exists_eq_flatMap_of_clean (b : Bytes) (h : Clean (scan b)) :
    ∃ cs : List Char, b = cs.flatMap String.utf8EncodeChar := by
  induction hn : b.length using Nat.strongRecOn generalizing b with
  | ind n ih =>
    cases b with
    | nil => exact ⟨[], rfl⟩
    | cons a b =>
      obtain ⟨w, m, rest, hw, hseq⟩ := exists_sequence_of_scan h
      have hchar := hseq.encodeChar
      have hlen := congrArg List.length hw
      have hpos : 0 < w.length := by
        rw [← hchar, String.length_utf8EncodeChar]
        exact Char.utf8Size_pos _
      rw [List.length_append] at hlen
      rw [hw, hseq.scan_append] at h
      have hrest : Clean (scan rest) := fun item hitem ↦ h item (.tail _ hitem)
      obtain ⟨cs, rfl⟩ := ih rest.length (by omega) rest hrest rfl
      exact ⟨Char.ofNat m :: cs, by rw [hw, List.flatMap_cons, hchar]⟩

/-- **Bytes are read as a text exactly when they are the bytes of that text.** -/
theorem decode_eq_some_iff {b : Bytes} {t : String} : decode b = some t ↔ b = encode t := by
  have hscan : ∀ cs : List Char, decode (cs.flatMap String.utf8EncodeChar) = some (.ofList cs) := by
    intro cs
    simp [decode, scan_flatMap_encodeChar]
  constructor
  · intro h
    have hclean : Clean (scan b) := by
      simp only [decode] at h
      split at h
      · rename_i hall
        exact List.all_eq_true.1 hall
      · cases h
    obtain ⟨cs, rfl⟩ := exists_eq_flatMap_of_clean b hclean
    rw [hscan, Option.some_inj] at h
    rw [encode, ← h, String.toList_ofList]
  · rintro rfl
    rw [encode, hscan, String.ofList_toList]

/-! ## Well-formed bytes -/

/-- Bytes that are rows of the table, one after the other, and nothing else. -/
inductive WellFormed : Bytes → Prop
  | nil : WellFormed []
  | row {w rest : Bytes} {n : Nat} (h : Sequence w n) (hrest : WellFormed rest) :
      WellFormed (w ++ rest)

/-- **Well-formed bytes are the bytes of texts.** -/
theorem wellFormed_iff {b : Bytes} : WellFormed b ↔ ∃ t, b = encode t := by
  constructor
  · intro h
    induction h with
    | nil => exact ⟨"", rfl⟩
    | @row w rest n h _ ih =>
      obtain ⟨t, rfl⟩ := ih
      refine ⟨String.ofList (Char.ofNat n :: t.toList), ?_⟩
      rw [encode, encode, String.toList_ofList, List.flatMap_cons, h.encodeChar]
  · rintro ⟨t, rfl⟩
    rw [encode]
    induction t.toList with
    | nil => exact .nil
    | cons c cs ih =>
      rw [List.flatMap_cons]
      exact .row (sequence_encodeChar c) ih

end SourceHost.Utf8
