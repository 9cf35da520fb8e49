import Mathlib.Data.Nat.Bitwise
import Mathlib.Data.Nat.Digits.Defs
import SourceHost.Proofs.Wire.Varint

/-!
# What a varint of a width can be

`Varint.Spells` says which bytes spell a number one byte after the other.  Here the same is said of
the bytes at their places, where a width cuts into the last group, and of every way to fail.

* `Continues`, `EndsAt`, `valueOf` — how far the high bits go, and the sum of the groups.
* `Exceeds`, `Overlong` — the two ways to be more than a width holds.
* `decodeFrom_eq_overflow_iff` — these are all: a number that is neither and has not ended is cut
  short.
* `loop_eq_decodeFrom` — read in a loop with words of a fixed size, a number comes out the same, and
  no word is ever too small.
* `readsWidth` — both for a reader of any width that numbers come in.
-/

set_option autoImplicit false

namespace SourceHost.Varint

variable {bits room n : Nat} {a : UInt8} {b w : Bytes}

/-! ## Bytes at their places -/

/-- The first `n` bytes are there and have the high bit set. -/
def Continues (b : Bytes) (n : Nat) : Prop := ∀ i < n, ∃ a, b[i]? = some a ∧ 128 ≤ a.toNat

/-- The byte at the index is the first one without the high bit. -/
def EndsAt (b : Bytes) (n : Nat) : Prop := Continues b n ∧ ∃ a, b[n]? = some a ∧ a.toNat < 128

/-- The sum of the groups of seven bits, the one at index `i` times `128 ^ i`. -/
def valueOf (b : Bytes) : Nat := Nat.ofDigits 128 (b.map fun a ↦ a.toNat % 128)

/-- One of the bytes that are read has a bit that is none of the width. -/
def Exceeds (bits : Nat) (b : Bytes) : Prop :=
  ∃ i < maxLength bits, Continues b i ∧
    ∃ a, b[i]? = some a ∧ capacity bits ≤ a.toNat % 128 * 128 ^ i

/-- Every byte that the width has room for goes on, and there is one more. -/
def Overlong (bits : Nat) (b : Bytes) : Prop :=
  Continues b (maxLength bits) ∧ maxLength bits < b.length

theorem continues_zero (b : Bytes) : Continues b 0 := fun _ hi ↦ absurd hi (Nat.not_lt_zero _)

theorem continues_cons_succ : Continues (a :: b) (n + 1) ↔ 128 ≤ a.toNat ∧ Continues b n := by
  constructor
  · intro h
    refine ⟨by simpa using h 0 (Nat.succ_pos n), fun i hi ↦ ?_⟩
    simpa using h (i + 1) (Nat.succ_lt_succ hi)
  · rintro ⟨ha, h⟩ i hi
    cases i with
    | zero => exact ⟨a, rfl, ha⟩
    | succ i => simpa using h i (Nat.lt_of_succ_lt_succ hi)

theorem endsAt_cons_zero : EndsAt (a :: b) 0 ↔ a.toNat < 128 := by
  simp [EndsAt, continues_zero]

theorem endsAt_cons_succ : EndsAt (a :: b) (n + 1) ↔ 128 ≤ a.toNat ∧ EndsAt b n := by
  simp [EndsAt, continues_cons_succ, and_assoc]

theorem valueOf_cons (a : UInt8) (b : Bytes) : valueOf (a :: b) = a.toNat % 128 + 128 * valueOf b :=
  Nat.ofDigits_cons

/-- A spelling is a number that ends at its last byte. -/
theorem spells_take_iff {v : Nat} :
    EndsAt b n ∧ v = valueOf (b.take (n + 1)) ↔ n < b.length ∧ Spells (b.take (n + 1)) v := by
  induction b generalizing n v with
  | nil => simp [EndsAt]
  | cons a b ih =>
    cases n with
    | zero =>
      rw [endsAt_cons_zero, List.take_succ_cons, List.take_zero, valueOf_cons]
      constructor
      · rintro ⟨ha, rfl⟩
        refine ⟨Nat.succ_pos _, ?_⟩
        show Spells [a] (a.toNat % 128)
        rw [Nat.mod_eq_of_lt ha]
        exact .last ha
      · rintro ⟨-, h⟩
        cases h with
        | last ha => exact ⟨ha, (Nat.mod_eq_of_lt ha).symm⟩
        | more _ h => cases h
    | succ n =>
      rw [endsAt_cons_succ, List.take_succ_cons, valueOf_cons, List.length_cons,
        Nat.succ_lt_succ_iff]
      constructor
      · rintro ⟨⟨ha, hends⟩, rfl⟩
        obtain ⟨hlength, h⟩ := ih.1 ⟨hends, rfl⟩
        exact ⟨hlength, .more ha h⟩
      · rintro ⟨hlength, h⟩
        generalize hw : b.take (n + 1) = w at h
        cases h with
        | last _ => simp_all
        | more ha h =>
          obtain ⟨hends, rfl⟩ := ih.2 ⟨hlength, hw.symm ▸ h⟩
          exact ⟨⟨ha, hends⟩, by rw [hw]⟩

/-! ## What a width does not hold -/

theorem maxLength_of_pos (h : 0 < room) : maxLength room = maxLength (room - 7) + 1 := by
  rw [maxLength, maxLength]
  omega

/-- A number exceeds a width in its first byte or, if it goes on, what is left of the width in what
is left of the bytes. -/
theorem exceeds_cons (hroom : 0 < room) :
    Exceeds room (a :: b) ↔
      capacity room ≤ a.toNat % 128 ∨ 128 ≤ a.toNat ∧ Exceeds (room - 7) b := by
  have hsplit {i : Nat} (hi : i < maxLength (room - 7)) (k : Nat) :
      capacity room ≤ k * 128 ^ (i + 1) ↔ capacity (room - 7) ≤ k * 128 ^ i := by
    have hseven : 7 ≤ room := by
      rw [maxLength] at hi
      omega
    have hcapacity : capacity room = capacity (room - 7) * 128 := by
      rw [show (128 : Nat) = capacity 7 from rfl, ← capacity_add, Nat.sub_add_cancel hseven]
    rw [hcapacity, Nat.pow_succ, ← Nat.mul_assoc]
    exact Nat.mul_le_mul_right_iff (by decide)
  constructor
  · rintro ⟨i, hi, hcontinues, c, hc, hlarge⟩
    cases i with
    | zero =>
      obtain rfl : a = c := by simpa using hc
      exact .inl (by simpa using hlarge)
    | succ i =>
      rw [maxLength_of_pos hroom, Nat.succ_lt_succ_iff] at hi
      obtain ⟨ha, hcontinues⟩ := continues_cons_succ.1 hcontinues
      exact .inr ⟨ha, i, hi, hcontinues, c, by simpa using hc, (hsplit hi _).1 hlarge⟩
  · rintro (hlarge | ⟨ha, i, hi, hcontinues, c, hc, hlarge⟩)
    · refine ⟨0, ?_, continues_zero _, a, rfl, by simpa using hlarge⟩
      rw [maxLength_of_pos hroom]
      exact Nat.succ_pos _
    · refine ⟨i + 1, ?_, continues_cons_succ.2 ⟨ha, hcontinues⟩, c, by simpa using hc,
        (hsplit hi _).2 hlarge⟩
      rw [maxLength_of_pos hroom]
      exact Nat.succ_lt_succ hi

theorem overlong_cons (hroom : 0 < room) :
    Overlong room (a :: b) ↔ 128 ≤ a.toNat ∧ Overlong (room - 7) b := by
  rw [Overlong, Overlong, maxLength_of_pos hroom, continues_cons_succ, List.length_cons,
    Nat.succ_lt_succ_iff, and_assoc]

/-- **A number is refused exactly if the width does not hold it.** -/
theorem decodeFrom_eq_overflow_iff :
    decodeFrom bits room b = .error (.varintOverflow bits) ↔ Exceeds room b ∨ Overlong room b := by
  induction b generalizing room with
  | nil => simp [decodeFrom, Exceeds, Overlong]
  | cons a b ih =>
    by_cases hroom : room = 0
    · subst hroom
      simp [decodeFrom, Overlong, maxLength, continues_zero]
    have hpos := Nat.pos_of_ne_zero hroom
    rw [decodeFrom, if_neg hroom, exceeds_cons hpos, overlong_cons hpos]
    by_cases hgroup : a.toNat % 128 < capacity room
    · have hfits : ¬ capacity room ≤ a.toNat % 128 := Nat.not_le.2 hgroup
      rw [dif_pos hgroup]
      by_cases ha : a.toNat < 128
      · have hlast : ¬ 128 ≤ a.toNat := Nat.not_le.2 ha
        simp [ha, hfits, hlast]
      · have hmore : 128 ≤ a.toNat := Nat.not_lt.1 ha
        rw [if_neg ha]
        simp only [hfits, hmore, true_and, false_or, ← ih]
        cases decodeFrom bits (room - 7) b <;> simp
    · have hlarge : capacity room ≤ a.toNat % 128 := Nat.not_lt.1 hgroup
      simp [hgroup, hlarge]

theorem decodeFrom_error {e : WireError} (h : decodeFrom bits room b = .error e) :
    e = .varintOverflow bits ∨ e = .unexpectedEnd := by
  induction b generalizing room with
  | nil =>
    cases h
    exact .inr rfl
  | cons a b ih =>
    rw [decodeFrom] at h
    split_ifs at h with hroom hgroup ha
    · exact .inl (Except.error.inj h).symm
    · cases hrest : decodeFrom bits (room - 7) b with
      | error e' =>
        rw [hrest] at h
        cases h
        exact ih hrest
      | ok p =>
        rw [hrest] at h
        cases h
    · exact .inl (Except.error.inj h).symm

/-! ## The reader in words of a fixed size -/

/-- A number, if a word of some size holds it. -/
def word (size n : Nat) : Option Nat := if n < capacity size then some n else none

/-- A difference, if it is not negative. -/
def minus (m n : Nat) : Option Nat := if n ≤ m then some (m - n) else none

/-- A word shifted up, if it is shifted by less than its size and loses no bit. -/
def shiftedUp (size n amount : Nat) : Option Nat :=
  if amount < size then word size (n <<< amount) else none

/-- A word shifted down, if it is shifted by less than its size. -/
def shiftedDown (size n amount : Nat) : Option Nat :=
  if amount < size then some (n >>> amount) else none

/-- Whether a group that is shifted has bits that are none of the width. -/
def reachesPast (bits shift group : Nat) : Option Bool := do
  if bits < (← word 32 (shift + 7)) then return (← shiftedDown 128 group (← minus bits shift)) != 0
  else return false

/-- The number and how many bytes it takes, read in a loop that counts in words of 32 bits and
collects in one of 128; none where a word is too small. -/
def loop (bits : Nat) : (index value : Nat) → Bytes → Option (Except WireError (Nat × Nat))
  | _, _, [] => some (.error .unexpectedEnd)
  | index, value, a :: rest =>
    if maxLength bits ≤ index then some (.error (.varintOverflow bits))
    else do
      let shift ← word 32 (7 * (← word 32 index))
      let group := a.toNat &&& 127
      if ← reachesPast bits shift group then return .error (.varintOverflow bits)
      let value := value ||| (← shiftedUp 128 group shift)
      if a.toNat &&& 128 = 0 then return .ok (value, index + 1)
      else loop bits (index + 1) value rest

theorem word_of_lt {size n : Nat} (h : n < capacity size) : word size n = some n := if_pos h

theorem reachesPast_eq {shift group : Nat} (hbits : bits ≤ 128) (hshift : shift < bits)
    (hgroup : group < 128) :
    reachesPast bits shift group = some (decide (capacity (bits - shift) ≤ group)) := by
  have hword : shift + 7 < capacity 32 :=
    Nat.lt_of_le_of_lt (by omega) (show 135 < capacity 32 by decide)
  rw [reachesPast, word_of_lt hword]
  by_cases hcut : bits < shift + 7
  · have hminus : minus bits shift = some (bits - shift) := if_pos (Nat.le_of_lt hshift)
    have hdown : shiftedDown 128 group (bits - shift) = some (group >>> (bits - shift)) :=
      if_pos (by omega)
    have hnonzero : (group >>> (bits - shift) != 0) = decide (capacity (bits - shift) ≤ group) := by
      rw [Nat.shiftRight_eq_div_pow, Bool.eq_iff_iff, bne_iff_ne, decide_eq_true_iff, Ne,
        Nat.div_eq_zero_iff, not_or, Nat.not_lt]
      exact and_iff_right (Nat.ne_of_gt (capacity_pos _))
    simp [hcut, hminus, hdown, hnonzero]
  · -- all seven bits are inside the width
    have hwide : capacity 7 ≤ capacity (bits - shift) :=
      Nat.pow_le_pow_right (by decide) (by omega)
    have hinside : ¬ capacity (bits - shift) ≤ group :=
      Nat.not_le.2 (Nat.lt_of_lt_of_le hgroup hwide)
    simp [hcut, hinside]

/-- A group of the width is shifted up without a loss. -/
theorem shiftedUp_eq {shift group : Nat} (hbits : bits ≤ 128) (hshift : shift < bits)
    (hgroup : group < capacity (bits - shift)) :
    shiftedUp 128 group shift = some (group * capacity shift) := by
  have hlt : group * capacity shift < capacity 128 := calc
    group * capacity shift < capacity (bits - shift) * capacity shift :=
      Nat.mul_lt_mul_of_pos_right hgroup (capacity_pos _)
    _ = capacity bits := by rw [← capacity_add, Nat.sub_add_cancel (Nat.le_of_lt hshift)]
    _ ≤ capacity 128 := Nat.pow_le_pow_right (by decide) hbits
  rw [shiftedUp, if_pos (Nat.lt_of_lt_of_le hshift hbits), Nat.shiftLeft_eq]
  exact word_of_lt hlt

theorem toNat_and_high_eq_zero_iff (a : UInt8) : a.toNat &&& 128 = 0 ↔ a.toNat < 128 := by
  have hbyte := a.toNat_lt
  have hhigh : a.toNat &&& 128 = (a.toNat.testBit 7).toNat * 128 := Nat.and_two_pow a.toNat 7
  rw [hhigh, Nat.testBit_eq_decide_div_mod_eq]
  by_cases ha : a.toNat < 128
  · have hdiv : a.toNat / 128 % 2 = 0 := by omega
    simp [ha, hdiv]
  · have hdiv : a.toNat / 128 % 2 = 1 := by omega
    simp [ha, hdiv]

/-- A group goes on top of the groups that have been read, and leaves room for the next. -/
theorem joined {shift group value : Nat} (hvalue : value < capacity shift) (hgroup : group < 128) :
    value ||| group * capacity shift = value + group * capacity shift ∧
      value + group * capacity shift < capacity (shift + 7) := by
  constructor
  · rw [Nat.or_comm, Nat.add_comm, Nat.mul_comm]
    exact (Nat.two_pow_add_eq_or_of_lt hvalue group).symm
  · calc value + group * capacity shift
      _ < capacity shift + group * capacity shift := Nat.add_lt_add_right hvalue _
      _ = (group + 1) * capacity shift := by rw [Nat.succ_mul, Nat.add_comm]
      _ ≤ capacity 7 * capacity shift := Nat.mul_le_mul_right _ hgroup
      _ = capacity (shift + 7) := by rw [Nat.mul_comm, capacity_add]

/-- **Reading in words comes to the same**, and no word is ever too small for what is put in it. -/
theorem loop_eq_decodeFrom {index value : Nat} (hbits : bits ≤ 128)
    (hindex : index ≤ maxLength bits) (hvalue : value < capacity (7 * index)) :
    loop bits index value b = some ((decodeFrom bits (bits - 7 * index) b).map fun p ↦
      (value + p.1.val * capacity (7 * index), index + (b.length - p.2.length))) := by
  induction b generalizing index value with
  | nil => rfl
  | cons a b ih =>
    rw [loop, decodeFrom]
    by_cases hend : maxLength bits ≤ index
    · have hroom : bits - 7 * index = 0 := by
        rw [maxLength] at hend
        omega
      rw [if_pos hend, if_pos hroom]
      rfl
    have hshift : 7 * index < bits := by
      rw [maxLength] at hend
      omega
    have hgroup : a.toNat &&& 127 = a.toNat % 128 := Nat.and_two_pow_sub_one_eq_mod a.toNat 7
    have hmod : a.toNat % 128 < 128 := Nat.mod_lt _ (by decide)
    have hwords : word 32 index = some index ∧ word 32 (7 * index) = some (7 * index) := by
      have hsmall : 128 < capacity 32 := by decide
      exact ⟨word_of_lt (by omega), word_of_lt (by omega)⟩
    rw [if_neg hend, if_neg (Nat.sub_ne_zero_of_lt hshift), hwords.1, hgroup]
    simp only [Option.bind_eq_bind, Option.bind_some, hwords.2, reachesPast_eq hbits hshift hmod]
    by_cases hfits : a.toNat % 128 < capacity (bits - 7 * index)
    · obtain ⟨hor, hvalue'⟩ := joined hvalue hmod
      simp only [shiftedUp_eq hbits hshift hfits, Nat.not_le.2 hfits, hor, hfits, decide_false,
        Option.bind_some, Bool.false_eq_true, if_false, dif_pos, toNat_and_high_eq_zero_iff]
      by_cases ha : a.toNat < 128
      · simp [ha, Except.map]
      · rw [if_neg ha, if_neg ha, ih (Nat.not_le.1 hend) hvalue', Nat.mul_succ, Nat.sub_add_eq]
        cases hrest : decodeFrom bits (bits - 7 * index - 7) b with
        | error e => rfl
        | ok p =>
          obtain ⟨w, rfl, -, -⟩ := decodeFrom_eq_ok_iff.1 hrest
          refine congrArg (fun p ↦ some (Except.ok p)) (Prod.ext ?number ?count)
          case number =>
            show value + a.toNat % 128 * capacity (7 * index) +
                p.1.val * capacity (7 * index + 7) =
              value + (a.toNat % 128 + 128 * p.1.val) * capacity (7 * index)
            rw [capacity_add, show capacity 7 = 128 from rfl]
            ring
          case count =>
            show index + 1 + ((w ++ p.2).length - p.2.length) =
              index + ((w ++ p.2).length + 1 - p.2.length)
            rw [List.length_append]
            omega
    · simp [hfits, Nat.not_lt.1 hfits]
      rfl

/-! ## Readers of a width -/

/-- **A varint is accepted exactly if its width holds it.**  For every width from one bit to 128,
and for all bytes:

1. A number is read exactly if it ends within the bytes that the width has room for, and is the sum
   of its groups, which is what the width holds.  What follows it is left.
2. It is too large exactly if one of those bytes has a bit that is none of the width and none before
   it ends the number, or if all of them go on and there is another byte.
3. In all other cases the bytes end too early.
4. A loop over words of 32 and 128 bits comes to the same number and the same count of bytes: no
   product, sum, difference or shift in it is too large or negative, and no bit is lost.
5. Every number of the width is read back in front of any bytes, and what is written for it is
   shorter than all other bytes it is read from. -/
theorem readsWidth (bits : Nat) (hpos : 0 < bits) (hbits : bits ≤ 128) (b : Bytes) :
    (∀ v rest, decode bits b = .ok (v, rest) ↔ ∃ n < maxLength bits, EndsAt b n ∧
      v.val = valueOf (b.take (n + 1)) ∧ rest = b.drop (n + 1)) ∧
    (decode bits b = .error (.varintOverflow bits) ↔ Exceeds bits b ∨ Overlong bits b) ∧
    (decode bits b = .error .unexpectedEnd ↔
      (∀ v rest, decode bits b ≠ .ok (v, rest)) ∧ ¬ (Exceeds bits b ∨ Overlong bits b)) ∧
    loop bits 0 0 b =
      some ((decode bits b).map fun p ↦ (p.1.val, b.length - p.2.length)) ∧
    ∀ v : Unsigned bits, decode bits (encode v.val ++ b) = .ok (v, b) ∧
      ∀ rest, decode bits b = .ok (v, rest) →
        (encode v.val).length ≤ b.length ∧
          ((encode v.val).length = b.length → b = encode v.val) := by
  have hoverflow : decode bits b = .error (.varintOverflow bits) ↔
      Exceeds bits b ∨ Overlong bits b := decodeFrom_eq_overflow_iff
  refine ⟨fun v rest ↦ ?accepts, hoverflow, ?short, ?words, fun v ↦ ⟨?back, fun rest h ↦ ?shortest⟩⟩
  case accepts =>
    rw [decode_eq_ok_iff]
    constructor
    · rintro ⟨w, rfl, hw, hlength⟩
      obtain ⟨n, hn⟩ := Nat.exists_eq_add_of_lt hw.length_pos
      rw [Nat.zero_add] at hn
      have htake : (w ++ rest).take (n + 1) = w := by rw [← hn, List.take_left]
      have hdrop : (w ++ rest).drop (n + 1) = rest := by rw [← hn, List.drop_left]
      have hshort : n < (w ++ rest).length := by rw [List.length_append]; omega
      obtain ⟨hends, hvalue⟩ := spells_take_iff.2 ⟨hshort, htake.symm ▸ hw⟩
      exact ⟨n, by omega, hends, hvalue, hdrop.symm⟩
    · rintro ⟨n, hn, hends, hvalue, rfl⟩
      obtain ⟨hshort, hw⟩ := spells_take_iff.1 ⟨hends, hvalue⟩
      refine ⟨b.take (n + 1), (List.take_append_drop _ b).symm, hw, ?_⟩
      rw [List.length_take]
      omega
  case short =>
    rw [← hoverflow]
    cases h : decode bits b with
    | ok p => simpa using ⟨p.1, p.2, rfl⟩
    | error e => rcases decodeFrom_error h with rfl | rfl <;> simp
  case words =>
    have h := loop_eq_decodeFrom (b := b) hbits (Nat.zero_le (maxLength bits)) (capacity_pos 0)
    simpa [capacity, decode] using h
  case back =>
    exact decode_eq_ok_iff.2
      ⟨_, rfl, spells_encode _, length_encode_le_maxLength hpos v.isLt⟩
  case shortest =>
    obtain ⟨w, rfl, hw, -⟩ := decode_eq_ok_iff.1 h
    have hle := hw.length_encode_le
    rw [List.length_append]
    refine ⟨by omega, fun heq ↦ ?_⟩
    obtain rfl : rest = [] := List.eq_nil_of_length_eq_zero (by omega)
    have hlength : w.length = (encode v.val).length := by simpa using heq.symm
    rw [List.append_nil, hw.eq_of_length (spells_encode _) hlength]

/-- The second group of nine bits has two of them: 511 is read, a number with a third bit there is
not, and neither is one with a third group, although that is zero. -/
theorem readsWidth_nine :
    0 < 9 ∧ 9 ≤ 128 ∧
      decode 9 [255, 3, 7] = .ok (⟨511, by decide⟩, [7]) ∧
      loop 9 0 0 [255, 3, 7] = some (.ok (511, 2)) ∧
      decode 9 [255, 4] = .error (.varintOverflow 9) ∧
      decode 9 [255, 131, 0] = .error (.varintOverflow 9) := by
  have hread (b : Bytes) := readsWidth 9 (by decide) (by decide) b
  have hone (b : Bytes) : Continues (255 :: b) 1 :=
    continues_cons_succ.2 ⟨by decide, continues_zero _⟩
  have hnumber : decode 9 [255, 3, 7] = .ok (⟨511, by decide⟩, [7]) :=
    ((hread _).1 _ _).2 ⟨1, by decide, ⟨hone _, 3, rfl, by decide⟩, by decide, rfl⟩
  refine ⟨by decide, by decide, hnumber, ?_, ?_, ?_⟩
  · rw [(hread _).2.2.2.1, hnumber]
    rfl
  · exact (hread _).2.1.2 (.inl ⟨1, by decide, hone _, 4, rfl, by decide⟩)
  · exact (hread _).2.1.2 (.inr
      ⟨continues_cons_succ.2 ⟨by decide, continues_cons_succ.2 ⟨by decide, continues_zero _⟩⟩,
        by decide⟩)

end SourceHost.Varint
