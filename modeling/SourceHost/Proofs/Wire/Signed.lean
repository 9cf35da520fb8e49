import Mathlib.Data.Set.Function
import SourceHost.Proofs.Wire.Reading

/-!
# Signed numbers of a width

`Varint.zigzag` and `Varint.unzigzag` are said of numbers of any size.  Here they are computed in
words: a number of up to 64 bits is folded in a word of 64, whatever its width, while the one that
is read back has been read at its width, is unfolded in a word of 64 and must then be made narrower.
The two ways meet at every number of the width, and nothing that has been read is too large for it.

* `folded`, `unfolded` — folding by shifts, and `toNat_folded`, `toInt_unfolded`: what it comes to.
* `takeSigned`, `takeUnsigned` — the readers of a width, with every place at which a number could be
  refused for its size.
* `signedWidth` — the numbers of a width are those that are read at it, each from one value.
-/

set_option autoImplicit false

namespace SourceHost

/-- How many bits the words have in which a signed number of a width is folded. -/
def Width.wordSize : Width → Nat
  | w16 | w32 | w64 => 64
  | w128 => 128

theorem Width.bits_le_wordSize (w : Width) : w.bits ≤ w.wordSize := by cases w <;> decide

theorem Width.wordSize_pos (w : Width) : 0 < w.wordSize := by cases w <;> decide

/-- The number that a word in two's complement holds. -/
def Signed.ofWord {bits : Nat} (x : BitVec bits) : Signed bits where
  val := x.toInt
  le_val := by simpa [capacity] using x.le_toInt
  val_lt := by simpa [capacity] using x.toInt_lt

namespace Varint

variable {bits size : Nat}

/-! ## Folding in words -/

/-- A word, shifted up by a bit and flipped where it is negative. -/
def folded (x : BitVec size) : BitVec size := x <<< 1 ^^^ x.sshiftRight (size - 1)

/-- A word, shifted down by a bit and flipped where that bit is set. -/
def unfolded (x : BitVec size) : BitVec size := x >>> 1 ^^^ -(x &&& .ofNat size 1)

/-- A word in two's complement stands for what it would without a sign, or for that less all that
its bits can tell apart. -/
theorem toInt_cases (x : BitVec size) :
    (2 * x.toNat < capacity size ∧ x.toInt = x.toNat) ∨
      (capacity size ≤ 2 * x.toNat ∧ x.toInt = x.toNat - (capacity size : Int)) := by
  rcases Nat.lt_or_ge (2 * x.toNat) (capacity size) with hsmall | hlarge
  · exact .inl ⟨hsmall, x.toInt_eq_toNat_cond.trans (if_pos hsmall)⟩
  · exact .inr ⟨hlarge, x.toInt_eq_toNat_cond.trans (if_neg (Nat.not_lt.2 hlarge))⟩

/-- Nothing but the sign is left of a word that is shifted down by all other bits. -/
theorem sshiftRight_sign (hsize : 0 < size) (x : BitVec size) :
    x.sshiftRight (size - 1) = if x.toInt < 0 then BitVec.allOnes size else .ofNat size 0 := by
  have hle := x.le_toInt
  have hlt := x.toInt_lt
  apply BitVec.eq_of_toInt_eq
  rw [BitVec.toInt_sshiftRight, Int.shiftRight_eq_div_pow]
  split
  · rw [BitVec.toInt_allOnes, if_pos hsize,
      Int.ediv_eq_iff_of_pos (by exact_mod_cast Nat.two_pow_pos _)]
    push_cast
    omega
  · rw [BitVec.toInt_zero]
    exact Int.ediv_eq_zero_of_lt (by omega) (by exact_mod_cast hlt)

theorem toNat_folded (hsize : 0 < size) (x : BitVec size) :
    (folded x).toNat = zigzag x.toInt := by
  have hlt : x.toNat < capacity size := x.isLt
  have hshift : (x <<< 1).toNat = 2 * x.toNat % capacity size := by
    rw [BitVec.toNat_shiftLeft, Nat.shiftLeft_eq, Nat.pow_one, Nat.mul_comm]
    rfl
  rw [folded, zigzag, sshiftRight_sign hsize]
  rcases toInt_cases x with ⟨hsmall, hint⟩ | ⟨hlarge, hint⟩
  · rw [if_neg (by omega), if_pos (by omega), BitVec.xor_zero, hshift, Nat.mod_eq_of_lt hsmall]
    omega
  · -- the bit that is shifted out is the sign
    have hover : 2 * x.toNat % capacity size = 2 * x.toNat - capacity size := by
      rw [Nat.mod_eq_sub_mod hlarge, Nat.mod_eq_of_lt (by omega)]
    rw [if_pos (by omega), if_neg (by omega), BitVec.xor_allOnes, BitVec.toNat_not, hshift, hover]
    show capacity size - 1 - (2 * x.toNat - capacity size) = 2 * (-x.toInt).toNat - 1
    omega

theorem toInt_unfolded (hsize : 0 < size) (x : BitVec size) :
    (unfolded x).toInt = unzigzag x.toNat := by
  have hlt : x.toNat < capacity size := x.isLt
  have hone : (BitVec.ofNat size 1).toNat = 1 := Nat.mod_eq_of_lt (Nat.one_lt_two_pow hsize.ne')
  have hbit : (x &&& .ofNat size 1).toNat = x.toNat % 2 := by
    rw [BitVec.toNat_and, hone, Nat.and_one_is_mod]
  have hhalf : (x >>> 1).toNat = x.toNat / 2 := by
    rw [BitVec.toNat_ushiftRight, Nat.shiftRight_eq_div_pow, Nat.pow_one]
  rw [unfolded, unzigzag]
  split
  · rename_i heven
    have hzero : x &&& .ofNat size 1 = .ofNat size 0 :=
      BitVec.eq_of_toNat_eq (by rw [hbit, heven]; rfl)
    rw [hzero, BitVec.neg_zero, BitVec.xor_zero]
    have hcases := toInt_cases (x >>> 1)
    omega
  · have hodd : x &&& .ofNat size 1 = .ofNat size 1 :=
      BitVec.eq_of_toNat_eq (by rw [hbit, hone]; omega)
    have hnot : (~~~(x >>> 1)).toNat = capacity size - 1 - x.toNat / 2 := by
      rw [BitVec.toNat_not, hhalf]
      rfl
    rw [hodd, BitVec.neg_one_eq_allOnes, BitVec.xor_allOnes]
    have hcases := toInt_cases (~~~(x >>> 1))
    omega

/-! ## Writing and reading in words -/

/-- The number that a word makes of a natural number that has been read. -/
def unfoldedIn (size n : Nat) : Int := (unfolded (BitVec.ofNat size n)).toInt

/-- The bytes of a number, folded in a word. -/
def writeSigned (w : Width) (i : Signed w.bits) : Bytes :=
  encode (folded (BitVec.ofInt w.wordSize i.val)).toNat

/-- A natural number as one of a width, if it is one. -/
def narrowUnsigned (bits n : Nat) : Option (Unsigned bits) :=
  if h : n < capacity bits then some ⟨n, h⟩ else none

/-- An integer as one of a width, if it is one. -/
def narrowSigned (bits : Nat) (i : Int) : Option (Signed bits) :=
  if -(capacity (bits - 1) : Int) ≤ i ∧ i < capacity (bits - 1) then some (.ofInt bits i) else none

/-- What a reader returns of a number that has been made narrower. -/
def fitted {α : Type} (bits : Nat) (rest : Bytes) : Option α → Except WireError (α × Bytes)
  | some a => .ok (a, rest)
  | none => .error (.varintOverflow bits)

/-- A natural number that is read and then made narrower. -/
def takeNarrowed (bits : Nat) (b : Bytes) : Except WireError (Unsigned bits × Bytes) := do
  let (n, rest) ← decode bits b
  fitted bits rest (narrowUnsigned bits n.val)

/-- An integer that is read, unfolded in a word of 64 bits and then made narrower. -/
def takeFolded (bits : Nat) (b : Bytes) : Except WireError (Signed bits × Bytes) := do
  let (n, rest) ← decode bits b
  fitted bits rest (narrowSigned bits (unfoldedIn 64 n.val))

/-- An integer that is read and unfolded in a word of its own width. -/
def takeWord (read : Bytes → Except WireError (Unsigned bits × Bytes)) (b : Bytes) :
    Except WireError (Signed bits × Bytes) := do
  let (n, rest) ← read b
  return (.ofWord (unfolded (BitVec.ofNat bits n.val)), rest)

/-- The reader of natural numbers of a width.  Those of 128 bits are as wide as what is read. -/
def takeUnsigned : (w : Width) → Bytes → Except WireError (Unsigned w.bits × Bytes)
  | .w16, b => takeNarrowed 16 b
  | .w32, b => takeNarrowed 32 b
  | .w64, b => takeNarrowed 64 b
  | .w128, b => decode 128 b

/-- The reader of integers of a width.  Those of 64 and 128 bits are as wide as the word they are
unfolded in. -/
def takeSigned : (w : Width) → Bytes → Except WireError (Signed w.bits × Bytes)
  | .w16, b => takeFolded 16 b
  | .w32, b => takeFolded 32 b
  | .w64, b => takeWord (takeNarrowed 64) b
  | .w128, b => takeWord (decode 128) b

/-! ## What they come to -/

theorem unfoldedIn_eq {n : Nat} (hsize : 0 < size) (hn : n < capacity size) :
    unfoldedIn size n = unzigzag n := by
  rw [unfoldedIn, toInt_unfolded hsize, BitVec.toNat_ofNat]
  exact congrArg unzigzag (Nat.mod_eq_of_lt hn)

/-- A number of a width is folded without a loss. -/
theorem writeSigned_eq (w : Width) (i : Signed w.bits) :
    writeSigned w i = encode (zigzag i.val) := by
  have hwide : capacity (w.bits - 1) ≤ capacity (w.wordSize - 1) :=
    Nat.pow_le_pow_right (by decide) (Nat.sub_le_sub_right w.bits_le_wordSize 1)
  have hlow : -2 ^ (w.wordSize - 1) ≤ i.val := by
    have h := i.le_val
    have hcast : (capacity (w.wordSize - 1) : Int) = 2 ^ (w.wordSize - 1) := by simp [capacity]
    omega
  have hhigh : i.val < 2 ^ (w.wordSize - 1) := by
    have h := i.val_lt
    have hcast : (capacity (w.wordSize - 1) : Int) = 2 ^ (w.wordSize - 1) := by simp [capacity]
    omega
  rw [writeSigned, toNat_folded w.wordSize_pos,
    BitVec.toInt_ofInt_eq_self w.wordSize_pos hlow hhigh]

/-- A number that has been read at a width is not too large for it. -/
theorem narrowUnsigned_val (n : Unsigned bits) : narrowUnsigned bits n.val = some n :=
  dif_pos n.isLt

/-- Nor is what it stands for. -/
theorem narrowSigned_unfoldedIn (hbits : 0 < bits) (hle : bits ≤ size) (n : Unsigned bits) :
    narrowSigned bits (unfoldedIn size n.val) = some (unzigzagWide hbits n) := by
  have hn : n.val < capacity size :=
    Nat.lt_of_lt_of_le n.isLt (Nat.pow_le_pow_right (by decide) hle)
  rw [unfoldedIn_eq (Nat.lt_of_lt_of_le hbits hle) hn]
  have hbounds := unzigzag_bounds hbits n.isLt
  rw [narrowSigned, if_pos hbounds]
  exact congrArg some (Signed.ext_val (Signed.val_ofInt hbounds.1 hbounds.2))

theorem ofWord_unfolded (hbits : 0 < bits) (n : Unsigned bits) :
    Signed.ofWord (unfolded (BitVec.ofNat bits n.val)) = unzigzagWide hbits n :=
  Signed.ext_val (unfoldedIn_eq hbits n.isLt)

theorem takeNarrowed_eq : takeNarrowed bits = decode bits := by
  funext b
  rw [takeNarrowed]
  simp only [narrowUnsigned_val, fitted]
  cases decode bits b <;> rfl

theorem takeFolded_eq (hbits : 0 < bits) (hle : bits ≤ 64) (b : Bytes) :
    takeFolded bits b = do
      let (n, rest) ← decode bits b
      return (unzigzagWide hbits n, rest) := by
  rw [takeFolded]
  simp only [narrowSigned_unfoldedIn hbits hle]
  rfl

theorem takeWord_eq (hbits : 0 < bits) (b : Bytes) :
    takeWord (decode bits) b = do
      let (n, rest) ← decode bits b
      return (unzigzagWide hbits n, rest) := by
  rw [takeWord]
  simp only [ofWord_unfolded hbits]

theorem takeUnsigned_eq (w : Width) (b : Bytes) : takeUnsigned w b = decode w.bits b := by
  cases w with
  | w16 | w32 | w64 => exact congrFun takeNarrowed_eq b
  | w128 => rfl

/-- **The reader of integers in words is the reader of their shape.** -/
theorem takeSigned_eq (w : Width) (b : Bytes) : takeSigned w b = (Shape.signed w).take b := by
  cases w with
  | w16 | w32 => exact takeFolded_eq (by decide) (by decide) b
  | w64 =>
    rw [takeSigned, takeNarrowed_eq]
    exact takeWord_eq (by decide) b
  | w128 => exact takeWord_eq (by decide) b

/-! ## The numbers of a width -/

theorem bijOn_unfoldedIn (hbits : 0 < bits) (hle : bits ≤ size) :
    Set.BijOn (unfoldedIn size) {n | n < capacity bits}
      {i | -(capacity (bits - 1) : Int) ≤ i ∧ i < capacity (bits - 1)} := by
  have hunfolded {n : Nat} (hn : n < capacity bits) : unfoldedIn size n = unzigzag n :=
    unfoldedIn_eq (Nat.lt_of_lt_of_le hbits hle)
      (Nat.lt_of_lt_of_le hn (Nat.pow_le_pow_right (by decide) hle))
  have hfolded {i : Int} (hi : -(capacity (bits - 1) : Int) ≤ i ∧ i < capacity (bits - 1)) :
      zigzag i < capacity bits := (zigzag_lt_iff hbits).2 hi
  have hleft : Set.LeftInvOn zigzag (unfoldedIn size) {n | n < capacity bits} := fun n hn ↦ by
    rw [hunfolded hn, zigzag_unzigzag]
  have hright : Set.RightInvOn zigzag (unfoldedIn size)
      {i | -(capacity (bits - 1) : Int) ≤ i ∧ i < capacity (bits - 1)} := fun i hi ↦ by
    rw [hunfolded (hfolded hi), unzigzag_zigzag]
  refine Set.InvOn.bijOn ⟨hleft, hright⟩ (fun n hn ↦ ?_) fun i ↦ hfolded
  rw [hunfolded hn]
  exact unzigzag_bounds hbits hn

/-- **A width holds exactly the integers that are read at it.**  For each of the four widths:

1. What is written for an integer is its shape's, and it is read back in front of any bytes.
2. The readers that check every number for its size are the readers of their shapes, which check
   none.
3. A varint that the width accepts is a natural number and an integer of the width: no check of the
   size of either ever refuses it.
4. Unfolding makes of each natural number below `2 ^ bits` an integer from `-2 ^ (bits - 1)` up to
   `2 ^ (bits - 1)`, of no two of them the same one, and each such integer of one of them.
5. An integer takes at most `k` bytes exactly if it lies from `-2 ^ (7 * k - 1)` up to
   `2 ^ (7 * k - 1)`, for every `k` but zero: there is no integer of no bytes. -/
theorem signedWidth (w : Width) :
    (∀ (i : Signed w.bits) (rest : Bytes), (Shape.signed w).encode i = .ok (writeSigned w i) ∧
      takeSigned w (writeSigned w i ++ rest) = .ok (i, rest)) ∧
    (∀ b, takeSigned w b = (Shape.signed w).take b ∧
      takeUnsigned w b = (Shape.unsigned w).take b) ∧
    (∀ b n rest, decode w.bits b = .ok (n, rest) →
      takeUnsigned w b = .ok (n, rest) ∧ narrowUnsigned w.bits n.val = some n ∧
      ∃ i, takeSigned w b = .ok (i, rest) ∧
        narrowSigned w.bits (unfoldedIn w.wordSize n.val) = some i) ∧
    Set.BijOn (unfoldedIn w.wordSize) {n | n < capacity w.bits}
      {i | -(capacity (w.bits - 1) : Int) ≤ i ∧ i < capacity (w.bits - 1)} ∧
    ∀ (i : Signed w.bits) (k : Nat), (writeSigned w i).length ≤ k ↔
      0 < k ∧ -(capacity (7 * k - 1) : Int) ≤ i.val ∧ i.val < capacity (7 * k - 1) := by
  refine ⟨fun i rest ↦ ⟨?written, ?back⟩, fun b ↦ ⟨takeSigned_eq w b, takeUnsigned_eq w b⟩,
    fun b n rest h ↦ ⟨?natural, narrowUnsigned_val n, unzigzagWide w.bits_pos n, ?integer, ?fits⟩,
    bijOn_unfoldedIn w.bits_pos w.bits_le_wordSize, fun i k ↦ ?length⟩
  case written => rw [writeSigned_eq, Shape.encode]
  case back =>
    rw [takeSigned_eq, Shape.take_eq_ok_iff, writeSigned_eq]
    have hlt := zigzag_lt w.bits_pos i
    exact ⟨_, rfl, trivial, spells_encode _, hlt, length_encode_le_maxLength w.bits_pos hlt⟩
  case natural => rw [takeUnsigned_eq, h]
  case integer =>
    rw [takeSigned_eq, Shape.take, h]
    rfl
  case fits => exact narrowSigned_unfoldedIn w.bits_pos w.bits_le_wordSize n
  case length =>
    rw [writeSigned_eq, length_encode_le_iff]
    exact and_congr_right fun hk ↦ zigzag_lt_iff (by omega)

/-- The least integer of 16 bits takes the three bytes that the width has at most, and is what the
largest natural number of 16 bits stands for. -/
theorem signedWidth_least :
    let least : Signed 16 := ⟨-32768, by decide, by decide⟩
    decode 16 [255, 255, 3, 9] = .ok (⟨65535, by decide⟩, [9]) ∧
      takeSigned .w16 [255, 255, 3, 9] = .ok (least, [9]) ∧
      (writeSigned .w16 least).length ≤ 3 ∧ ¬ (writeSigned .w16 least).length ≤ 2 := by
  intro least
  have h := signedWidth .w16
  have hnumber : decode 16 [255, 255, 3, 9] = .ok (⟨65535, by decide⟩, [9]) := rfl
  obtain ⟨-, -, i, htake, hfits⟩ := h.2.2.1 _ _ _ hnumber
  have hleast : narrowSigned 16 (unfoldedIn 64 65535) = some least := by decide
  obtain rfl : i = least := Option.some.inj (hfits.symm.trans hleast)
  refine ⟨hnumber, htake, ?_, ?_⟩
  · exact (h.2.2.2.2 least 3).2 (by decide)
  · exact fun hshort ↦ absurd ((h.2.2.2.2 least 2).1 hshort) (by decide)

end Varint

end SourceHost
