/-!
# Byte strings and whole numbers of a fixed width

Everything that crosses the boundary between the host and a guest is a list of bytes, and every
number in it has a width.  This module fixes the three types the rest of the library speaks in.

* `Bytes` — a list of `UInt8`.
* `capacity w` — how many numbers can be told apart in `w` bits.
* `Unsigned w` and `Signed w` — the whole numbers that fit in `w` bits, the second in two's
  complement.  The bound is part of the type, so a reader that returns one has already checked it.

`Bytes.littleEndian` and `Bytes.ofLittleEndian` lay a natural number out over a given number of
bytes, least significant first, and read it back.
-/

set_option autoImplicit false

namespace SourceHost

/-- A string of bytes. -/
abbrev Bytes := List UInt8

/-- How many numbers `bits` bits can tell apart: twice as many with every bit. -/
def capacity (bits : Nat) : Nat := Nat.pow 2 bits

theorem capacity_succ (bits : Nat) : capacity (bits + 1) = 2 * capacity bits :=
  Nat.mul_comm _ _

theorem capacity_pos (bits : Nat) : 0 < capacity bits := Nat.pow_pos (by decide)

theorem capacity_add (a b : Nat) : capacity (a + b) = capacity a * capacity b := Nat.pow_add 2 a b

/-- The natural numbers that fit in `bits` bits. -/
abbrev Unsigned (bits : Nat) := Fin (capacity bits)

/-- The 32 bits of a single-precision number.  Its arithmetic is never needed, only its identity. -/
abbrev Single := Unsigned 32

/-- The integers that two's complement can hold in `bits` bits. -/
structure Signed (bits : Nat) where
  /-- The number itself. -/
  val : Int
  /-- It is no smaller than the least number of this width. -/
  le_val : -(capacity (bits - 1) : Int) ≤ val
  /-- It is below the least number that needs another bit. -/
  val_lt : val < capacity (bits - 1)
deriving DecidableEq

namespace Unsigned

/-- Zero fits in every width. -/
def zero (bits : Nat) : Unsigned bits := ⟨0, capacity_pos bits⟩

/-- The number of this width with the same low bits. -/
def wrap (bits : Nat) (n : Nat) : Unsigned bits :=
  ⟨n % capacity bits, Nat.mod_lt _ (capacity_pos bits)⟩

theorem val_wrap_of_lt {bits n : Nat} (h : n < capacity bits) : (wrap bits n).val = n :=
  Nat.mod_eq_of_lt h

end Unsigned

namespace Signed

variable {bits : Nat}

theorem ext_val {a b : Signed bits} (h : a.val = b.val) : a = b := by
  cases a; cases b; simp_all

/-- Zero fits in every width. -/
def zero (bits : Nat) : Signed bits :=
  ⟨0, Int.neg_nonpos_of_nonneg (Int.natCast_nonneg _), Int.natCast_pos.2 (capacity_pos _)⟩

instance : Inhabited (Signed bits) := ⟨zero bits⟩

/-- The number `i`, or zero if this width does not hold it. -/
def ofInt (bits : Nat) (i : Int) : Signed bits :=
  if h : -(capacity (bits - 1) : Int) ≤ i ∧ i < capacity (bits - 1) then ⟨i, h.1, h.2⟩ else zero bits

theorem val_ofInt {i : Int} (h₁ : -(capacity (bits - 1) : Int) ≤ i) (h₂ : i < capacity (bits - 1)) :
    (ofInt bits i).val = i := by
  simp [ofInt, h₁, h₂]

end Signed

namespace Bytes

/-- The low `count` bytes of `n`, the least significant first. -/
def littleEndian : (count : Nat) → (n : Nat) → Bytes
  | 0, _ => []
  | count + 1, n => UInt8.ofNat (n % 256) :: littleEndian count (n / 256)

/-- The number whose bytes, the least significant first, are `b`. -/
def ofLittleEndian : (b : Bytes) → Nat
  | [] => 0
  | x :: rest => x.toNat + 256 * ofLittleEndian rest

theorem length_littleEndian (count n : Nat) : (littleEndian count n).length = count := by
  induction count generalizing n with
  | zero => rfl
  | succ count ih => simp [littleEndian, ih]

theorem ofLittleEndian_littleEndian {count n : Nat} (h : n < capacity (8 * count)) :
    ofLittleEndian (littleEndian count n) = n := by
  induction count generalizing n with
  | zero =>
    have : n = 0 := Nat.lt_one_iff.1 h
    simp [littleEndian, ofLittleEndian, this]
  | succ count ih =>
    have hsplit : capacity (8 * (count + 1)) = capacity (8 * count) * 256 := capacity_add _ 8
    have hdiv : n / 256 < capacity (8 * count) := by
      rwa [Nat.div_lt_iff_lt_mul (by decide), ← hsplit]
    have hmod : n % 256 % 2 ^ 8 = n % 256 := Nat.mod_eq_of_lt (Nat.mod_lt _ (by decide))
    simp only [littleEndian, ofLittleEndian, UInt8.toNat_ofNat', hmod, ih hdiv]
    omega

theorem ofLittleEndian_lt (b : Bytes) : ofLittleEndian b < capacity (8 * b.length) := by
  induction b with
  | nil => exact capacity_pos 0
  | cons x rest ih =>
    have hx := x.toNat_lt
    have hsplit : capacity (8 * (rest.length + 1)) = capacity (8 * rest.length) * 256 :=
      capacity_add _ 8
    simp only [ofLittleEndian, List.length_cons, hsplit]
    omega

theorem littleEndian_ofLittleEndian (b : Bytes) : littleEndian b.length (ofLittleEndian b) = b := by
  induction b with
  | nil => rfl
  | cons x rest ih =>
    have hx : x.toNat < 256 := x.toNat_lt
    have hmod : (x.toNat + 256 * ofLittleEndian rest) % 256 = x.toNat := by omega
    have hdiv : (x.toNat + 256 * ofLittleEndian rest) / 256 = ofLittleEndian rest := by omega
    rw [List.length_cons, littleEndian, ofLittleEndian, hmod, hdiv, ih, UInt8.ofNat_toNat]

end Bytes

end SourceHost
