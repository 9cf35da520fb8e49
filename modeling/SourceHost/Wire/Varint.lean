import SourceHost.Bytes
import SourceHost.Wire.Error

/-!
# Varints

A natural number of any size is written seven bits to a byte, the least significant group first,
with the high bit set on every byte but the last.  Signed numbers are folded onto the naturals
first, so that small magnitudes stay short: `0, -1, 1, -2, 2, …` become `0, 1, 2, 3, 4, …`.

`Varint.decode` reads a number of a known width.  A group that reaches past the width is refused
at the byte that carries it, and so is a byte that follows once every group of the width has been
read; a zero group inside the width is not, so a number has padded forms beside its shortest one.
-/

set_option autoImplicit false

namespace SourceHost.Varint

/-- How many bytes a number of `bits` bits can take. -/
def maxLength (bits : Nat) : Nat := (bits + 6) / 7

/-- The shortest form of `n`. -/
def encode (n : Nat) : Bytes :=
  if n < 128 then [UInt8.ofNat n] else UInt8.ofNat (n % 128 + 128) :: encode (n / 128)
termination_by n
decreasing_by omega

/-- A group below and the groups above it still fit when the groups above had the rest of the
room. -/
theorem group_lt {room group high : Nat} (hg : group < capacity room) (h128 : group < 128)
    (hh : high < capacity (room - 7)) : group + 128 * high < capacity room := by
  rcases Nat.lt_or_ge room 7 with hr | hr
  · have : high = 0 := by
      rw [show room - 7 = 0 by omega] at hh
      exact Nat.lt_one_iff.1 hh
    omega
  · have hsplit : capacity room = 128 * capacity (room - 7) := by
      rw [show (128 : Nat) = capacity 7 from rfl, ← capacity_add, Nat.add_sub_cancel' hr]
    omega

/-- The number at the front of the bytes when `room` of its `bits` bits are still to come, and the
bytes after it. -/
def decodeFrom (bits : Nat) : (room : Nat) → Bytes → Except WireError (Unsigned room × Bytes)
  | _, [] => .error .unexpectedEnd
  | room, a :: rest =>
    if room = 0 then .error (.varintOverflow bits)
    else if h : a.toNat % 128 < capacity room then
      if a.toNat < 128 then .ok (⟨a.toNat % 128, h⟩, rest)
      else match decodeFrom bits (room - 7) rest with
        | .error e => .error e
        | .ok (high, rest) =>
          .ok (⟨a.toNat % 128 + 128 * high.val,
            group_lt h (Nat.mod_lt _ (by decide)) high.isLt⟩, rest)
    else .error (.varintOverflow bits)

/-- The number of `bits` bits at the front of the bytes, and the bytes after it. -/
def decode (bits : Nat) (b : Bytes) : Except WireError (Unsigned bits × Bytes) :=
  decodeFrom bits bits b

/-! ## Signed numbers -/

/-- The natural number that stands for `i`. -/
def zigzag (i : Int) : Nat := if 0 ≤ i then 2 * i.toNat else 2 * (-i).toNat - 1

/-- The integer that `n` stands for. -/
def unzigzag (n : Nat) : Int := if n % 2 = 0 then (n / 2 : Nat) else -((n / 2 : Nat) + 1 : Int)

theorem unzigzag_zigzag (i : Int) : unzigzag (zigzag i) = i := by
  unfold unzigzag zigzag
  split <;> split <;> omega

theorem zigzag_unzigzag (n : Nat) : zigzag (unzigzag n) = n := by
  unfold unzigzag zigzag
  split <;> split <;> omega

theorem unzigzag_bounds {bits n : Nat} (h : 0 < bits) (hn : n < capacity bits) :
    -(capacity (bits - 1) : Int) ≤ unzigzag n ∧ unzigzag n < capacity (bits - 1) := by
  have hp : capacity bits = 2 * capacity (bits - 1) := by
    rw [← capacity_succ, Nat.sub_add_cancel h]
  unfold unzigzag
  constructor <;> split <;> omega

/-- The integer a natural number of some width stands for has the same width. -/
def unzigzagWide {bits : Nat} (h : 0 < bits) (n : Unsigned bits) : Signed bits :=
  ⟨unzigzag n.val, (unzigzag_bounds h n.isLt).1, (unzigzag_bounds h n.isLt).2⟩

end SourceHost.Varint
