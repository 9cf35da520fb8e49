import Mathlib.Data.List.Basic
import Mathlib.Tactic.SplitIfs
import SourceHost.Memory.Basic

/-!
# Reading and writing guest memory

Whatever is read of a memory is a stretch of its bytes, and whatever is written puts bytes in the
place of a stretch.  This file says so of each reader and writer, so that nothing else has to look
into the map of the bytes that have been written.

* `Memory.between`, `Memory.word` — the bytes from one address to another, and four as a number.
* `Memory.Holds` — some bytes stand at an address.
* `read_eq`, `readWord_eq` — what is read, when the place is in range.
* `byte_put`, `write_eq` — what is there when something has been written.
* `Overwrites` — a memory is another one with some bytes at an address.
* `integers_flatMap_integerBytes` — integers that have been written are read back.
-/

set_option autoImplicit false

namespace SourceHost.Memory

variable {m : Memory} {i j k : Nat} {a b : Bytes}

/-! ## Stretches of bytes -/

/-- The bytes from one address up to another. -/
def between (m : Memory) (i j : Nat) : Bytes := (List.range (j - i)).map fun k ↦ m.byte (i + k)

/-- The number of four bytes at an address. -/
def word (m : Memory) (i : Nat) : Nat := Bytes.ofLittleEndian (m.between i (i + 4))

/-- Some bytes stand at an address. -/
def Holds (m : Memory) (i : Nat) (b : Bytes) : Prop := m.between i (i + b.length) = b

theorem length_between (m : Memory) (i j : Nat) : (m.between i j).length = j - i := by
  simp [between]

theorem between_append (m : Memory) (hij : i ≤ j) (hjk : j ≤ k) :
    m.between i j ++ m.between j k = m.between i k := by
  have hsplit : k - i = (j - i) + (k - j) := by omega
  have hshift (n : Nat) : i + (j - i + n) = j + n := by omega
  rw [between, between, between, hsplit, List.range_add, List.map_append, List.map_map]
  simp only [Function.comp_def, hshift]

/-- One stretch stands where two stand that follow each other. -/
theorem holds_append : m.Holds i (a ++ b) ↔ m.Holds i a ∧ m.Holds (i + a.length) b := by
  rw [Holds, Holds, Holds, List.length_append, ← Nat.add_assoc,
    ← m.between_append (Nat.le_add_right i a.length) (Nat.le_add_right _ b.length)]
  refine ⟨fun h ↦ List.append_inj h ?_, fun ⟨ha, hb⟩ ↦ by rw [ha, hb]⟩
  rw [length_between, Nat.add_sub_cancel_left]

theorem word_of_holds {n : Nat} (h : m.Holds i (Bytes.littleEndian 4 n)) (hn : n < capacity 32) :
    m.word i = n := by
  rw [Holds, Bytes.length_littleEndian] at h
  rw [word, h, Bytes.ofLittleEndian_littleEndian hn]

/-! ## Reading -/

theorem read_eq (m : Memory) (offset length : Nat) :
    m.read offset length = if offset + length ≤ m.size then .ok (m.between offset (offset + length))
      else .error (.outOfBounds offset length m.size) := by
  rw [read, check, between, Nat.add_sub_cancel_left]
  split_ifs <;> rfl

theorem readWord_eq (m : Memory) (offset : Nat) :
    m.readWord offset = if offset + 4 ≤ m.size then .ok (m.word offset)
      else .error (.outOfBounds offset 4 m.size) := by
  rw [readWord, read_eq]
  split_ifs <;> rfl

/-! ## Writing -/

theorem size_put (m : Memory) (i : Nat) (b : Bytes) : (m.put i b).size = m.size := by
  induction b generalizing m i with
  | nil => rfl
  | cons x b ih => exact ih _ _

/-- Where bytes have been put they are, and elsewhere there is what there was. -/
theorem byte_put (m : Memory) (i : Nat) (b : Bytes) (k : Nat) :
    (m.put i b).byte k = if i ≤ k then b.getD (k - i) (m.byte k) else m.byte k := by
  induction b generalizing m i with
  | nil => simp [put]
  | cons x b ih =>
    have hinsert : Memory.byte { m with cells := m.cells.insert i x } k
        = if k = i then x else m.byte k := by
      rw [byte, byte, Std.ExtTreeMap.getElem?_insert]
      simp only [Std.compare_eq_iff_eq, @eq_comm _ i k]
      split <;> rfl
    rw [put, ih, hinsert]
    rcases Nat.lt_trichotomy k i with hlt | rfl | hlt
    · rw [if_neg (by omega), if_neg (by omega), if_neg (by omega)]
    · rw [if_neg (by omega), if_pos rfl, if_pos (Nat.le_refl k), Nat.sub_self, List.getD_cons_zero]
    · have hnext : k - i = k - (i + 1) + 1 := by omega
      rw [if_pos (by omega), if_neg (by omega), if_pos (by omega), hnext, List.getD_cons_succ]

theorem holds_put (m : Memory) (i : Nat) (b : Bytes) : (m.put i b).Holds i b := by
  rw [Holds, between, Nat.add_sub_cancel_left]
  refine List.ext_getElem (by simp) fun n hn hn' ↦ ?_
  simp [byte_put, hn']

theorem write_eq (m : Memory) (offset : Nat) (b : Bytes) :
    m.write offset b = if offset + b.length ≤ m.size then .ok (m.put offset b)
      else .error (.outOfBounds offset b.length m.size) := by
  rw [write, check]
  split_ifs <;> rfl

/-- A memory is another one with some bytes at an address. -/
structure Overwrites (m : Memory) (i : Nat) (b : Bytes) (m' : Memory) : Prop where
  /-- It has not grown. -/
  size : m'.size = m.size
  /-- The bytes stand there. -/
  holds : m'.Holds i b
  /-- Everywhere else is what was there. -/
  elsewhere : ∀ k, k < i ∨ i + b.length ≤ k → m'.byte k = m.byte k

theorem overwrites_put (m : Memory) (i : Nat) (b : Bytes) : m.Overwrites i b (m.put i b) := by
  refine ⟨m.size_put i b, m.holds_put i b, fun k hk ↦ ?_⟩
  rw [byte_put]
  split
  · rw [List.getD_eq_getElem?_getD, List.getElem?_eq_none (by lia), Option.getD_none]
  · rfl

/-! ## Integers -/

theorem length_integerBytes (i : Int) : (integerBytes i).length = 4 := Bytes.length_littleEndian _ _

theorem length_flatMap_integerBytes (l : List Int) : (l.flatMap integerBytes).length = 4 * l.length := by
  induction l with
  | nil => rfl
  | cons i l ih =>
    rw [List.flatMap_cons, List.length_append, length_integerBytes, ih, List.length_cons]
    lia

theorem length_integers {n : Nat} (h : b.length = 4 * n) : (integers b).length = n := by
  induction n generalizing b with
  | zero =>
    obtain rfl := List.eq_nil_of_length_eq_zero h
    rfl
  | succ n ih =>
    match b, h with
    | a₀ :: a₁ :: a₂ :: a₃ :: rest, h =>
      rw [integers, List.length_cons, ih (by simpa [Nat.mul_succ] using h)]

/-- An integer that has been written is read as the one of 32 bits with the same low bits. -/
theorem integers_append (i : Int) (rest : Bytes) :
    integers (integerBytes i ++ rest) = i.bmod (capacity 32) :: integers rest := by
  have hpos : (0 : Int) < capacity 32 := by decide
  have hlt : (i % capacity 32).toNat < capacity (8 * 4) := by
    have := Int.emod_lt_of_pos i hpos
    lia
  have hnumber := Bytes.ofLittleEndian_littleEndian hlt
  have hnonneg := Int.emod_nonneg i (Int.ne_of_gt hpos)
  rw [integerBytes]
  simp only [Bytes.littleEndian, List.cons_append, List.nil_append, integers] at hnumber ⊢
  rw [hnumber, Int.toNat_of_nonneg hnonneg, Int.emod_bmod]

theorem integers_flatMap_integerBytes {l : List Int}
    (h : ∀ i ∈ l, -(capacity 31 : Int) ≤ i ∧ i < capacity 31) :
    integers (l.flatMap integerBytes) = l := by
  induction l with
  | nil => rfl
  | cons i l ih =>
    obtain ⟨hi, hl⟩ := List.forall_mem_cons.1 h
    have hbmod : i.bmod (capacity 32) = i := by
      have hhalf : capacity 32 = 2 * capacity 31 := capacity_succ 31
      rw [Int.bmod_eq_of_le] <;> lia
    rw [List.flatMap_cons, integers_append, ih hl, hbmod]

theorem readIntegers_eq (m : Memory) (offset count : Nat) :
    m.readIntegers offset count =
      if count * 4 < capacity 32 ∧ offset + count * 4 ≤ m.size then
        .ok (integers (m.between offset (offset + count * 4)))
      else .error (.outOfBounds offset (count * 4) m.size) := by
  rw [readIntegers, read_eq]
  by_cases hfew : count * 4 < capacity 32
  · rw [if_neg (Nat.not_le.2 hfew)]
    by_cases hroom : offset + count * 4 ≤ m.size
    · rw [if_pos hroom, if_pos ⟨hfew, hroom⟩]
      rfl
    · rw [if_neg hroom, if_neg fun h ↦ hroom h.2]
      rfl
  · rw [if_pos (Nat.not_lt.1 hfew), if_neg fun h ↦ hfew h.1]

end SourceHost.Memory
