import Mathlib.Data.List.Basic
import SourceHost.Proofs.Memory.Access
import SourceHost.Proofs.Text.Utf8

/-!
# Guest memory as an array of bytes

A memory is read and written in bytes, in texts and in numbers of four bytes, at places that may
overlap, and some places are out of range.  All of this comes down to one array of bytes that is as
long as the memory.

* `IsArray` — a memory is an array: what each reader and each writer makes of it.
* `isArray_byte` — every memory is the array of its bytes.
* `Write`, `after` — something that is written, in bytes or in integers, and the memory after
  several writes, some of which may have been refused.
* `byte_after` — every byte is the one that was last written there, or has never been written.
* `boundedArray` — so a memory is, after any writes, the array of what was last written.
-/

set_option autoImplicit false

namespace SourceHost.Memory

/-! ## Arrays -/

/-- The part of an array from an index on. -/
def slice (cells : Nat → UInt8) (offset length : Nat) : Bytes :=
  (List.range length).map fun i ↦ cells (offset + i)

/-- The number in four bytes of an array. -/
def number (cells : Nat → UInt8) (offset : Nat) : Nat := Bytes.ofLittleEndian (slice cells offset 4)

variable {m : Memory} {cells : Nat → UInt8}

theorem between_eq_slice (m : Memory) (offset length : Nat) :
    m.between offset (offset + length) = slice m.byte offset length := by
  rw [between, slice, Nat.add_sub_cancel_left]

theorem word_eq_number (m : Memory) (offset : Nat) : m.word offset = number m.byte offset := by
  rw [word, number, between_eq_slice]

theorem slice_append (cells : Nat → UInt8) (offset length more : Nat) :
    slice cells offset length ++ slice cells (offset + length) more =
      slice cells offset (length + more) := by
  simp [slice, List.range_add, Function.comp_def, Nat.add_assoc]

theorem length_slice (cells : Nat → UInt8) (offset length : Nat) :
    (slice cells offset length).length = length := by
  simp [slice]

theorem number_lt (cells : Nat → UInt8) (offset : Nat) : number cells offset < capacity 32 := by
  have h := Bytes.ofLittleEndian_lt (slice cells offset 4)
  rwa [length_slice] at h

theorem integers_slice_four (cells : Nat → UInt8) (offset : Nat) (rest : Bytes) :
    integers (slice cells offset 4 ++ rest) =
      (number cells offset : Int).bmod (capacity 32) :: integers rest := by
  have hfour : slice cells offset 4 =
      [cells offset, cells (offset + 1), cells (offset + 2), cells (offset + 3)] := rfl
  rw [number, hfour]
  simp only [List.cons_append, List.nil_append, integers]

/-- Integers lie side by side, four bytes each. -/
theorem integers_slice (cells : Nat → UInt8) (offset count : Nat) :
    integers (slice cells offset (4 * count)) =
      (List.range count).map fun i ↦ (number cells (offset + 4 * i) : Int).bmod (capacity 32) := by
  induction count generalizing offset with
  | zero => rfl
  | succ count ih =>
    have hlength : 4 * (count + 1) = 4 + 4 * count := by omega
    have hnext (i : Nat) : offset + 4 + 4 * i = offset + 4 * (i + 1) := by omega
    rw [hlength, ← slice_append, integers_slice_four, ih, List.range_succ_eq_map, List.map_cons,
      List.map_map]
    refine congrArg _ (List.map_congr_left fun i _ ↦ ?_)
    rw [hnext, Function.comp_apply]

/-- The integer in four bytes and the number in them agree in their low bits. -/
theorem bmod_number_emod (cells : Nat → UInt8) (offset : Nat) :
    (((number cells offset : Int).bmod (capacity 32)) % capacity 32).toNat =
      number cells offset := by
  have hlt : (number cells offset : Int) < (capacity 32 : Nat) :=
    Int.ofNat_lt.2 (number_lt cells offset)
  rw [Int.bmod_emod, Int.emod_eq_of_lt (Int.natCast_nonneg _) hlt, Int.toNat_natCast]

/-- A memory is an array of bytes: it has as many of them, everything that is read is made of them,
and a write changes those it is meant for. -/
structure IsArray (m : Memory) (size : Nat) (cells : Nat → UInt8) : Prop where
  /-- Bytes are read as they are, where all of them are in range. -/
  read : ∀ offset length, m.read offset length =
    if offset + length ≤ size then .ok (slice cells offset length)
    else .error (.outOfBounds offset length size)
  /-- Bytes in range are read as a text if they are those of one, and refused otherwise. -/
  readText : ∀ offset length, offset + length ≤ size →
    (∀ text, m.readText offset length = .ok text ↔ slice cells offset length = Utf8.encode text) ∧
    ((∀ text, slice cells offset length ≠ Utf8.encode text) →
      m.readText offset length = .error (.decode .invalidUtf8))
  /-- Bytes out of range are no text either. -/
  readText_outOfBounds : ∀ offset length, size < offset + length →
    m.readText offset length = .error (.outOfBounds offset length size)
  /-- A number is read where its four bytes are in range. -/
  readWord : ∀ offset, m.readWord offset =
    if offset + 4 ≤ size then .ok (number cells offset) else .error (.outOfBounds offset 4 size)
  /-- Integers are read where all their bytes are in range, and agree with the numbers there. -/
  readIntegers : ∀ offset count, m.readIntegers offset count =
    if offset + 4 * count ≤ size then
      .ok ((List.range count).map fun i ↦ (number cells (offset + 4 * i) : Int).bmod (capacity 32))
    else .error (.outOfBounds offset (4 * count) size)
  /-- Bytes are written where there is room for all of them. -/
  write : ∀ offset data, if offset + data.length ≤ size then
      ∃ m', m.write offset data = .ok m' ∧ m.Overwrites offset data m'
    else m.write offset data = .error (.outOfBounds offset data.length size)
  /-- Integers are written where there is room for all of them. -/
  writeIntegers : ∀ offset values, if offset + 4 * values.length ≤ size then
      ∃ m', m.writeIntegers offset values = .ok m' ∧
        m.Overwrites offset (values.flatMap integerBytes) m'
    else m.writeIntegers offset values = .error (.outOfBounds offset (4 * values.length) size)

theorem readIntegers_eq_slice (hsize : m.size < capacity 32) (offset count : Nat) :
    m.readIntegers offset count =
      if offset + 4 * count ≤ m.size then .ok (integers (slice m.byte offset (4 * count)))
      else .error (.outOfBounds offset (4 * count) m.size) := by
  rw [readIntegers_eq, Nat.mul_comm count 4, between_eq_slice]
  -- what is in range of a memory that is not too large is itself not too large
  by_cases hroom : offset + 4 * count ≤ m.size
  · rw [if_pos hroom, if_pos ⟨by omega, hroom⟩]
  · rw [if_neg hroom, if_neg fun h ↦ hroom h.2]

theorem write_cases (m : Memory) (offset : Nat) (data : Bytes) :
    if offset + data.length ≤ m.size then
      ∃ m', m.write offset data = .ok m' ∧ m.Overwrites offset data m'
    else m.write offset data = .error (.outOfBounds offset data.length m.size) := by
  rw [write_eq]
  split_ifs with hroom
  · exact ⟨_, rfl, m.overwrites_put offset data⟩
  · rfl

/-- **A memory is the array of its bytes**, unless it is as large as a guest can number. -/
theorem isArray_byte (hsize : m.size < capacity 32) : m.IsArray m.size m.byte where
  read offset length := by rw [read_eq, between_eq_slice]
  readText offset length hroom := by
    rw [readText, read_eq, if_pos hroom, between_eq_slice]
    dsimp only [bind, Except.bind]
    cases htext : Utf8.decode (slice m.byte offset length) with
    | some t =>
      have hbytes := Utf8.decode_eq_some_iff.1 htext
      refine ⟨fun text ↦ ?_, fun hnone ↦ absurd hbytes (hnone t)⟩
      rw [← Utf8.decode_eq_some_iff, htext]
      simp [pure, Except.pure]
    | none =>
      refine ⟨fun text ↦ ?_, fun _ ↦ rfl⟩
      rw [← Utf8.decode_eq_some_iff, htext]
      simp
  readText_outOfBounds offset length hout := by
    rw [readText, read_eq, if_neg (Nat.not_le.2 hout)]
    rfl
  readWord offset := by rw [readWord_eq, word_eq_number]
  readIntegers offset count := by rw [readIntegers_eq_slice hsize, integers_slice]
  write := m.write_cases
  writeIntegers offset values := by
    have h := m.write_cases offset (values.flatMap integerBytes)
    rwa [length_flatMap_integerBytes] at h

/-! ## Several writes -/

/-- Something that is written into a memory. -/
inductive Write where
  /-- Bytes. -/
  | bytes (offset : Nat) (data : Bytes)
  /-- Integers, each in four bytes. -/
  | integers (offset : Nat) (values : List Int)

namespace Write

/-- What comes of writing it. -/
def outcome (m : Memory) : Write → Except HostError Memory
  | bytes offset data => m.write offset data
  | integers offset values => m.writeIntegers offset values

/-- The memory afterwards: the same one if it was refused. -/
def run (m : Memory) (w : Write) : Memory := (w.outcome m).toOption.getD m

/-- Where it is written. -/
def offset : Write → Nat
  | bytes offset _ => offset
  | integers offset _ => offset

/-- The bytes that it is made of. -/
def data : Write → Bytes
  | bytes _ data => data
  | integers _ values => values.flatMap integerBytes

/-- The byte it puts at an index of an array of some size, if it is in range and this is one of the
bytes it is meant for. -/
def at? (size index : Nat) (w : Write) : Option UInt8 :=
  if w.offset + w.data.length ≤ size ∧ w.offset ≤ index then w.data[index - w.offset]? else none

theorem run_eq (m : Memory) (w : Write) :
    w.run m = if w.offset + w.data.length ≤ m.size then m.put w.offset w.data else m := by
  have houtcome : w.outcome m = m.write w.offset w.data := by cases w <;> rfl
  rw [run, houtcome, write_eq]
  split_ifs <;> rfl

theorem size_run (m : Memory) (w : Write) : (w.run m).size = m.size := by
  rw [run_eq]
  split_ifs
  · exact size_put m w.offset w.data
  · rfl

/-- A write gives the bytes it is meant for their values, and leaves all others alone. -/
theorem byte_run (m : Memory) (w : Write) (index : Nat) :
    (w.run m).byte index = (w.at? m.size index).getD (m.byte index) := by
  rw [run_eq, at?]
  by_cases hroom : w.offset + w.data.length ≤ m.size
  · rw [if_pos hroom, byte_put]
    by_cases hindex : w.offset ≤ index <;> simp [hroom, hindex]
  · simp [hroom]

end Write

/-- The memory after several writes. -/
def after (m : Memory) (ws : List Write) : Memory := ws.foldl Write.run m

/-- The byte that was last written at an index of an array, or else the one that was there. -/
def lastWritten (size : Nat) (cells : Nat → UInt8) (ws : List Write) (index : Nat) : UInt8 :=
  (ws.filterMap (·.at? size index)).getLast?.getD (cells index)

theorem size_after (m : Memory) (ws : List Write) : (m.after ws).size = m.size := by
  induction ws generalizing m with
  | nil => rfl
  | cons w ws ih => exact (ih (w.run m)).trans (w.size_run m)

theorem lastWritten_cons (size : Nat) (cells : Nat → UInt8) (w : Write) (ws : List Write)
    (index : Nat) : lastWritten size cells (w :: ws) index =
      lastWritten size (fun i ↦ (w.at? size i).getD (cells i)) ws index := by
  rw [lastWritten, lastWritten, List.filterMap_cons]
  cases w.at? size index with
  | none => rfl
  | some a => cases h : (ws.filterMap (·.at? size index)).getLast? <;> simp [List.getLast?_cons, h]

/-- **Every byte is the one that was last written.** -/
theorem byte_after (m : Memory) (ws : List Write) :
    (m.after ws).byte = lastWritten m.size m.byte ws := by
  induction ws generalizing m with
  | nil => rfl
  | cons w ws ih =>
    have hbyte : (w.run m).byte = fun i ↦ (w.at? m.size i).getD (m.byte i) :=
      funext (w.byte_run m)
    funext index
    rw [lastWritten_cons, ← hbyte, ← w.size_run m]
    exact congrFun (ih (w.run m)) index

/-- Integers that have been written are read back. -/
theorem readIntegers_of_writeIntegers {m' : Memory} {offset : Nat} {values : List Int}
    (hsize : m.size < capacity 32)
    (hvalues : ∀ i ∈ values, -(capacity 31 : Int) ≤ i ∧ i < capacity 31)
    (h : m.writeIntegers offset values = .ok m') :
    m'.readIntegers offset values.length = .ok values := by
  have hcases := m.write_cases offset (values.flatMap integerBytes)
  rw [writeIntegers] at h
  split_ifs at hcases with hroom
  · obtain ⟨n, hn, hover⟩ := hcases
    obtain rfl : n = m' := Except.ok.inj (hn.symm.trans h)
    have hholds := hover.holds
    rw [length_flatMap_integerBytes] at hroom
    rw [Holds, length_flatMap_integerBytes, between_eq_slice] at hholds
    rw [readIntegers_eq_slice (hover.size ▸ hsize), if_pos (hover.size ▸ hroom), hholds,
      integers_flatMap_integerBytes hvalues]
  · rw [hcases] at h
    cases h

/-- **Guest memory is a bounded array of bytes.**  For every memory of less than 4 GiB, and whatever
has been written into it, in bytes or in integers, at places that overlap or are out of range:

1. It is the array that is as long as the memory was and holds, at every index, the byte that was
   last written there by a write in range.  So each reader and each writer comes to an end exactly
   if all it is called for is in range, whatever the numbers it is called with; what is read is made
   of the bytes last written; a write changes the bytes it is meant for and no others; and one that
   is out of range says so, with its place, its length in bytes and the size.
2. Integers of 32 bits that are written are read back at their place.
3. The number in the four bytes of an integer that is read has its low 32 bits. -/
theorem boundedArray (m : Memory) (hsize : m.size < capacity 32) (ws : List Write) :
    (m.after ws).IsArray m.size (lastWritten m.size m.byte ws) ∧
    (∀ offset values m', (∀ i ∈ values, -(capacity 31 : Int) ≤ i ∧ i < capacity 31) →
      (m.after ws).writeIntegers offset values = .ok m' →
        m'.readIntegers offset values.length = .ok values) ∧
    ∀ offset count values, (m.after ws).readIntegers offset count = .ok values →
      values.length = count ∧ ∀ i (hi : i < values.length),
        (m.after ws).readWord (offset + 4 * i) = .ok (values[i] % capacity 32).toNat := by
  have hafter : (m.after ws).size < capacity 32 := by rwa [size_after]
  have harray : (m.after ws).IsArray m.size (lastWritten m.size m.byte ws) := by
    have h := isArray_byte hafter
    rwa [size_after, byte_after] at h
  refine ⟨harray, fun offset values m' hvalues h ↦ ?back, fun offset count values h ↦ ?words⟩
  case back => exact readIntegers_of_writeIntegers hafter hvalues h
  case words =>
    rw [harray.readIntegers] at h
    split_ifs at h with hroom
    obtain rfl := Except.ok.inj h
    refine ⟨by simp, fun i hi ↦ ?_⟩
    rw [List.length_map, List.length_range] at hi
    rw [harray.readWord, if_pos (by omega), List.getElem_map, List.getElem_range,
      bmod_number_emod]

/-- Two integers, a byte in the middle of the first, and a byte behind the end of the memory. -/
def overlapping : List Write := [.integers 100 [-1, 7], .bytes 102 [0], .bytes 65536 [1]]

/-- The byte is seen in the first integer and in the number there, the second integer is what it
was, and the last byte is nowhere. -/
theorem boundedArray_overlapping :
    let m := ofPages 1
    m.size < capacity 32 ∧
      (m.after overlapping).readIntegers 100 2 = .ok [-16711681, 7] ∧
      (m.after overlapping).readWord 100 = .ok 4278255615 ∧
      (m.after overlapping).read 65535 1 = .ok [0] ∧
      (m.after overlapping).read 65535 2 = .error (.outOfBounds 65535 2 65536) ∧
      ∃ m', (m.after overlapping).writeIntegers 101 [-2147483648] = .ok m' ∧
        m'.readIntegers 101 1 = .ok [-2147483648] := by
  intro m
  have hsize : m.size < capacity 32 := by decide
  obtain ⟨harray, hback, hwords⟩ := boundedArray m hsize overlapping
  have hintegers : (m.after overlapping).readIntegers 100 2 = .ok [-16711681, 7] :=
    (harray.readIntegers 100 2).trans (by decide +kernel)
  have hwrite := harray.writeIntegers 101 [-2147483648]
  rw [if_pos (by decide)] at hwrite
  obtain ⟨m', hm', -⟩ := hwrite
  refine ⟨hsize, hintegers, (hwords 100 2 _ hintegers).2 0 (by decide), ?_, ?_, m', hm', ?_⟩
  · exact (harray.read 65535 1).trans (by decide +kernel)
  · exact (harray.read 65535 2).trans (by decide +kernel)
  · exact hback 101 [-2147483648] m' (by decide) hm'

end SourceHost.Memory
