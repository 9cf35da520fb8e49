import Mathlib.Data.List.Forall2
import SourceHost.Proofs.Wire.Reading
import SourceHost.Proofs.Wire.Writing

/-!
# Reading back what was written

Written bytes may be followed by others, and the reader finds its way back to the value all the
same, without being told where the value ends.  There is one exception.  Items that take no bytes
cannot back their own count, so the count of a list with more than `maxUnbackedCount` of them is
refused unless enough other bytes follow it (`Shape.take_ne_ok`).

* `roundTrip` — what can be written, and with what bytes behind it is read back, for one value and
  for several values written one after the other.
-/

set_option autoImplicit false

namespace SourceHost

/-- A value together with its shape. -/
abbrev Datum := (s : Shape) × s.Value

/-- Values written one after the other, behind what is already there. -/
def writeAll (out : Bytes) : List Datum → Except WireError Bytes
  | [] => .ok out
  | ⟨s, v⟩ :: data => do
    let b ← s.encode v
    writeAll (out ++ b) data

/-- Values of the given shapes read one after the other, each with the bytes left behind it. -/
def readAll : List Shape → Bytes → Except WireError (List (Datum × Bytes))
  | [], _ => .ok []
  | s :: shapes, b => do
    let (v, rest) ← s.take b
    let later ← readAll shapes rest
    return (⟨s, v⟩, rest) :: later

/-! ## One value -/

theorem Shape.take_encode_append {s : Shape} {v : s.Value} {b : Bytes} (h : s.encode v = .ok b)
    (hsize : s.IsSized v) (hback : s.IsBacked v) (t : Bytes) : s.take (b ++ t) = .ok (v, t) :=
  take_eq_ok_iff.2 ⟨b, rfl, (s.isWritten _ v b h hback hsize).reads⟩

/-- The exception is a real one: a value with a list of many items that take no bytes is not read
from fewer bytes than the list has items. -/
theorem Shape.take_ne_ok {s : Shape} {v : s.Value} {count : Nat}
    (hnode : .collection true count ∈ s.nodes v) (hcount : maxUnbackedCount < count) {b : Bytes}
    (hb : b.length < count) (rest : Bytes) : s.take b ≠ .ok (v, rest) := by
  intro h
  obtain ⟨w, rfl, hw⟩ := take_eq_ok_iff.1 h
  have hle : count ≤ max maxUnbackedCount (w.length + rest.length) :=
    (s.fits _ _ _ _ hw _ hnode).2
  rw [List.length_append] at hb
  omega

/-! ## Several values -/

theorem exists_parts {data : List Datum} (h : ∀ d ∈ data, d.1.firstFault d.2 = none) :
    ∃ parts : List Bytes, List.Forall₂ (fun d part ↦ d.1.encode d.2 = .ok part) data parts := by
  induction data with
  | nil => exact ⟨[], .nil⟩
  | cons d data ih =>
    obtain ⟨part, hpart⟩ := exists_encode_iff.2 (h d (.head _))
    obtain ⟨parts, hparts⟩ := ih fun d hd ↦ h d (.tail _ hd)
    exact ⟨part :: parts, .cons hpart hparts⟩

theorem writeAll_eq_ok {out : Bytes} {data : List Datum} {parts : List Bytes}
    (h : List.Forall₂ (fun d part ↦ d.1.encode d.2 = .ok part) data parts) :
    writeAll out data = .ok (out ++ parts.flatten) := by
  induction h generalizing out with
  | nil => rw [List.flatten_nil, List.append_nil]; rfl
  | @cons d part data parts hd _ ih =>
    rw [writeAll, hd, List.flatten_cons, ← List.append_assoc]
    exact ih

theorem readAll_flatten {data : List Datum} {parts : List Bytes}
    (h : List.Forall₂ (fun d part ↦ ∀ t, d.1.take (part ++ t) = .ok (d.2, t)) data parts)
    (t : Bytes) : readAll (data.map Sigma.fst) (parts.flatten ++ t) =
      .ok (data.zip (parts.tails.tail.map fun later ↦ later.flatten ++ t)) := by
  induction h with
  | nil => rfl
  | @cons d part data parts hd _ ih =>
    have htails : (part :: parts).tails.tail = parts :: parts.tails.tail := by
      cases parts <;> rfl
    rw [List.map_cons, readAll, List.flatten_cons, List.append_assoc, hd, htails]
    simp only [bind, Except.bind, ih]
    rfl

/-- **Round trip.**

* Writing a value fails if and only if there is a fault in it, which is a variant whose index does
  not fit in a byte or a collection of unknown length, and it fails with the first fault.
* Otherwise the value is written, and from its bytes in front of any others, `t`, the reader takes
  the value and leaves `t`.  All this asks of the value is that no list or map in it has more than
  `maxUnbackedCount` items that take no bytes, and that its lengths are numbers of 64 bits, which
  the length of anything kept in memory is.
* Several such values, written one after the other behind anything, are read back in order, and
  each read leaves the bytes of the later values. -/
theorem roundTrip :
    (∀ (s : Shape) (v : s.Value),
      (∀ e, s.encode v = .error e ↔ s.firstFault v = some e) ∧
      (s.firstFault v = none → ∃ b, s.encode v = .ok b ∧
        (s.IsSized v → s.IsBacked v → ∀ t, s.take (b ++ t) = .ok (v, t)))) ∧
    ∀ (out : Bytes) (data : List Datum),
      (∀ d ∈ data, d.1.firstFault d.2 = none ∧ d.1.IsSized d.2 ∧ d.1.IsBacked d.2) →
      ∃ parts : List Bytes,
        List.Forall₂ (fun d part ↦ d.1.encode d.2 = .ok part) data parts ∧
        writeAll out data = .ok (out ++ parts.flatten) ∧
        ∀ t, readAll (data.map Sigma.fst) (parts.flatten ++ t) =
          .ok (data.zip (parts.tails.tail.map fun later ↦ later.flatten ++ t)) := by
  refine ⟨fun s v ↦ ⟨fun _ ↦ encode_eq_error_iff, fun h ↦ ?_⟩, fun out data h ↦ ?_⟩
  · obtain ⟨b, hb⟩ := exists_encode_iff.2 h
    exact ⟨b, hb, Shape.take_encode_append hb⟩
  · obtain ⟨parts, hparts⟩ := exists_parts fun d hd ↦ (h d hd).1
    refine ⟨parts, hparts, writeAll_eq_ok hparts, readAll_flatten ?_⟩
    refine List.Forall₂.imp ?_ ((List.forall₂_and_left _ _).2 ⟨h, hparts⟩)
    exact fun d part ⟨⟨_, hsize, hback⟩, hpart⟩ ↦ Shape.take_encode_append hpart hsize hback

/-- An optional list in a variant, a map in which a key occurs twice, and a list of items that take
no bytes. -/
def mixed : List Datum :=
  [⟨.sum 2 fun _ ↦ .option (.seq (.unsigned .w16)), ⟨Fin.last 1, some [⟨300, by decide⟩]⟩⟩,
    ⟨.map .u8 .unit, [(7, ()), (7, ())]⟩, ⟨.seq .unit, [(), (), ()]⟩]

theorem roundTrip_mixed :
    (Shape.choice 300).encode ⟨256, ()⟩ = .error (.invalidDiscriminant 256) ∧
    (∀ d ∈ mixed, ∃ b, d.1.encode d.2 = .ok b ∧ ∀ t, d.1.take (b ++ t) = .ok (d.2, t)) ∧
    ∃ parts : List Bytes, writeAll [5] mixed = .ok (5 :: parts.flatten) ∧
      readAll (mixed.map Sigma.fst) (parts.flatten ++ [9]) =
        .ok (mixed.zip (parts.tails.tail.map fun later ↦ later.flatten ++ [9])) := by
  have hmixed : ∀ d ∈ mixed, d.1.firstFault d.2 = none ∧ d.1.IsSized d.2 ∧ d.1.IsBacked d.2 := by
    decide
  refine ⟨((roundTrip.1 _ _).1 _).2 rfl, fun d hd ↦ ?_, ?_⟩
  · obtain ⟨hfault, hsize, hback⟩ := hmixed d hd
    obtain ⟨b, hb, h⟩ := (roundTrip.1 d.1 d.2).2 hfault
    exact ⟨b, hb, h hsize hback⟩
  · obtain ⟨parts, -, hwrite, hread⟩ := roundTrip.2 [5] mixed hmixed
    exact ⟨parts, hwrite, hread [9]⟩

end SourceHost
