import SourceHost.Proofs.Wire.Reading
import SourceHost.Proofs.Wire.Writing

/-!
# Canonical forms

The reader is lenient.  It accepts padded numbers, and any byte but zero for "true" and for
"present", so that one value may be read from many different bytes.  What is read and then
written comes out in the form that has no such slack.

* `normalisation` — that form is no longer than the bytes it came from, it is read as the same
  value, and it is those very bytes if and only if they had no slack.

Lists and maps of items that take no bytes are left out: a count that was accepted for the bytes
behind it need not be accepted alone.
-/

set_option autoImplicit false

namespace SourceHost
namespace Shape

/-- The bytes are a form of a value in which every number, length and count is as short as can be,
and every byte of a truth value or of the presence of a value is 0 or 1. -/
def IsCanonical (s : Shape) (b : Bytes) : Prop := ∃ v, s.Spells Mark.IsCanonical 0 b v

variable {s : Shape} {b c : Bytes} {v : s.Value}

/-- What is written for a value that was read is read as that value. -/
theorem spells_of_decode (hs : s.IsSolid) (h : s.decode b = .ok v) (hc : s.encode v = .ok c) :
    s.Spells Mark.IsCanonical 0 c v :=
  s.isWritten 0 v c hc (hs.isBacked v) (decode_eq_ok_iff.1 h).isSized

/-- Canonical bytes are what is written for the value they are read as. -/
theorem IsCanonical.encode_eq (hb : s.IsCanonical b) (h : s.decode b = .ok v) :
    s.encode v = .ok b := by
  obtain ⟨v', hform⟩ := hb
  have hread : s.decode b = .ok v' := decode_eq_ok_iff.2 hform.reads
  obtain rfl : v' = v := Except.ok.inj (hread.symm.trans h)
  obtain ⟨c, hc, -, heq⟩ := hform.rewrites
  rw [hc, heq fun _ hm ↦ hm]

end Shape

/-- **Writing what was read normalises it.**  For a shape in which no list or map has items that
take no bytes:

* A value that was read can be written, in no more bytes than it was read from, and is read again
  from those.  They are the bytes it was read from if and only if these were canonical.
* Canonical bytes that are read as the same value are the same. -/
theorem normalisation {s : Shape} (hs : s.IsSolid) :
    (∀ b v, s.decode b = .ok v → ∃ c, s.encode v = .ok c ∧ c.length ≤ b.length ∧
      s.decode c = .ok v ∧ (c = b ↔ s.IsCanonical b)) ∧
    ∀ b b' v, s.decode b = .ok v → s.decode b' = .ok v → s.IsCanonical b → s.IsCanonical b' →
      b = b' := by
  refine ⟨fun b v h ↦ ?_, fun b b' v h h' hb hb' ↦ ?_⟩
  · obtain ⟨c, hc, hlen, -⟩ := (Shape.decode_eq_ok_iff.1 h).rewrites
    have hform := Shape.spells_of_decode hs h hc
    refine ⟨c, hc, hlen, Shape.decode_eq_ok_iff.2 hform.reads, ?_, fun hb ↦ ?_⟩
    · rintro rfl
      exact ⟨v, hform⟩
    · exact Except.ok.inj (hc.symm.trans (hb.encode_eq h))
  · exact Except.ok.inj ((hb.encode_eq h).symm.trans (hb'.encode_eq h'))

/-- A list with a padded count, a padded number in it, and 7 and 9 for 1. -/
theorem normalisation_padded :
    let s : Shape := .pair (.seq (.option (.unsigned .w16))) .bool
    ∃ c, s.encode ([some ⟨5, by decide⟩], true) = .ok c ∧ c.length ≤ 6 ∧
      s.decode c = .ok ([some ⟨5, by decide⟩], true) ∧
      (c = [129, 0, 7, 133, 0, 9] ↔ s.IsCanonical [129, 0, 7, 133, 0, 9]) := by
  intro s
  have hs : s.IsSolid := ⟨⟨rfl, trivial⟩, trivial⟩
  exact (normalisation hs).1 [129, 0, 7, 133, 0, 9] _ rfl

end SourceHost
