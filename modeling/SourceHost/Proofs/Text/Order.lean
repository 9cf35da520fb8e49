import Mathlib.Data.List.Lex
import Mathlib.Data.String.Basic
import SourceHost.Text.Utf8

/-!
# Texts and their bytes are in the same order

Tables keep their keys in the order of the texts, which goes character by character, while whoever
looks at the wire sees bytes.  UTF-8 is made so that it does not matter: of two different characters
the greater one has the greater bytes, whatever follows them.

* `encode_lt_encode_iff` — a text comes before another one exactly when its bytes do.
-/

set_option autoImplicit false

namespace SourceHost.Utf8

/-- The bytes of the smaller of two characters come first, whatever follows. -/
theorem encodeChar_append_lt {c d : Char} (h : c < d) (t u : Bytes) :
    String.utf8EncodeChar c ++ t < String.utf8EncodeChar d ++ u := by
  have hlt : c.val.toNat < d.val.toNat := h
  have hd : d.val.toNat < 1114112 := by
    have hvalid := d.valid
    simp only [UInt32.isValidChar, Nat.isValidChar] at hvalid
    omega
  -- the bytes hold the digits to base 64, so the divisions are taken one digit at a time
  have htwo : ∀ n, n / 4096 = n / 64 / 64 := fun n ↦ (Nat.div_div_eq_div_mul n 64 64).symm
  have hthree : ∀ n, n / 262144 = n / 64 / 64 / 64 := fun n ↦ by
    rw [Nat.div_div_eq_div_mul, Nat.div_div_eq_div_mul]
  simp only [String.utf8EncodeChar, htwo, hthree]
  split_ifs <;>
    simp only [List.cons_append, List.nil_append, List.cons_lt_cons_iff, UInt8.lt_iff_toNat_lt,
      ← UInt8.toNat_inj, UInt8.toNat_ofNat'] <;>
    omega

theorem encodeChar_ne_nil (c : Char) : String.utf8EncodeChar c ≠ [] :=
  List.ne_nil_of_length_pos (by rw [String.length_utf8EncodeChar]; exact c.utf8Size_pos)

theorem encode_lt_encode {s t : String} (h : s < t) : encode s < encode t := by
  rw [encode, encode]
  have hlex := List.lex_lt.2 (String.lt_iff_toList_lt.1 h)
  generalize s.toList = cs at hlex
  generalize t.toList = ds at hlex
  induction hlex with
  | @nil d ds =>
    obtain ⟨a, w, hd⟩ := List.exists_cons_of_ne_nil (encodeChar_ne_nil d)
    rw [List.flatMap_cons, hd]
    exact List.nil_lt_cons _ _
  | @rel c cs d ds h =>
    rw [List.flatMap_cons, List.flatMap_cons]
    exact encodeChar_append_lt h _ _
  | @cons c cs ds h ih =>
    rw [List.flatMap_cons, List.flatMap_cons]
    exact List.append_left_lt ih

theorem encode_lt_encode_iff {s t : String} : encode s < encode t ↔ s < t := by
  refine ⟨fun h ↦ ?_, encode_lt_encode⟩
  rcases lt_trichotomy s t with hlt | rfl | hlt
  · exact hlt
  · exact absurd h (List.lt_irrefl _)
  · exact absurd (encode_lt_encode hlt) (List.lt_asymm h)

end SourceHost.Utf8
