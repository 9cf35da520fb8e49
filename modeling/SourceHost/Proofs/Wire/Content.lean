import SourceHost.Proofs.Wire.Reading
import SourceHost.Proofs.Wire.Width

/-!
# Shapes of bytes

Four shapes hold bytes and nothing else: a string of bytes, a list of bytes, a text and a single
character.  On the wire they are all a length and then the bytes it measures, so that what one side
writes as a text the other may read as bytes.

The readers come to the same end in different ways.  For a string the length has to be backed by
the bytes behind it before any of them is touched.  For a list a count of up to `maxUnbackedCount`
is taken on trust, and then there is one byte after the other for as long as there are any.  A text
is a string whose bytes are looked at afterwards, and a character is a text whose characters are
counted afterwards.

* `takeEach_takeByte` — bytes taken one after the other are the bytes taken at once.
* `take_seq_u8` — a list of bytes is read as a string of bytes is; only the words for a length that
  is too large may differ.
* `Narrows` — what it is for a reader to be another one with a look at what that has read, as texts
  are to strings (`narrows_text`) and characters to texts (`narrows_char`).
* `contentsAlike` — the four together.
-/

set_option autoImplicit false

namespace SourceHost

/-! ## One byte after the other -/

theorem encodeEach_u8 (d : Bytes) : encodeEach Shape.u8.encode d = .ok d := by
  induction d with
  | nil => rfl
  | cons a d ih =>
    rw [encodeEach, ih]
    rfl

/-- Bytes taken one after the other are the bytes taken at once. -/
theorem takeEach_takeByte (count : Nat) (found b : Bytes) :
    takeEach Bytes.takeByte count found b =
      (b.takeExactly count).map fun p ↦ (found.reverse ++ p.1, p.2) := by
  induction count generalizing found b with
  | zero => simp [takeEach, Bytes.takeExactly, Except.map]
  | succ count ih =>
    cases b with
    | nil => rfl
    | cons a b =>
      rw [takeEach_succ, Bytes.takeByte]
      show takeEach Bytes.takeByte count (a :: found) b = _
      rw [ih, Bytes.takeExactly, Bytes.takeExactly]
      by_cases hshort : b.length < count <;> simp [hshort, Except.map]

theorem takeEach_u8 (count : Nat) (b : Bytes) :
    takeEach Shape.u8.take count [] b = b.takeExactly count := by
  rw [show Shape.u8.take = Bytes.takeByte from rfl, takeEach_takeByte, Bytes.takeExactly]
  split <;> rfl

/-- What the refusal of a string of bytes becomes where one byte is read after the other.  A length
that is too large but taken on trust is found out only where the bytes end. -/
def WireError.oneByOne : WireError → WireError
  | lengthOutOfRange length =>
    if length ≤ maxUnbackedCount then unexpectedEnd else lengthOutOfRange length
  | e => e

/-- **A list of bytes is read as a string of bytes is**, whatever there is to read. -/
theorem take_seq_u8 (b : Bytes) :
    (Shape.seq .u8).take b = (Shape.bytes.take b).mapError WireError.oneByOne := by
  rw [Shape.take, Shape.take, Bytes.takeCount, Bytes.takeCounted]
  cases hlength : Varint.decode 64 b with
  | error e =>
    -- reading the length itself does not fail for a shortage of what it measures
    rcases Varint.decodeFrom_error hlength with rfl | rfl <;> rfl
  | ok p =>
    obtain ⟨length, rest⟩ := p
    simp only [bind, Except.bind, pure, Except.pure]
    by_cases hshort : rest.length < length.val
    · rw [if_pos hshort]
      simp only [Except.mapError, WireError.oneByOne]
      by_cases htrust : length.val ≤ maxUnbackedCount
      · rw [if_neg fun h ↦ Nat.not_lt.2 htrust h.2, if_pos htrust]
        exact (takeEach_u8 _ _).trans (if_pos hshort)
      · rw [if_pos ⟨hshort, Nat.not_le.1 htrust⟩, if_neg htrust]
    · rw [if_neg hshort, if_neg fun h ↦ hshort h.1]
      exact (takeEach_u8 _ _).trans (if_neg hshort)

/-- Two hundred bytes are announced, and there is one. -/
example : Shape.bytes.take [200, 1, 7] = .error (.lengthOutOfRange 200) ∧
    (Shape.seq .u8).take [200, 1, 7] = .error .unexpectedEnd := ⟨rfl, rfl⟩

theorem take_seq_u8_eq_ok_iff {b d rest : Bytes} :
    (Shape.seq .u8).take b = .ok (d, rest) ↔ Shape.bytes.take b = .ok (d, rest) := by
  rw [take_seq_u8]
  cases Shape.bytes.take b <;> simp [Except.mapError]

theorem take_seq_u8_eq_error_iff {b : Bytes} {e : WireError} :
    (Shape.seq .u8).take b = .error e ↔
      ∃ e', Shape.bytes.take b = .error e' ∧ e = e'.oneByOne := by
  rw [take_seq_u8]
  cases Shape.bytes.take b <;> simp [Except.mapError, eq_comm]

/-! ## A reader with a look at what was read -/

section Narrows

variable {α β : Type} {wide : Bytes → Except WireError (α × Bytes)}
  {next : α × Bytes → Except WireError (β × Bytes)} {content : β → α} {Fits : α → Prop}
  {fault : WireError}

/-- From the bytes `b`, the reader `narrow` takes what `wide` takes if that is a content that fits,
and makes of it the value that has this content.  Any other content it refuses with `fault`. -/
structure Narrows (wide : Bytes → Except WireError (α × Bytes))
    (narrow : Bytes → Except WireError (β × Bytes)) (content : β → α) (Fits : α → Prop)
    (fault : WireError) (b : Bytes) : Prop where
  /-- A value is read exactly when its content is, and the same bytes are left. -/
  ok_iff : ∀ v rest, narrow b = .ok (v, rest) ↔ wide b = .ok (content v, rest)
  /-- There is a value to be read exactly when a content is read that fits. -/
  exists_iff : ∀ rest, (∃ v, narrow b = .ok (v, rest)) ↔ ∃ a, wide b = .ok (a, rest) ∧ Fits a
  /-- The bytes are refused because there is no content to be read, or because it does not fit. -/
  error_iff : ∀ e, narrow b = .error e ↔
    wide b = .error e ∨ e = fault ∧ ∃ a rest, wide b = .ok (a, rest) ∧ ¬ Fits a

/-- A reader narrows another one if it goes on by a partial function that undoes `content`. -/
theorem Narrows.of_bind {f : α → Option β}
    (hnext : ∀ a rest, next (a, rest) = match f a with
      | some v => .ok (v, rest)
      | none => .error fault)
    (hf : ∀ a v, f a = some v ↔ a = content v) (hfits : ∀ a, Fits a ↔ ∃ v, a = content v)
    (b : Bytes) : Narrows wide (fun b ↦ wide b >>= next) content Fits fault b := by
  have hread : ∀ a behind v rest, next (a, behind) = .ok (v, rest) ↔
      a = content v ∧ behind = rest := by
    intro a behind v rest
    rw [hnext, ← hf]
    cases f a <;> simp
  have hvalue : ∀ v rest, (wide b >>= next) = .ok (v, rest) ↔ wide b = .ok (content v, rest) := by
    intro v rest
    simp only [bind_eq_ok_iff, hread]
    constructor
    · rintro ⟨_, _, ha, rfl, rfl⟩
      exact ha
    · exact fun h ↦ ⟨_, _, h, rfl, rfl⟩
  refine ⟨hvalue, fun rest ↦ ?_, fun e ↦ ?_⟩
  · simp only [hvalue]
    constructor
    · exact fun ⟨v, hv⟩ ↦ ⟨content v, hv, (hfits _).2 ⟨v, rfl⟩⟩
    · rintro ⟨a, ha, hfit⟩
      obtain ⟨v, rfl⟩ := (hfits a).1 hfit
      exact ⟨v, ha⟩
  · cases hwide : wide b with
    | error e' => simp [bind, Except.bind]
    | ok p =>
      obtain ⟨a, rest⟩ := p
      have hfit : Fits a ↔ ∃ v, f a = some v := by simp only [hfits, hf]
      simp only [bind, Except.bind, hnext]
      cases hfa : f a with
      | none => simp [hfit, hfa, eq_comm]
      | some v => simp [hfit, hfa]

end Narrows

/-- A text is read where a string of bytes is read and the bytes are well-formed. -/
theorem narrows_text (b : Bytes) :
    Narrows Shape.bytes.take Shape.text.take Utf8.encode Utf8.WellFormed .invalidUtf8 b := by
  refine Narrows.of_bind (fun d rest ↦ ?_) (fun _ _ ↦ Utf8.decode_eq_some_iff)
    (fun _ ↦ Utf8.wellFormed_iff) b
  dsimp only
  cases Utf8.decode d <;> rfl

/-- A character is read where a text is read and the text has one character. -/
theorem narrows_char (b : Bytes) :
    Narrows Shape.text.take Shape.char.take String.singleton (fun t ↦ t.length = 1) .invalidChar
      b := by
  refine Narrows.of_bind (f := Shape.onlyChar) ?next ?only ?one b
  case next =>
    intro t rest
    dsimp only [Shape.onlyChar]
    match t.toList with
    | [] | [_] | _ :: _ :: _ => rfl
  case only => exact fun t c ↦ Shape.onlyChar_eq_some_iff
  case one =>
    intro t
    simp only [← String.length_toList, List.length_eq_one_iff, ← String.toList_inj,
      String.toList_singleton]

/-! ## Four shapes -/

/-- **Strings of bytes, lists of bytes, texts and characters look the same on the wire.**

1. Some bytes are written in the same way as a string and as a list, which always succeeds, and a
   text or a character is written as its bytes are.
2. Whatever there is to read, a list of bytes is read from it exactly when a string is, with the
   same bytes in it and the same ones left.  Otherwise both are refused for the same reason, except
   that a length which is too large, but taken on trust for a list, is found out for a list only
   where the bytes end.
3. A text is read exactly when a string is read whose bytes are well-formed, and they are the bytes
   of that text.  A string of other bytes is refused for them.
4. A character is read exactly when a text is read that has one character, which is that one.  A
   text of none or of several is refused for it.
5. It is the same for bytes that have to be used up. -/
theorem contentsAlike :
    (∀ d : Bytes, Shape.bytes.encode d = .ok d.counted ∧
      (Shape.seq .u8).encode d = .ok d.counted) ∧
    (∀ t : String, Shape.text.encode t = Shape.bytes.encode (Utf8.encode t)) ∧
    (∀ c : Char, Shape.char.encode c = Shape.bytes.encode (String.utf8EncodeChar c)) ∧
    ∀ b : Bytes,
      (∀ d rest, (Shape.seq .u8).take b = .ok (d, rest) ↔ Shape.bytes.take b = .ok (d, rest)) ∧
      (∀ e, (Shape.seq .u8).take b = .error e ↔
        ∃ e', Shape.bytes.take b = .error e' ∧ e = e'.oneByOne) ∧
      Narrows Shape.bytes.take Shape.text.take Utf8.encode Utf8.WellFormed .invalidUtf8 b ∧
      Narrows Shape.text.take Shape.char.take String.singleton (fun t ↦ t.length = 1) .invalidChar
        b ∧
      (∀ d, (Shape.seq .u8).decode b = .ok d ↔ Shape.bytes.decode b = .ok d) ∧
      (∀ t, Shape.text.decode b = .ok t ↔ Shape.bytes.decode b = .ok (Utf8.encode t)) ∧
      ∀ c, Shape.char.decode b = .ok c ↔ Shape.text.decode b = .ok (String.singleton c) := by
  refine ⟨fun d ↦ ⟨rfl, ?list⟩, fun t ↦ rfl, fun c ↦ rfl, fun b ↦ ?read⟩
  case list =>
    rw [Shape.encode, encodeEach_u8]
    rfl
  case read =>
    refine ⟨fun d rest ↦ take_seq_u8_eq_ok_iff, fun e ↦ take_seq_u8_eq_error_iff, narrows_text b,
      narrows_char b, fun d ↦ ?_, fun t ↦ ?_, fun c ↦ ?_⟩
    · rw [Shape.decode_eq_ok_iff_take, Shape.decode_eq_ok_iff_take, take_seq_u8_eq_ok_iff]
    · rw [Shape.decode_eq_ok_iff_take, Shape.decode_eq_ok_iff_take, (narrows_text b).ok_iff]
    · rw [Shape.decode_eq_ok_iff_take, Shape.decode_eq_ok_iff_take, (narrows_char b).ok_iff]

/-- A padded length, the two bytes of one character, and a byte that is left. -/
example :
    (Shape.seq .u8).take [130, 0, 195, 169, 7] = .ok ([195, 169], [7]) ∧
    Shape.text.take [130, 0, 195, 169, 7] = .ok ("é", [7]) ∧
    Shape.char.take [130, 0, 195, 169, 7] = .ok ('é', [7]) := ⟨rfl, rfl, rfl⟩

end SourceHost
