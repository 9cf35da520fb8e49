import SourceHost.Memory.Frame
import SourceHost.Proofs.Memory.Access
import SourceHost.Proofs.Text.Utf8

/-!
# Result frames are read exactly

A frame counts itself, header and all, and its reader takes lengths apart and adds them up again.
This file says what the reader makes of any bytes at all: which stretch of memory it gives back, and
when it gives back nothing.

* `IsFrame` — the bytes of a frame, whatever stands in the part of the header that means nothing.
* `HasPayload`, `HasMessage` — when there is a frame at an address that is in range.
* `readFrame_of_hasPayload`, `readFrame_of_hasMessage`, `readFrame_of_not` — what is then read.
* `readFrame_of_holds` — so the content of a frame is read back wherever it stands.
* `framesReadBack` — all of this, and what is read where there is no frame.
-/

set_option autoImplicit false

namespace SourceHost

/-- The bytes of a frame with some content.  A frame of a payload is counted by its first number,
which is not the one that marks a message; a frame of a message by its third.  The second may be
anything. -/
inductive FrameContent.IsFrame : FrameContent → Bytes → Prop
  | payload {data gap : Bytes} (hgap : gap.length = 4)
      (hlength : data.length + 8 < Memory.messageMarker) :
      IsFrame (.payload data) (Bytes.littleEndian 4 (data.length + 8) ++ (gap ++ data))
  | message {text : String} {gap : Bytes} (hgap : gap.length = 4)
      (hlength : (Utf8.encode text).length + 12 < capacity 32) :
      IsFrame (.message text) (Bytes.littleEndian 4 Memory.messageMarker ++ (gap ++
        (Bytes.littleEndian 4 ((Utf8.encode text).length + 12) ++ Utf8.encode text)))

namespace Memory

variable {m : Memory} {p : Nat}

/-- The frame that is written for a payload is one. -/
theorem isFrame_payloadFrame {data : Bytes} (h : data.length + 8 < messageMarker) :
    FrameContent.IsFrame (.payload data) (payloadFrame data) := by
  rw [payloadFrame, List.append_assoc]
  exact .payload rfl h

/-- The frame that is written for a message is one. -/
theorem isFrame_messageFrame {text : String} (h : (Utf8.encode text).length + 12 < capacity 32) :
    FrameContent.IsFrame (.message text) (messageFrame text) := by
  rw [messageFrame, List.append_assoc, List.append_assoc]
  exact .message rfl h

/-! ## What there is at an address -/

/-- There is a payload at an address: a number that counts it and its header, and is not the mark of
a message. -/
structure HasPayload (m : Memory) (p : Nat) : Prop where
  /-- The number is in range. -/
  header : p + 4 ≤ m.size
  /-- It marks no message. -/
  unmarked : m.word p ≠ messageMarker
  /-- It counts the header. -/
  length : 8 ≤ m.word p
  /-- All that it counts is in range. -/
  content : p + m.word p ≤ m.size

/-- There is a message at an address: the mark, and a number that counts it and its header. -/
structure HasMessage (m : Memory) (p : Nat) : Prop where
  /-- There is the mark. -/
  marked : m.word p = messageMarker
  /-- The number behind it is in range. -/
  header : p + 12 ≤ m.size
  /-- It counts the header. -/
  length : 12 ≤ m.word (p + 8)
  /-- All that it counts is in range. -/
  content : p + m.word (p + 8) ≤ m.size

/-! ## What is read -/

theorem readContent_of_le {header length : Nat} (hheader : header ≤ length)
    (hcontent : p + length ≤ m.size) :
    m.readContent p header length = .ok (m.between (p + header) (p + length)) := by
  have hend : p + header + (length - header) = p + length := by omega
  rw [readContent, if_neg (Nat.not_lt.2 hheader), read_eq, hend, if_pos hcontent]

theorem readContent_of_not_le {header length : Nat}
    (h : ¬(header ≤ length ∧ p + length ≤ m.size)) :
    ∃ o l, m.readContent p header length = .error (.outOfBounds o l m.size) := by
  rw [readContent]
  split_ifs with hlt
  · exact ⟨_, _, rfl⟩
  · rw [read_eq, if_neg (by omega)]
    exact ⟨_, _, rfl⟩

/-- **A payload is read when there is one.** -/
theorem readFrame_of_hasPayload (h : m.HasPayload p) :
    m.readFrame p = .ok (.payload (m.between (p + 8) (p + m.word p))) := by
  rw [readFrame, readWord_eq, if_pos h.header]
  change (if m.word p = messageMarker then _ else _) = _
  rw [if_neg h.unmarked, headerLength, readContent_of_le h.length h.content]
  rfl

/-- **A message is read when there is one.** -/
theorem readFrame_of_hasMessage (h : m.HasMessage p) :
    m.readFrame p = .ok (.message (Utf8.lossy (m.between (p + 12) (p + m.word (p + 8))))) := by
  have hheader := h.header
  rw [readFrame, readWord_eq, if_pos (by omega)]
  change (if m.word p = messageMarker then _ else _) = _
  rw [if_pos h.marked, headerLength, messageHeaderLength, readWord_eq, if_pos hheader]
  change (do let text ← m.readContent p 12 (m.word (p + 8)); _) = _
  rw [readContent_of_le h.length h.content]
  rfl

/-- **Where there is neither, something is out of range.** -/
theorem readFrame_of_not (hpayload : ¬m.HasPayload p) (hmessage : ¬m.HasMessage p) :
    ∃ offset length, m.readFrame p = .error (.outOfBounds offset length m.size) := by
  rw [readFrame, readWord_eq]
  split_ifs with hheader
  · change ∃ o l, (if m.word p = messageMarker then _ else _) = _
    split_ifs with hmark
    · rw [readWord_eq]
      split_ifs with htotal
      · obtain ⟨o, l, herror⟩ := readContent_of_not_le (m := m) (p := p) fun hin ↦
          hmessage ⟨hmark, htotal, hin.1, hin.2⟩
        refine ⟨o, l, ?_⟩
        change (do let text ← m.readContent p 12 (m.word (p + 8)); _) = _
        rw [herror]
        rfl
      · exact ⟨_, _, rfl⟩
    · obtain ⟨o, l, herror⟩ := readContent_of_not_le (m := m) (p := p) fun hin ↦
        hpayload ⟨hheader, hmark, hin.1, hin.2⟩
      refine ⟨o, l, ?_⟩
      rw [headerLength, herror]
      rfl
  · exact ⟨_, _, rfl⟩

/-- Reading ends in one of three ways. -/
theorem readFrame_cases (m : Memory) (p : Nat) :
    (m.HasPayload p ∧ m.readFrame p = .ok (.payload (m.between (p + 8) (p + m.word p)))) ∨
    (m.HasMessage p ∧
      m.readFrame p = .ok (.message (Utf8.lossy (m.between (p + 12) (p + m.word (p + 8)))))) ∨
    ∃ offset length, m.readFrame p = .error (.outOfBounds offset length m.size) := by
  by_cases hpayload : m.HasPayload p
  · exact .inl ⟨hpayload, readFrame_of_hasPayload hpayload⟩
  by_cases hmessage : m.HasMessage p
  · exact .inr (.inl ⟨hmessage, readFrame_of_hasMessage hmessage⟩)
  · exact .inr (.inr (readFrame_of_not hpayload hmessage))

/-- The reader of payloads reads the same where no message is marked. -/
theorem readFrame_eq_map_readFramed (h : p + 4 ≤ m.size → m.word p ≠ messageMarker) :
    m.readFrame p = (m.readFramed p).map .payload := by
  rw [readFrame, readFramed, readWord_eq]
  split_ifs with hheader
  · change (if m.word p = messageMarker then _ else _) = (m.readContent p _ (m.word p)).map _
    rw [if_neg (h hheader)]
    cases m.readContent p headerLength (m.word p) <;> rfl
  · rfl

/-! ## What is read back -/

theorem Holds.eq_between {b : Bytes} {j : Nat} (h : m.Holds p b) (hj : j = p + b.length) :
    m.between p j = b := by
  rw [hj]
  exact h

/-- **The content of a frame is read back wherever the frame stands.** -/
theorem readFrame_of_holds {content : FrameContent} {frame : Bytes} (hframe : content.IsFrame frame)
    (hholds : m.Holds p frame) (hin : p + frame.length ≤ m.size) :
    m.readFrame p = .ok content := by
  cases hframe with
  | @payload data gap hgap hlength =>
    simp only [List.length_append, Bytes.length_littleEndian, hgap] at hin
    simp only [holds_append, Bytes.length_littleEndian, hgap, Nat.add_assoc] at hholds
    obtain ⟨hword, -, hdata⟩ := hholds
    have hlt : data.length + 8 < capacity 32 := Nat.lt_of_lt_of_le hlength (Nat.sub_le _ 1)
    have hcount := word_of_holds hword hlt
    rw [readFrame_of_hasPayload ⟨by omega, by omega, by omega, by omega⟩]
    rw [hdata.eq_between (by omega)]
  | @message text gap hgap hlength =>
    simp only [List.length_append, Bytes.length_littleEndian, hgap] at hin
    simp only [holds_append, Bytes.length_littleEndian, hgap, Nat.add_assoc, Nat.reduceAdd]
      at hholds
    obtain ⟨hmark, -, htotal, htext⟩ := hholds
    have hcount := word_of_holds htotal hlength
    rw [readFrame_of_hasMessage ⟨word_of_holds hmark (by decide), by omega, by omega, by omega⟩]
    rw [htext.eq_between (by omega), Utf8.lossy_encode]

/-- **Frames are read exactly.**  For every memory and every place:

1. A payload is read if and only if the number there is in range, does not mark a message, and
   counts a stretch that is in range and not shorter than its own header.  It is then what stands
   behind the header.
2. A message is read if and only if the number there marks one, and the number behind the mark is in
   range and counts a stretch that is in range and not shorter than its own header.  It is then what
   stands behind the header, with faults replaced.
3. In all other cases something is out of range.
4. Where no message is marked the reader of payloads reads the same.
5. The content of a frame is read back wherever the frame stands, and wherever it fits and is
   written. -/
theorem framesReadBack (m : Memory) (p : Nat) :
    (∀ data, m.readFrame p = .ok (.payload data) ↔
      m.HasPayload p ∧ data = m.between (p + 8) (p + m.word p)) ∧
    (∀ text, m.readFrame p = .ok (.message text) ↔
      m.HasMessage p ∧ text = Utf8.lossy (m.between (p + 12) (p + m.word (p + 8)))) ∧
    (¬m.HasPayload p → ¬m.HasMessage p →
      ∃ offset length, m.readFrame p = .error (.outOfBounds offset length m.size)) ∧
    ((p + 4 ≤ m.size → m.word p ≠ messageMarker) →
      m.readFrame p = (m.readFramed p).map .payload) ∧
    ∀ (content : FrameContent) (frame : Bytes), content.IsFrame frame → p + frame.length ≤ m.size →
      (m.Holds p frame → m.readFrame p = .ok content) ∧
      ∃ m', m.write p frame = .ok m' ∧ m'.readFrame p = .ok content := by
  refine ⟨fun data ↦ ⟨fun hread ↦ ?payload, fun h ↦ h.2 ▸ readFrame_of_hasPayload h.1⟩,
    fun text ↦ ⟨fun hread ↦ ?message, fun h ↦ h.2 ▸ readFrame_of_hasMessage h.1⟩,
    readFrame_of_not, readFrame_eq_map_readFramed, fun content frame hframe hin ↦
      ⟨fun hholds ↦ readFrame_of_holds hframe hholds hin, m.put p frame, ?put, ?back⟩⟩
  case payload =>
    rcases readFrame_cases m p with ⟨hpayload, h⟩ | ⟨-, h⟩ | ⟨o, l, h⟩ <;> rw [h] at hread <;>
      cases hread
    exact ⟨hpayload, rfl⟩
  case message =>
    rcases readFrame_cases m p with ⟨-, h⟩ | ⟨hmessage, h⟩ | ⟨o, l, h⟩ <;> rw [h] at hread <;>
      cases hread
    exact ⟨hmessage, rfl⟩
  case put => rw [write_eq, if_pos hin]
  case back => exact readFrame_of_holds hframe (holds_put m p frame) (by rwa [size_put])

/-- A payload of no bytes and a message that ends where the memory ends are read back, and a place
with less than a header behind it holds neither. -/
theorem framesReadBack_edges :
    (∃ m, write ⟨40, ∅⟩ 32 (payloadFrame []) = .ok m ∧ m.readFrame 32 = .ok (.payload [])) ∧
    (∃ m, write ⟨40, ∅⟩ 26 (messageFrame "no") = .ok m ∧ m.readFrame 26 = .ok (.message "no")) ∧
    ∃ offset length, readFrame ⟨40, ∅⟩ 37 = .error (.outOfBounds offset length 40) :=
  ⟨((framesReadBack ⟨40, ∅⟩ 32).2.2.2.2 _ _ (isFrame_payloadFrame (by decide)) (by decide)).2,
    ((framesReadBack ⟨40, ∅⟩ 26).2.2.2.2 _ _ (isFrame_messageFrame (by decide)) (by decide)).2,
    (framesReadBack ⟨40, ∅⟩ 37).2.2.1 (fun h ↦ absurd h.header (by decide))
      fun h ↦ absurd h.header (by decide)⟩

end Memory

end SourceHost
