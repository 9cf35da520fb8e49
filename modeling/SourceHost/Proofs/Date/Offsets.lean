import Mathlib.Data.List.Count
import SourceHost.Date.Timestamp
import SourceHost.Proofs.Date.Zones

/-!
# Offsets given as numbers

An offset is written as a sign and digits, `+9`, `-0530` or `+09:00`.  `Zone.parseOffset` takes more
than that: it looks at the digits and leaves out the colons, wherever they stand, and the minutes
may be more than an hour has.

* `Zone.parseOffset_eq_some_iff` — which texts are taken, and for which offsets.
* `Zone.parseOffset_eq_countedOffset` — what is neither a digit nor a colon is found by counting
  bytes.
* `Zone.IsOffset` — how an offset is written.
* `Zone.isOffset_iff` — what is written like an offset is taken; so is what has colons elsewhere, or
  more minutes than an hour has.
* `Zone.resolve_of_offset`, `Zone.resolve_of_name` — what is taken gives a zone, and what is not is
  the name of one.
* `Zone.offsetsTaken` — all of this together.
* `Zone.colon_out_of_place` — a text is taken for an offset that it is not.
-/

set_option autoImplicit false

namespace SourceHost.Zone

open DateFields (number)

/-! ## Which texts are taken -/

/-- What a sign makes of a number. -/
def sign? : Char → Option Int
  | '+' => some 1
  | '-' => some (-1)
  | _ => none

/-- The hours and minutes that digits tell: one or two of them the hours, four of them both. -/
def clock? : (digits : List Char) → Option (Nat × Nat)
  | [h] => some (number [h], 0)
  | [g, h] => some (number [g, h], 0)
  | [g, h, m, n] => some (number [g, h], number [m, n])
  | _ => none

/-- How many seconds there are in hours and minutes. -/
def secondsOf (hours minutes : Nat) : Nat := hours * 3600 + minutes * 60

/-- The offset that a sign and digits give, if it is less than a day. -/
def signed (sign : Int) (digits : List Char) : Option Int :=
  (clock? digits).bind fun (hours, minutes) ↦
    if secondsOf hours minutes < 86400 then some (sign * secondsOf hours minutes) else none

theorem signed_eq_some_iff {sign offset : Int} {digits : List Char} :
    signed sign digits = some offset ↔ ∃ hours minutes, clock? digits = some (hours, minutes) ∧
      secondsOf hours minutes < 86400 ∧ offset = sign * secondsOf hours minutes := by
  rw [signed, Option.bind_eq_some_iff]
  constructor
  · rintro ⟨⟨hours, minutes⟩, hclock, h⟩
    dsimp only at h
    split at h <;> cases h
    exact ⟨hours, minutes, hclock, ‹_›, rfl⟩
  · rintro ⟨hours, minutes, hclock, hday, rfl⟩
    exact ⟨(hours, minutes), hclock, if_pos hday⟩

theorem sign?_eq_some_iff {c : Char} {sign : Int} :
    sign? c = some sign ↔ c = '+' ∧ sign = 1 ∨ c = '-' ∧ sign = -1 := by
  unfold sign?
  split <;> simp_all [eq_comm]

theorem parseOffset_of_sign {c : Char} {sign : Int} (h : sign? c = some sign) (rest : List Char) :
    parseOffset (c :: rest) =
      if rest.all fun x ↦ x.isDigit || x = ':' then signed sign (rest.filter Char.isDigit)
      else none := by
  rcases sign?_eq_some_iff.1 h with ⟨rfl, rfl⟩ | ⟨rfl, rfl⟩ <;>
    simp only [parseOffset, Option.bind_eq_bind, Option.bind_some, Option.bind_none] <;>
    cases rest.all fun x ↦ x.isDigit || x = ':' with
    | false => rfl
    | true =>
      rcases rest.filter Char.isDigit with _ | ⟨g, _ | ⟨h, _ | ⟨m, _ | ⟨n, _ | ⟨x, digits⟩⟩⟩⟩⟩ <;>
        simp [signed, clock?, secondsOf, number] <;>
        grind

theorem parseOffset_of_no_sign {c : Char} (h : sign? c = none) (rest : List Char) :
    parseOffset (c :: rest) = none := by
  unfold sign? at h
  split at h <;> cases h
  rw [parseOffset]
  · rfl
  all_goals simp_all

/-- **A text is taken** if it is a sign, digits and colons; its digits, without the colons, tell the
hours or the hours and the minutes, and it must be less than a day. -/
theorem parseOffset_eq_some_iff {s : List Char} {offset : Int} :
    parseOffset s = some offset ↔ ∃ c rest sign hours minutes, s = c :: rest ∧
      sign? c = some sign ∧ (∀ x ∈ rest, x.isDigit ∨ x = ':') ∧
      clock? (rest.filter Char.isDigit) = some (hours, minutes) ∧
      secondsOf hours minutes < 86400 ∧ offset = sign * secondsOf hours minutes := by
  have hall (rest : List Char) : (rest.all fun x ↦ x.isDigit || x = ':') = true ↔
      ∀ x ∈ rest, x.isDigit ∨ x = ':' := by
    simp
  constructor
  · intro h
    cases s with
    | nil => cases h
    | cons c rest =>
      cases hsign : sign? c with
      | none =>
        rw [parseOffset_of_no_sign hsign] at h
        cases h
      | some sign =>
        rw [parseOffset_of_sign hsign] at h
        split at h
        · obtain ⟨hours, minutes, hclock, hday, heq⟩ := signed_eq_some_iff.1 h
          exact ⟨c, rest, sign, hours, minutes, rfl, hsign, (hall rest).1 ‹_›, hclock, hday, heq⟩
        · cases h
  · rintro ⟨c, rest, sign, hours, minutes, rfl, hsign, hrest, hclock, hday, heq⟩
    rw [parseOffset_of_sign hsign, if_pos ((hall rest).2 hrest)]
    exact signed_eq_some_iff.2 ⟨hours, minutes, hclock, hday, heq⟩

/-! ## Counting bytes -/

/-- The offset that a text gives, found by counting: its digits must be as many as the bytes after
the sign, less the colons. -/
def countedOffset : List Char → Option Int
  | [] => none
  | c :: rest =>
    (sign? c).bind fun sign ↦
      let digits := rest.filter Char.isDigit
      if digits.length ≠ (rest.flatMap String.utf8EncodeChar).length - rest.count ':' then none
      else
        let clock : Option (Nat × Nat) := match digits.length with
          | 1 | 2 => some (number digits, 0)
          | 4 => some (number (digits.take 2), number (digits.drop 2))
          | _ => none
        clock.bind fun (hours, minutes) ↦ Timestamp.validOffset (sign * secondsOf hours minutes)

theorem utf8Size_of_isDigit {c : Char} (h : c.isDigit) : c.utf8Size = 1 := by
  have hle : c.toNat ≤ 57 := (Char.isDigit_iff_toNat.1 h).2
  rw [Char.utf8Size_eq_one_iff, UInt32.le_iff_toNat_le]
  exact Nat.le_trans hle (by decide)

/-- Digits and colons have one byte each, and all other characters have one or more. -/
theorem length_digits_le (s : List Char) :
    (s.filter Char.isDigit).length + s.count ':' ≤ (s.flatMap String.utf8EncodeChar).length ∧
      ((s.filter Char.isDigit).length + s.count ':' = (s.flatMap String.utf8EncodeChar).length ↔
        ∀ x ∈ s, x.isDigit ∨ x = ':') := by
  induction s with
  | nil => simp
  | cons c s ih =>
    rw [List.flatMap_cons, List.length_append, String.length_utf8EncodeChar, List.forall_mem_cons,
      ← ih.2]
    rcases em (c = ':') with rfl | hcolon
    · rw [List.filter_cons_of_neg (by decide), List.count_cons_self]
      have hsize : ':'.utf8Size = 1 := by decide
      grind
    · rw [List.count_cons_of_ne hcolon]
      cases hdigit : c.isDigit with
      | true =>
        rw [List.filter_cons_of_pos hdigit, List.length_cons, utf8Size_of_isDigit hdigit]
        grind
      | false =>
        rw [List.filter_cons_of_neg (by simp [hdigit])]
        have hsize := Char.utf8Size_pos c
        grind

theorem length_digits_eq_iff (s : List Char) :
    (s.filter Char.isDigit).length = (s.flatMap String.utf8EncodeChar).length - s.count ':' ↔
      (s.all fun x ↦ x.isDigit || x = ':') = true := by
  have hall : (s.all fun x ↦ x.isDigit || x = ':') = true ↔ ∀ x ∈ s, x.isDigit ∨ x = ':' := by
    simp
  rw [hall, ← (length_digits_le s).2]
  have hle := (length_digits_le s).1
  omega

theorem clock?_eq (digits : List Char) :
    clock? digits = match digits.length with
      | 1 | 2 => some (number digits, 0)
      | 4 => some (number (digits.take 2), number (digits.drop 2))
      | _ => none := by
  rcases digits with _ | ⟨g, _ | ⟨h, _ | ⟨m, _ | ⟨n, _ | ⟨x, digits⟩⟩⟩⟩⟩ <;> rfl

theorem validOffset_of_sign {c : Char} {sign : Int} (h : sign? c = some sign) (seconds : Nat) :
    Timestamp.validOffset (sign * seconds) =
      if seconds < 86400 then some (sign * seconds) else none := by
  rw [Timestamp.validOffset]
  rcases sign?_eq_some_iff.1 h with ⟨-, rfl⟩ | ⟨-, rfl⟩
  · congr 1
    exact propext (by omega)
  · congr 1
    exact propext (by omega)

/-- **What is neither a digit nor a colon is found by counting bytes.** -/
theorem parseOffset_eq_countedOffset (s : List Char) : parseOffset s = countedOffset s := by
  cases s with
  | nil => rfl
  | cons c rest =>
    rw [countedOffset]
    cases hsign : sign? c with
    | none => exact parseOffset_of_no_sign hsign rest
    | some sign =>
      rw [parseOffset_of_sign hsign, Option.bind_some]
      dsimp only
      rw [← clock?_eq, ite_not, signed]
      simp only [length_digits_eq_iff, validOffset_of_sign hsign]

/-! ## How an offset is written -/

/-- A text is written like an offset. -/
inductive IsOffset : List Char → Int → Prop
  /-- A sign, and one or two digits for the hours. -/
  | hours {c : Char} {sign : Int} {hours : List Char} (hsign : sign? c = some sign)
    (hdigits : ∀ x ∈ hours, x.isDigit) (hlength : hours.length = 1 ∨ hours.length = 2)
    (hday : secondsOf (number hours) 0 < 86400) :
    IsOffset (c :: hours) (sign * secondsOf (number hours) 0)
  /-- A sign, two digits for the hours and two for the minutes, with a colon between them or
  without. -/
  | minutes {c : Char} {sign : Int} {hours colon minutes : List Char}
    (hsign : sign? c = some sign) (hdigits : ∀ x ∈ hours ++ minutes, x.isDigit)
    (hhours : hours.length = 2) (hminutes : minutes.length = 2)
    (hcolon : colon = [] ∨ colon = [':']) (hhour : number minutes < 60)
    (hday : secondsOf (number hours) (number minutes) < 86400) :
    IsOffset (c :: (hours ++ colon ++ minutes)) (sign * secondsOf (number hours) (number minutes))

/-- There is no colon, or one, between two characters and two others. -/
def ColonInPlace (rest : List Char) : Prop :=
  ':' ∉ rest ∨ ∃ hours minutes : List Char, hours.length = 2 ∧ minutes.length = 2 ∧
    ':' ∉ hours ++ minutes ∧ rest = hours ++ ':' :: minutes

/-- The minutes that some digits tell, if they tell any, are those of an hour. -/
def MinutesOfHour (digits : List Char) : Prop :=
  ∀ hours minutes, clock? digits = some (hours, minutes) → minutes < 60

theorem clock?_hours {hours : List Char} (h : hours.length = 1 ∨ hours.length = 2) :
    clock? hours = some (number hours, 0) := by
  rw [clock?_eq]
  rcases h with h | h <;> rw [h] <;> rfl

theorem clock?_append {hours minutes : List Char} (hhours : hours.length = 2)
    (hminutes : minutes.length = 2) :
    clock? (hours ++ minutes) = some (number hours, number minutes) := by
  rw [clock?_eq, List.length_append, hhours, hminutes, List.take_left' hhours,
    List.drop_left' hhours]
  rfl

theorem clock?_cases {digits : List Char} {hours minutes : Nat}
    (h : clock? digits = some (hours, minutes)) :
    ((digits.length = 1 ∨ digits.length = 2) ∧ hours = number digits ∧ minutes = 0) ∨
      ∃ a b, digits = a ++ b ∧ a.length = 2 ∧ b.length = 2 ∧ hours = number a ∧
        minutes = number b := by
  unfold clock? at h
  split at h <;> cases h
  · exact .inl ⟨.inl rfl, rfl, rfl⟩
  · exact .inl ⟨.inr rfl, rfl, rfl⟩
  · exact .inr ⟨[_, _], [_, _], rfl, rfl, rfl, rfl, rfl⟩

theorem not_mem_of_digits {s : List Char} (h : ∀ x ∈ s, x.isDigit) : ':' ∉ s :=
  fun hcolon ↦ absurd (h ':' hcolon) (by decide)

theorem digits_of_not_mem {s : List Char} (h : ∀ x ∈ s, x.isDigit ∨ x = ':') (hcolon : ':' ∉ s) :
    ∀ x ∈ s, x.isDigit := by
  intro x hx
  rcases h x hx with hdigit | rfl
  · exact hdigit
  · exact absurd hx hcolon

theorem filter_colon {hours minutes : List Char} (hdigits : ∀ x ∈ hours ++ minutes, x.isDigit) :
    (hours ++ ':' :: minutes).filter Char.isDigit = hours ++ minutes := by
  rw [List.filter_append, List.filter_cons_of_neg (by decide), ← List.filter_append,
    List.filter_eq_self.2 hdigits]

theorem IsOffset.spec {s : List Char} {offset : Int} (h : IsOffset s offset) :
    parseOffset s = some offset ∧ ColonInPlace s.tail ∧
      MinutesOfHour (s.tail.filter Char.isDigit) := by
  cases h with
  | @hours c sign hours hsign hdigits hlength hday =>
    have hfilter := List.filter_eq_self.2 hdigits
    have hclock := clock?_hours hlength
    rw [List.tail_cons, hfilter]
    refine ⟨parseOffset_eq_some_iff.2 ⟨c, hours, sign, _, _, rfl, hsign,
      fun x hx ↦ .inl (hdigits x hx), by rw [hfilter, hclock], hday, rfl⟩,
      .inl (not_mem_of_digits hdigits), ?_⟩
    intro h m hm
    cases hclock.symm.trans hm
    decide
  | @minutes c sign hours colon minutes hsign hdigits hhours hminutes hcolon hhour hday =>
    have hclock := clock?_append hhours hminutes
    have hfilter : (hours ++ colon ++ minutes).filter Char.isDigit = hours ++ minutes := by
      rcases hcolon with rfl | rfl
      · rw [List.append_nil, List.filter_eq_self.2 hdigits]
      · rw [List.append_assoc, List.singleton_append, filter_colon hdigits]
    have hrest : ∀ x ∈ hours ++ colon ++ minutes, x.isDigit ∨ x = ':' := by
      intro x hx
      rcases hcolon with rfl | rfl <;> grind
    have hplace : ColonInPlace (hours ++ colon ++ minutes) := by
      rcases hcolon with rfl | rfl
      · rw [List.append_nil]
        exact .inl (not_mem_of_digits hdigits)
      · rw [List.append_assoc, List.singleton_append]
        exact .inr ⟨hours, minutes, hhours, hminutes, not_mem_of_digits hdigits, rfl⟩
    rw [List.tail_cons, hfilter]
    refine ⟨parseOffset_eq_some_iff.2 ⟨c, _, sign, _, _, rfl, hsign, hrest,
      by rw [hfilter, hclock], hday, rfl⟩, hplace, ?_⟩
    intro h m hm
    cases hclock.symm.trans hm
    exact hhour

/-- **What is written like an offset is taken for it**, and what is taken besides has colons
elsewhere or more minutes than an hour has. -/
theorem isOffset_iff {s : List Char} {offset : Int} :
    IsOffset s offset ↔ parseOffset s = some offset ∧ ColonInPlace s.tail ∧
      MinutesOfHour (s.tail.filter Char.isDigit) := by
  refine ⟨IsOffset.spec, ?_⟩
  rintro ⟨h, hplace, hhour⟩
  obtain ⟨c, rest, sign, hours, minutes, rfl, hsign, hrest, hclock, hday, rfl⟩ :=
    parseOffset_eq_some_iff.1 h
  rw [List.tail_cons] at hplace hhour
  have hminutes := hhour hours minutes hclock
  rcases hplace with hcolon | ⟨a, b, ha, hb, hcolon, rfl⟩
  · have hdigits := digits_of_not_mem hrest hcolon
    rw [List.filter_eq_self.2 hdigits] at hclock
    rcases clock?_cases hclock with ⟨hlength, rfl, rfl⟩ | ⟨a, b, rfl, ha, hb, rfl, rfl⟩
    · exact .hours hsign hdigits hlength hday
    · have hoffset := IsOffset.minutes hsign hdigits ha hb (.inl rfl) hminutes hday
      rwa [List.append_nil] at hoffset
  · have hdigits : ∀ x ∈ a ++ b, x.isDigit :=
      digits_of_not_mem (fun x hx ↦ hrest x (by grind)) hcolon
    rw [filter_colon hdigits, clock?_append ha hb] at hclock
    cases hclock
    have hoffset := IsOffset.minutes hsign hdigits ha hb (.inr rfl) hminutes hday
    rwa [List.append_assoc, List.singleton_append] at hoffset

/-! ## Names of zones -/

theorem numberOf_of_head {c : Char} (hG : c ≠ 'G') (hU : c ≠ 'U') (rest : List Char) :
    numberOf (c :: rest) = c :: rest := by
  have hdrop {d : Char} (hd : c ≠ d) (front : List Char) :
      dropPrefix? (d :: front) (c :: rest) = none := by
    rw [dropPrefix?, List.isPrefixOf_cons_cons, beq_eq_false_iff_ne.2 hd.symm, Bool.false_and]
    rfl
  have hgmt : dropPrefix? "GMT".toList (c :: rest) = none := hdrop hG _
  have hutc : dropPrefix? "UTC".toList (c :: rest) = none := hdrop hU _
  rw [numberOf, hgmt, hutc]
  rfl

/-- What stands for universal time by itself is not taken for an offset. -/
theorem parseOffset_of_universal {name : List Char} (h : IsUniversal name) :
    parseOffset (numberOf name) = none := by
  rcases h with hcurrent | hempty
  · cases name with
    | nil => rfl
    | cons c rest =>
      have hc : c.toLower = 'c' := (List.cons.inj hcurrent).1
      have hne {d : Char} (hd : d.toLower ≠ 'c') : c ≠ d := fun heq ↦ hd (heq ▸ hc)
      have hsign : sign? c = none := by
        rw [Option.eq_none_iff_forall_ne_some]
        intro sign h
        rcases sign?_eq_some_iff.1 h with ⟨heq, -⟩ | ⟨heq, -⟩
        · exact hne (by decide) heq
        · exact hne (by decide) heq
      rw [numberOf_of_head (hne (by decide)) (hne (by decide))]
      exact parseOffset_of_no_sign hsign rest
  · rw [hempty]
    rfl

/-- What is taken for an offset gives a zone by itself, in every book. -/
theorem resolve_of_offset {text : String} {offset : Int}
    (h : parseOffset (numberOf (trimBlanks text.toList)) = some offset) (zones : ZoneBook) :
    resolve zones (some text) = fixed offset := by
  have hname : ¬IsUniversal (trimBlanks text.toList) := by
    intro huniversal
    cases h.symm.trans (parseOffset_of_universal huniversal)
  rw [resolve_some, if_neg hname, h]

/-- **What is not taken for an offset is the name of a zone**, unless it stands for universal
time, which counts also if no zone has the name. -/
theorem resolve_of_name {text : String}
    (h : parseOffset (numberOf (trimBlanks text.toList)) = none) (zones : ZoneBook) :
    resolve zones (some text) =
      if IsUniversal (trimBlanks text.toList) then universal
      else (zones (String.ofList (trimBlanks text.toList))).getD universal := by
  rw [resolve_some, h]

/-! ## What counts as a number -/

/-- A text is taken for an offset exactly if it is written like one, unless it has a colon
elsewhere or more minutes than an hour has and is taken nevertheless. -/
theorem taken_iff_isOffset {s : List Char} :
    (∀ offset, parseOffset s = some offset ↔ IsOffset s offset) ↔ parseOffset s = none ∨
      ColonInPlace s.tail ∧ MinutesOfHour (s.tail.filter Char.isDigit) := by
  constructor
  · intro h
    refine or_iff_not_imp_left.2 fun hsome ↦ ?_
    obtain ⟨offset, hoffset⟩ := Option.ne_none_iff_exists'.1 hsome
    exact ((h offset).1 hoffset).spec.2
  · rintro (hnone | hplace) offset
    · refine iff_of_false (hnone ▸ nofun) fun h ↦ ?_
      exact nomatch hnone.symm.trans h.spec.1
    · rw [isOffset_iff, and_iff_left hplace]

/-- **Which texts are taken for an offset.**

1. They are those of a sign, digits and colons, of which the digits alone tell hours, or hours and
   minutes, and less than a day of them; the offset is what they tell.
2. The same are found by counting bytes.
3. All that is written like an offset is among them.
4. A text is taken for what is written like it, or for none, unless it is taken and has a colon
   that does not stand between hours and minutes, or more minutes than an hour has.
5. What is taken gives a zone, with or without `GMT` or `UTC` before it.  What is not is the name of
   a zone, and stands for universal time if no zone has the name; but `current` stands for it
   in any case, and so does what has nothing but `GMT` or `UTC`. -/
theorem offsetsTaken (s : List Char) :
    (∀ offset, parseOffset s = some offset ↔ ∃ c rest sign hours minutes, s = c :: rest ∧
      sign? c = some sign ∧ (∀ x ∈ rest, x.isDigit ∨ x = ':') ∧
      clock? (rest.filter Char.isDigit) = some (hours, minutes) ∧
      secondsOf hours minutes < 86400 ∧ offset = sign * secondsOf hours minutes) ∧
      parseOffset s = countedOffset s ∧
      (∀ offset, IsOffset s offset → parseOffset s = some offset) ∧
      ((∀ offset, parseOffset s = some offset ↔ IsOffset s offset) ↔ parseOffset s = none ∨
        ColonInPlace s.tail ∧ MinutesOfHour (s.tail.filter Char.isDigit)) ∧
      ∀ (zones : ZoneBook) text name, trimBlanks text.toList = name → numberOf name = s →
        (∀ offset, parseOffset s = some offset → resolve zones (some text) = fixed offset) ∧
        (parseOffset s = none → resolve zones (some text) =
          if name.map Char.toLower = "current".toList ∨ s = [] then universal
          else (zones (String.ofList name)).getD universal) := by
  refine ⟨fun offset ↦ parseOffset_eq_some_iff, parseOffset_eq_countedOffset s,
    fun offset h ↦ h.spec.1, taken_iff_isOffset, ?_⟩
  rintro zones text name rfl rfl
  exact ⟨fun offset h ↦ resolve_of_offset h zones, fun h ↦ resolve_of_name h zones⟩

/-- Five hours and a half to the west are taken as they are written. -/
theorem offsetsTaken_west :
    parseOffset "-0530".toList = some (-19800) ∧ IsOffset "-0530".toList (-19800) ∧
      ∀ zones, resolve zones (some " GMT-0530 ") = fixed (-19800) := by
  obtain ⟨htold, -, -, hmeets, hzone⟩ := offsetsTaken "-0530".toList
  have hdigits : ∀ x ∈ "0530".toList, x.isDigit := List.all_eq_true.1 (by decide)
  have htaken : parseOffset "-0530".toList = some (-19800) :=
    (htold _).2 ⟨'-', "0530".toList, -1, 5, 30, by decide, rfl, fun x hx ↦ .inl (hdigits x hx),
      by decide, by rw [secondsOf]; omega, by rw [secondsOf]; omega⟩
  have hclock : clock? ("-0530".toList.tail.filter Char.isDigit) = some (5, 30) := by
    decide +kernel
  have hminutes : MinutesOfHour ("-0530".toList.tail.filter Char.isDigit) := by
    intro hours minutes h
    cases hclock.symm.trans h
    decide
  refine ⟨htaken, (hmeets.2 (.inr ⟨.inl (by decide +kernel), hminutes⟩) _).1 htaken, fun zones ↦ ?_⟩
  exact (hzone zones " GMT-0530 " "GMT-0530".toList (by decide +kernel) (by decide +kernel)).1 _
    htaken

/-- **A text is taken for an offset that it is not.**  `+1:2` is taken for twelve hours and `+0099`
for an hour and thirty-nine minutes, though neither is written like an offset; that no zone has
them as names makes no difference. -/
theorem colon_out_of_place :
    (parseOffset "+1:2".toList = some 43200 ∧ ¬∃ offset, IsOffset "+1:2".toList offset) ∧
      (parseOffset "+0099".toList = some 5940 ∧ ¬∃ offset, IsOffset "+0099".toList offset) ∧
      ZoneBook.small "+1:2" = none ∧ ZoneBook.small "+0099" = none ∧
      resolve .small (some "+1:2") = fixed 43200 ∧ resolve .small (some "+0099") = fixed 5940 := by
  refine ⟨⟨by decide +kernel, ?_⟩, ⟨by decide +kernel, ?_⟩, rfl, rfl, rfl, rfl⟩
  · rintro ⟨offset, h⟩
    rcases h.spec.2.1 with hcolon | ⟨hours, minutes, hhours, hminutes, -, hrest⟩
    · exact hcolon (by decide)
    · have hlength := congrArg List.length hrest
      rw [List.length_append, List.length_cons, hhours, hminutes] at hlength
      exact absurd hlength (by decide)
  · rintro ⟨offset, h⟩
    have hclock : clock? ("+0099".toList.tail.filter Char.isDigit) = some (0, 99) := by
      decide +kernel
    exact absurd (h.spec.2.2 0 99 hclock) (by decide)

end SourceHost.Zone
