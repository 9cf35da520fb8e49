import Mathlib.Data.List.Forall2
import Mathlib.Data.List.Induction
import Mathlib.Tactic.Tauto
import SourceHost.Date.Timestamp
import SourceHost.Proofs.Date.Notation

/-!
# What a text tells of a date

Reading a text along the parts of a template and putting together what has been read are two
things.  `DateItem.facts` does the first only: it goes through the text and notes what is told at
each field, whatever has been told before.  `DateFields.learnAll` does the second.

* `DateFields.read_eq` — a date is read as the facts are found and then put together.
* `DateItem.forall₂_tells` — each field of a template tells one fact.
* `DateItem.inRange_facts` — what is told is in the range of what can be told.
* `DateFields.learnAll_le_iff`, `DateFields.minute_eq_some_iff` — what is known in the end is what
  the facts tell, and nothing else.
* `Timestamp.exists_fact_iff` — which letters a pattern needs for a fact to be told.
-/

set_option autoImplicit false

namespace SourceHost

/-! ## Facts -/

/-- The kinds of things that can be told of a date. -/
inductive DateAspect where
  | year
  | month
  | day
  | dayOfYear
  | weekday
  | half
  | hour
  | hourOfHalf
  | minute
  | second
  | fraction
  | offset
  | zoneName
deriving DecidableEq, Repr

/-- Something that is told of a date. -/
inductive DateFact where
  /-- The year. -/
  | year (n : Int)
  /-- The last two digits of the year. -/
  | yearOfCentury (n : Nat)
  /-- The month, from one. -/
  | month (n : Nat)
  /-- The day of the month, from one. -/
  | day (n : Nat)
  /-- The day of the year, from one. -/
  | dayOfYear (n : Nat)
  /-- The day of the week, from Sunday as zero. -/
  | weekday (n : Nat)
  /-- The half of the day, from zero. -/
  | half (n : Nat)
  /-- The hour of the day. -/
  | hour (n : Nat)
  /-- The hour on a clock of twelve hours, where twelve is the first. -/
  | hourOfHalf (n : Nat)
  /-- The minute. -/
  | minute (n : Nat)
  /-- The second; the sixtieth is a leap second. -/
  | second (n : Nat)
  /-- The fraction of the second, in billionths. -/
  | fraction (billionths : Nat)
  /-- How many seconds the time is ahead. -/
  | offset (seconds : Int)
  /-- A name of a zone, which tells nothing. -/
  | zoneName
deriving DecidableEq, Repr

namespace DateFact

/-- What a fact is about. -/
def aspect : DateFact → DateAspect
  | year _ | yearOfCentury _ => .year
  | month _ => .month
  | day _ => .day
  | dayOfYear _ => .dayOfYear
  | weekday _ => .weekday
  | half _ => .half
  | hour _ => .hour
  | hourOfHalf _ => .hourOfHalf
  | minute _ => .minute
  | second _ => .second
  | fraction _ => .fraction
  | offset _ => .offset
  | zoneName => .zoneName

/-- A fact can be one of a date. -/
def InRange : DateFact → Prop
  | year _ | zoneName => True
  | yearOfCentury n => n ≤ 99
  | month n => 1 ≤ n ∧ n ≤ 12
  | day n => 1 ≤ n ∧ n ≤ 31
  | dayOfYear n => 1 ≤ n ∧ n ≤ 366
  | weekday n => n < 7
  | half n => n < 2
  | hour n => n ≤ 23
  | hourOfHalf n => 1 ≤ n ∧ n ≤ 12
  | minute n => n ≤ 59
  | second n => n ≤ 60
  | fraction n => n < 1000000000
  | offset n => -360000 < n ∧ n < 360000

/-- What is known if nothing else has been told. -/
def told : DateFact → DateFields
  | year n => { year := some n }
  | yearOfCentury n => { yearOfCentury := some n }
  | month n => { month := some n }
  | day n => { day := some n }
  | dayOfYear n => { dayOfYear := some n }
  | weekday n => { weekday := some n }
  | half n => { half := some n }
  | hour n => { half := some (n / 12), hourOfHalf := some (n % 12) }
  | hourOfHalf n => { hourOfHalf := some (n % 12) }
  | minute n => { minute := some n }
  | second n => { second := some n }
  | fraction n => { billionths := some n }
  | offset n => { offset := some n }
  | zoneName => {}

end DateFact

namespace DateField

/-- What a field is about. -/
def aspect : DateField → DateAspect
  | year | yearOfCentury => .year
  | month | monthShort | monthLong => .month
  | day => .day
  | dayOfYear => .dayOfYear
  | weekdayShort | weekdayLong => .weekday
  | half => .half
  | hour => .hour
  | hourOfHalf => .hourOfHalf
  | minute => .minute
  | second => .second
  | thousandths | millionths | billionths => .fraction
  | offset | offsetWithColon => .offset
  | zoneName => .zoneName

open DateFields

/-- What a number in a range tells, and what follows it. -/
def takeNumberIn (width low high : Nat) (fact : Nat → DateFact) (s : List Char) :
    Option (DateFact × List Char) := do
  let (n, rest) ← takeNumber width (skipBlanks s)
  some (fact (← within low high n), rest)

/-- What a fraction of a second tells, in units of so many billionths, and what follows it. -/
def takeFraction (width unit : Nat) (s : List Char) : Option (DateFact × List Char) := do
  let (n, rest) ← takeDigits width s
  some (.fraction (n * unit), rest)

/-- What the front of a text tells at a field, and what follows it. -/
def take : DateField → List Char → Option (DateFact × List Char)
  | year, s => (takeYear (skipBlanks s)).map fun (n, rest) ↦ (.year n, rest)
  | yearOfCentury, s => takeNumberIn 2 0 99 .yearOfCentury s
  | month, s => takeNumberIn 2 1 12 .month s
  | monthShort, s => (takeShort monthNames s).map fun (i, rest) ↦ (.month (i + 1), rest)
  | monthLong, s => (takeName monthNames s).map fun (i, rest) ↦ (.month (i + 1), rest)
  | day, s => takeNumberIn 2 1 31 .day s
  | dayOfYear, s => takeNumberIn 3 1 366 .dayOfYear s
  | weekdayShort, s => (takeShort weekdayNames s).map fun (i, rest) ↦ (.weekday i, rest)
  | weekdayLong, s => (takeName weekdayNames s).map fun (i, rest) ↦ (.weekday i, rest)
  | half, s =>
    (takeOneOf ["am".toList, "pm".toList] s).map fun (i, rest) ↦ (.half i, rest)
  | hour, s => takeNumberIn 2 0 23 .hour s
  | hourOfHalf, s => takeNumberIn 2 1 12 .hourOfHalf s
  | minute, s => takeNumberIn 2 0 59 .minute s
  | second, s => takeNumberIn 2 0 60 .second s
  | thousandths, s => takeFraction 3 1000000 s
  | millionths, s => takeFraction 6 1000 s
  | billionths, s => takeFraction 9 1 s
  | offset, s | offsetWithColon, s =>
    (takeOffset (skipBlanks s)).map fun (seconds, rest) ↦ (.offset seconds, rest)
  | zoneName, s => some (.zoneName, s.dropWhile fun c ↦ !isBlank c)

end DateField

/-- What a text tells when it is read along some parts to its end. -/
def DateItem.facts : List DateItem → List Char → Option (List DateFact)
  | [], s => if s.isEmpty then some [] else none
  | .field f :: items, s =>
    match f.take s with
    | some (fact, rest) => (facts items rest).map (fact :: ·)
    | none => none
  | .literal c :: items, s =>
    if isBlank c then facts items (skipBlanks s)
    else match s with
      | a :: rest => if a = c then facts items rest else none
      | [] => none

namespace DateFields

/-- The fields with a fact, unless it contradicts them. -/
def learn (d : DateFields) : DateFact → Option DateFields
  | .year n => (agree d.year n).map ({ d with year := · })
  | .yearOfCentury n => (agree d.yearOfCentury n).map ({ d with yearOfCentury := · })
  | .month n => d.setMonth n
  | .day n => (agree d.day n).map ({ d with day := · })
  | .dayOfYear n => (agree d.dayOfYear n).map ({ d with dayOfYear := · })
  | .weekday n => d.setWeekday n
  | .half n => d.setHalf n
  | .hour n => d.setHour n
  | .hourOfHalf n => d.setHourOfHalf (n % 12)
  | .minute n => (agree d.minute n).map ({ d with minute := · })
  | .second n => (agree d.second n).map ({ d with second := · })
  | .fraction n => (agree d.billionths n).map ({ d with billionths := · })
  | .offset n => (agree d.offset n).map ({ d with offset := · })
  | .zoneName => some d

/-- The fields with some facts, unless they contradict them or each other. -/
def learnAll (d : DateFields) : List DateFact → Option DateFields
  | [] => some d
  | fact :: facts => (d.learn fact).bind (·.learnAll facts)

/-! ## Reading is finding facts and putting them together -/

theorem readField_eq (d : DateFields) (f : DateField) (s : List Char) :
    d.readField f s = (f.take s).bind fun (fact, rest) ↦ (d.learn fact).map (·, rest) := by
  cases f <;>
    simp only [readField, DateField.take, DateField.takeNumberIn, DateField.takeFraction, learn,
      readNumber, readFraction, readOffset, Option.bind_eq_bind, Option.bind_assoc,
      Option.map_eq_bind, Option.bind_some, Function.comp_def]

/-- **A date is read as the facts are found and then put together.** -/
theorem read_eq (d : DateFields) (items : List DateItem) (s : List Char) :
    d.read items s = (DateItem.facts items s).bind d.learnAll := by
  induction items generalizing d s with
  | nil =>
    rw [read, DateItem.facts]
    split <;> rfl
  | cons i items ih =>
    cases i with
    | field f =>
      rw [read, DateItem.facts, readField_eq]
      cases hf : f.take s with
      | none => rfl
      | some told =>
        obtain ⟨fact, rest⟩ := told
        rw [Option.bind_some, Option.bind_map]
        dsimp only [Function.comp_def]
        simp only [learnAll]
        cases hlearn : d.learn fact with
        | none => simp
        | some d' => exact ih d' rest
    | literal c =>
      cases s with
      | nil =>
        rw [read, DateItem.facts]
        split
        · exact ih d _
        · rfl
      | cons a rest =>
        rw [read, DateItem.facts]
        split
        · exact ih d _
        · split
          · exact ih d rest
          · rfl

end DateFields

/-! ## Which facts are told -/

/-- A field can tell a fact. -/
def DateField.Tells (f : DateField) (fact : DateFact) : Prop :=
  ∃ s rest, f.take s = some (fact, rest)

theorem DateField.Tells.aspect_eq {f : DateField} {fact : DateFact} (h : f.Tells fact) :
    fact.aspect = f.aspect := by
  obtain ⟨s, rest, h⟩ := h
  cases f <;>
    simp [take, takeNumberIn, takeFraction, Option.bind_eq_some_iff] at h <;>
    grind [DateFact.aspect, aspect]

/-- **Each field tells one fact**, in the order of the fields. -/
theorem DateItem.forall₂_tells {items : List DateItem} {s : List Char} {fs : List DateFact}
    (h : facts items s = some fs) : List.Forall₂ DateField.Tells (items.filterMap field?) fs := by
  induction items generalizing s fs with
  | nil =>
    rw [facts] at h
    split at h <;> cases h
    exact .nil
  | cons i items ih =>
    cases i with
    | field f =>
      rw [facts] at h
      split at h
      · rename_i fact rest htake
        obtain ⟨fs, hfs, rfl⟩ := Option.map_eq_some_iff.1 h
        exact .cons ⟨s, rest, htake⟩ (ih hfs)
      · cases h
    | literal c =>
      cases s with
      | nil =>
        rw [facts] at h
        split at h
        · exact ih h
        · cases h
      | cons a rest =>
        rw [facts] at h
        split at h
        · exact ih h
        · split at h
          · exact ih h
          · cases h

theorem DateItem.map_aspect_facts {items : List DateItem} {s : List Char} {fs : List DateFact}
    (h : facts items s = some fs) :
    fs.map DateFact.aspect = (items.filterMap field?).map DateField.aspect := by
  have htells := forall₂_tells h
  generalize items.filterMap field? = fields at htells
  clear h
  induction htells with
  | nil => rfl
  | cons htells _ ih => rw [List.map_cons, List.map_cons, htells.aspect_eq, ih]

/-! ## Facts are in range -/

namespace DateFields

theorem number_append_singleton (digits : List Char) (c : Char) :
    number (digits ++ [c]) = number digits * 10 + (c.toNat - 48) := by
  rw [number, List.foldl_append]
  rfl

/-- Digits spell a number that has no more of them. -/
theorem number_lt {digits : List Char} (h : ∀ c ∈ digits, c.isDigit) :
    number digits < Nat.pow 10 digits.length := by
  induction digits using List.reverseRecOn with
  | nil => exact Nat.one_pos
  | append_singleton digits c ih =>
    have hc := (Char.isDigit_iff_toNat.1 (h c (by simp))).2
    have hlt := ih fun x hx ↦ h x (by simp [hx])
    have hnine : '9'.toNat = 57 := rfl
    rw [number_append_singleton, List.length_append, List.length_singleton]
    show _ < Nat.pow 10 digits.length * 10
    omega

theorem number_lt_of_takeDigits {width n : Nat} {s rest : List Char}
    (h : takeDigits width s = some (n, rest)) : n < Nat.pow 10 width := by
  rw [takeDigits] at h
  split at h <;> cases h
  have hlength : ((s.take width).takeWhile Char.isDigit).length ≤ width :=
    (List.takeWhile_sublist _).length_le.trans (List.length_take_le width s)
  exact (number_lt fun c hc ↦ List.mem_takeWhile_imp hc).trans_le
    (Nat.pow_le_pow_right (by decide) hlength)

theorem within_eq_some_iff {low high value n : Nat} :
    within low high value = some n ↔ n = value ∧ low ≤ value ∧ value ≤ high := by
  rw [within]
  split <;> grind

theorem lt_of_takeOneOf {words : List (List Char)} {s rest : List Char} {i : Nat}
    (h : takeOneOf words s = some (i, rest)) : i < words.length := by
  induction words generalizing i rest with
  | nil => cases h
  | cons word words ih =>
    rw [takeOneOf] at h
    split at h
    · cases h
      exact Nat.succ_pos _
    · obtain ⟨⟨j, rest'⟩, hj, heq⟩ := Option.map_eq_some_iff.1 h
      cases heq
      exact Nat.succ_lt_succ (ih hj)

theorem lt_of_takeShort {names : List (List Char)} {s rest : List Char} {i : Nat}
    (h : takeShort names s = some (i, rest)) : i < names.length := by
  have hlt := lt_of_takeOneOf h
  rwa [List.length_map] at hlt

theorem lt_of_takeName {names : List (List Char)} {s rest : List Char} {i : Nat}
    (h : takeName names s = some (i, rest)) : i < names.length := by
  obtain ⟨⟨j, rest'⟩, hshort, heq⟩ := Option.bind_eq_some_iff.1 h
  cases heq
  exact lt_of_takeShort hshort

theorem offset_lt_of_takeOffset {s rest : List Char} {seconds : Int}
    (h : takeOffset s = some (seconds, rest)) : -360000 < seconds ∧ seconds < 360000 := by
  unfold takeOffset at h
  extract_lets afterSign at h
  have hlt (negative : Bool) (rest₁ : List Char)
      (h : afterSign (negative, rest₁) = some (seconds, rest)) :
      -360000 < seconds ∧ seconds < 360000 := by
    obtain ⟨⟨hours, rest₂⟩, hhours, h⟩ := Option.bind_eq_some_iff.1 h
    obtain ⟨⟨minutes, rest₃⟩, -, h⟩ := Option.bind_eq_some_iff.1 h
    obtain ⟨m, hminutes, heq⟩ := Option.bind_eq_some_iff.1 h
    have hhours : hours < 100 := number_lt_of_takeDigits hhours
    obtain ⟨rfl, -, hle⟩ := within_eq_some_iff.1 hminutes
    cases negative <;> cases heq <;> grind
  split at h
  · exact hlt _ _ h
  · exact hlt _ _ h
  · exact hlt _ _ h
  · cases h

end DateFields

namespace DateField

open DateFields

theorem inRange_takeNumberIn {width low high : Nat} {fact : Nat → DateFact} {s rest : List Char}
    {told : DateFact} (hrange : ∀ n, low ≤ n ∧ n ≤ high → (fact n).InRange)
    (h : takeNumberIn width low high fact s = some (told, rest)) : told.InRange := by
  obtain ⟨⟨n, rest'⟩, -, h⟩ := Option.bind_eq_some_iff.1 h
  obtain ⟨m, hm, heq⟩ := Option.bind_eq_some_iff.1 h
  cases heq
  obtain ⟨rfl, hm⟩ := within_eq_some_iff.1 hm
  exact hrange m hm

theorem inRange_takeFraction {width unit : Nat} {s rest : List Char} {told : DateFact}
    (hunit : 0 < unit) (hwidth : Nat.pow 10 width * unit = 1000000000)
    (h : takeFraction width unit s = some (told, rest)) : told.InRange := by
  obtain ⟨⟨n, rest'⟩, hn, heq⟩ := Option.bind_eq_some_iff.1 h
  cases heq
  have hlt := Nat.mul_lt_mul_of_pos_right (number_lt_of_takeDigits hn) hunit
  rwa [hwidth] at hlt

/-- **A field tells what can be told of a date.** -/
theorem Tells.inRange {f : DateField} {fact : DateFact} (h : f.Tells fact) : fact.InRange := by
  obtain ⟨s, rest, h⟩ := h
  cases f with
  | year =>
    obtain ⟨_, -, heq⟩ := Option.map_eq_some_iff.1 h
    cases heq
    trivial
  | month | day | dayOfYear | hourOfHalf =>
    refine inRange_takeNumberIn ?_ h
    exact fun _ hn ↦ hn
  | yearOfCentury | hour | minute | second =>
    refine inRange_takeNumberIn ?_ h
    exact fun _ hn ↦ hn.2
  | monthShort =>
    obtain ⟨_, hi, heq⟩ := Option.map_eq_some_iff.1 h
    cases heq
    exact ⟨Nat.succ_pos _, lt_of_takeShort hi⟩
  | monthLong =>
    obtain ⟨_, hi, heq⟩ := Option.map_eq_some_iff.1 h
    cases heq
    exact ⟨Nat.succ_pos _, lt_of_takeName hi⟩
  | weekdayShort =>
    obtain ⟨_, hi, heq⟩ := Option.map_eq_some_iff.1 h
    cases heq
    exact lt_of_takeShort hi
  | weekdayLong =>
    obtain ⟨_, hi, heq⟩ := Option.map_eq_some_iff.1 h
    cases heq
    exact lt_of_takeName hi
  | half =>
    obtain ⟨_, hi, heq⟩ := Option.map_eq_some_iff.1 h
    cases heq
    exact lt_of_takeOneOf hi
  | thousandths | millionths | billionths =>
    exact inRange_takeFraction (by decide) (by decide) h
  | offset | offsetWithColon =>
    obtain ⟨_, hoffset, heq⟩ := Option.map_eq_some_iff.1 h
    cases heq
    exact offset_lt_of_takeOffset hoffset
  | zoneName =>
    cases h
    trivial

end DateField

theorem DateItem.inRange_facts {items : List DateItem} {s : List Char} {fs : List DateFact}
    (h : facts items s = some fs) : ∀ fact ∈ fs, fact.InRange := by
  have htells := forall₂_tells h
  generalize items.filterMap field? = fields at htells
  clear h
  induction htells with
  | nil => simp
  | cons htells _ ih => exact List.forall_mem_cons.2 ⟨htells.inRange, ih⟩

/-! ## What is known in the end -/

namespace DateFields

/-- A value that is known is known there, too, and is the same. -/
def Below {α : Type} (a b : Option α) : Prop := ∀ v, a = some v → b = some v

theorem below_none {α : Type} (b : Option α) : Below none b := fun _ h ↦ nomatch h

theorem below_some {α : Type} {v : α} {b : Option α} : Below (some v) b ↔ b = some v :=
  ⟨fun h ↦ h v rfl, fun h _ hv ↦ hv ▸ h⟩

theorem below_agree {α : Type} [DecidableEq α] {old x b : Option α} {new : α}
    (h : agree old new = some x) : Below x b ↔ Below old b ∧ Below (some new) b := by
  cases old with
  | none =>
    cases h
    exact ⟨fun hx ↦ ⟨below_none b, hx⟩, And.right⟩
  | some v =>
    rw [agree] at h
    split at h <;> cases h
    rename_i heq
    rw [heq, and_self]

/-- All that is known in one is known in the other. -/
@[mk_iff]
structure Le (d e : DateFields) : Prop where
  year : Below d.year e.year
  yearOfCentury : Below d.yearOfCentury e.yearOfCentury
  month : Below d.month e.month
  day : Below d.day e.day
  dayOfYear : Below d.dayOfYear e.dayOfYear
  weekday : Below d.weekday e.weekday
  half : Below d.half e.half
  hourOfHalf : Below d.hourOfHalf e.hourOfHalf
  minute : Below d.minute e.minute
  second : Below d.second e.second
  billionths : Below d.billionths e.billionths
  offset : Below d.offset e.offset

theorem empty_le (d : DateFields) : Le {} d := by
  simp only [le_iff, below_none, and_self]

theorem Le.refl (d : DateFields) : d.Le d := by
  constructor <;> exact fun _ h ↦ h

/-- What is known after a fact is what was known before and what the fact tells, and nothing
else. -/
theorem learn_le_iff {d d' e : DateFields} {fact : DateFact} (h : d.learn fact = some d') :
    d'.Le e ↔ d.Le e ∧ fact.told.Le e := by
  cases fact with
  | hour n =>
    obtain ⟨d₁, h₁, h₂⟩ := Option.bind_eq_some_iff.1 h
    obtain ⟨x, hx, rfl⟩ := Option.map_eq_some_iff.1 h₁
    obtain ⟨y, hy, rfl⟩ := Option.map_eq_some_iff.1 h₂
    simp only [le_iff, DateFact.told, below_none, below_agree hx, below_agree hy]
    tauto
  | zoneName =>
    cases h
    exact ⟨fun hle ↦ ⟨hle, empty_le e⟩, And.left⟩
  | _ =>
    obtain ⟨x, hx, rfl⟩ := Option.map_eq_some_iff.1 h
    simp only [le_iff, DateFact.told, below_none, below_agree hx]
    tauto

/-- **What is known in the end is what the facts tell, and nothing else.** -/
theorem learnAll_le_iff {d d' e : DateFields} {fs : List DateFact} (h : d.learnAll fs = some d') :
    d'.Le e ↔ d.Le e ∧ ∀ fact ∈ fs, fact.told.Le e := by
  induction fs generalizing d with
  | nil =>
    cases h
    simp
  | cons fact fs ih =>
    obtain ⟨d₁, hlearn, hrest⟩ := Option.bind_eq_some_iff.1 h
    rw [ih hrest, learn_le_iff hlearn, and_assoc, List.forall_mem_cons]

/-- What has been told is known. -/
theorem told_le {d : DateFields} {fs : List DateFact} (h : ({} : DateFields).learnAll fs = some d)
    {fact : DateFact} (hfact : fact ∈ fs) : fact.told.Le d :=
  ((learnAll_le_iff h).1 (Le.refl d)).2 fact hfact

/-- If facts of one kind alone tell a field, then it is known if and only if one of them has been
told. -/
theorem known_iff {α : Type} (known : DateFields → Option α) (without : DateFields → DateFields)
    (fact : α → DateFact) (hfact : ∀ {d n}, (fact n).told.Le d → known d = some n)
    (hother : ∀ {d other}, other.told.Le d → (∀ n, other ≠ fact n) → other.told.Le (without d))
    (hwithout : ∀ {d n}, d.Le (without d) → known d ≠ some n) {d : DateFields}
    {fs : List DateFact} (h : ({} : DateFields).learnAll fs = some d) {n : α} :
    known d = some n ↔ fact n ∈ fs := by
  refine ⟨fun hn ↦ ?_, fun hmem ↦ hfact (told_le h hmem)⟩
  by_contra hnot
  refine hwithout ((learnAll_le_iff h).2 ⟨empty_le _, fun other hmem ↦ ?_⟩) hn
  refine hother (told_le h hmem) ?_
  rintro m rfl
  have hm : known d = some m := hfact (told_le h hmem)
  exact hnot (Option.some_inj.1 (hm.symm.trans hn) ▸ hmem)

section Known

variable {d : DateFields} {fs : List DateFact} (h : ({} : DateFields).learnAll fs = some d)

include h

theorem hour_of_mem {n : Nat} (hmem : .hour n ∈ fs) :
    d.half = some (n / 12) ∧ d.hourOfHalf = some (n % 12) :=
  have hle := told_le h hmem
  ⟨below_some.1 hle.half, below_some.1 hle.hourOfHalf⟩

theorem minute_eq_some_iff {n : Nat} : d.minute = some n ↔ .minute n ∈ fs :=
  known_iff (·.minute) ({ · with minute := none }) .minute (fun hle ↦ below_some.1 hle.minute)
    (fun {_ other} hle hne ↦ by cases other <;> simp_all [le_iff, DateFact.told, below_none])
    (fun hle hn ↦ nomatch hle.minute _ hn) h

theorem second_eq_some_iff {n : Nat} : d.second = some n ↔ .second n ∈ fs :=
  known_iff (·.second) ({ · with second := none }) .second (fun hle ↦ below_some.1 hle.second)
    (fun {_ other} hle hne ↦ by cases other <;> simp_all [le_iff, DateFact.told, below_none])
    (fun hle hn ↦ nomatch hle.second _ hn) h

theorem billionths_eq_some_iff {n : Nat} : d.billionths = some n ↔ .fraction n ∈ fs :=
  known_iff (·.billionths) ({ · with billionths := none }) .fraction
    (fun hle ↦ below_some.1 hle.billionths)
    (fun {_ other} hle hne ↦ by cases other <;> simp_all [le_iff, DateFact.told, below_none])
    (fun hle hn ↦ nomatch hle.billionths _ hn) h

theorem offset_eq_some_iff {n : Int} : d.offset = some n ↔ .offset n ∈ fs :=
  known_iff (·.offset) ({ · with offset := none }) .offset (fun hle ↦ below_some.1 hle.offset)
    (fun {_ other} hle hne ↦ by cases other <;> simp_all [le_iff, DateFact.told, below_none])
    (fun hle hn ↦ nomatch hle.offset _ hn) h

end Known

end DateFields

/-! ## Letters of a pattern -/

namespace DateAspect

/-- The letters that stand for fields of a kind. -/
def letters : DateAspect → List Char
  | year => ['y', 'u']
  | month => ['M', 'L']
  | day => ['d']
  | dayOfYear => ['D']
  | weekday => ['E']
  | half => ['a']
  | hour => ['H', 'k']
  | hourOfHalf => ['h', 'K']
  | minute => ['m']
  | second => ['s']
  | fraction => ['S']
  | offset => ['Z', 'X', 'x']
  | zoneName => ['z']

/-- What the fields of a letter are about. -/
def ofLetter? : Char → Option DateAspect
  | 'y' | 'u' => some year
  | 'M' | 'L' => some month
  | 'd' => some day
  | 'D' => some dayOfYear
  | 'E' => some weekday
  | 'a' => some half
  | 'H' | 'k' => some hour
  | 'h' | 'K' => some hourOfHalf
  | 'm' => some minute
  | 's' => some second
  | 'S' => some fraction
  | 'Z' | 'X' | 'x' => some offset
  | 'z' => some zoneName
  | _ => none

/-- What a field is about does not depend on how often its letter comes. -/
theorem map_aspect_ofRun (letter : Char) (count : Nat) :
    (DateField.ofRun letter count).map DateField.aspect = ofLetter? letter := by
  unfold ofLetter?
  split <;> grind [DateField.ofRun, DateField.aspect]

theorem ofLetter?_eq_some_iff {letter : Char} {a : DateAspect} :
    ofLetter? letter = some a ↔ letter ∈ a.letters := by
  constructor
  · intro h
    unfold ofLetter? at h
    split at h <;> cases h <;> decide
  · intro h
    cases a <;> simp only [letters, List.mem_cons, List.not_mem_nil, or_false] at h <;>
      rcases h with rfl | rfl | rfl <;> rfl

theorem exists_ofRun_iff {letter : Char} {count : Nat} {a : DateAspect} :
    (∃ f, DateField.ofRun letter count = some f ∧ f.aspect = a) ↔ letter ∈ a.letters := by
  rw [← ofLetter?_eq_some_iff, ← map_aspect_ofRun letter count, Option.map_eq_some_iff]

end DateAspect

namespace Pattern

/-- A piece is a run of one of some letters. -/
def Piece.isRunOf (letters : List Char) : Piece → Bool
  | run letter _ => letter ∈ letters
  | text _ => false

/-- One of some letters is in a pattern, outside of quotes. -/
def HasRun (letters : List Char) (pattern : String) : Prop :=
  ∃ p ∈ pieces pattern.toList, p.isRunOf letters

instance (letters : List Char) (pattern : String) : Decidable (HasRun letters pattern) :=
  inferInstanceAs (Decidable (∃ p ∈ pieces pattern.toList, _))

theorem mem_aspects_iff {s : List Char} {a : DateAspect} :
    a ∈ ((items s).filterMap DateItem.field?).map DateField.aspect ↔
      ∃ p ∈ pieces s, p.isRunOf a.letters := by
  rw [items_eq_flatMap_pieces, filterMap_field?_items]
  simp only [List.mem_map, List.mem_filterMap]
  constructor
  · rintro ⟨f, ⟨p, hp, hf⟩, ha⟩
    cases p with
    | run letter count =>
      exact ⟨_, hp, decide_eq_true (DateAspect.exists_ofRun_iff.1 ⟨f, hf, ha⟩)⟩
    | text chars => cases hf
  · rintro ⟨p, hp, hletter⟩
    cases p with
    | run letter count =>
      obtain ⟨f, hf, ha⟩ := DateAspect.exists_ofRun_iff.2 (of_decide_eq_true hletter)
      exact ⟨f, ⟨_, hp, hf⟩, ha⟩
    | text chars => cases hletter

end Pattern

namespace Timestamp

/-- What a text tells when it is read along a pattern to its end. -/
def facts? (input pattern : String) : Option (List DateFact) :=
  DateItem.facts (Pattern.items pattern.toList) (trimBlanks input.toList)

theorem parse?_eq (zones : ZoneBook) (input pattern : String) (timezone : Option String) :
    parse? zones input pattern timezone =
      ((facts? input pattern).bind ({} : DateFields).learnAll).bind (ofFields zones · timezone) := by
  rw [parse?, Pattern.template, String.toList_ofList, Template.items?_flatMap_itemText,
    Option.bind_eq_bind, Option.bind_some, DateFields.read_eq]
  rfl

/-- **A text tells something of a kind** if and only if the pattern has a letter for it. -/
theorem exists_fact_iff {α : Type} {fact : α → DateFact} (a : DateAspect)
    (hfact : ∀ other : DateFact, other.aspect = a ↔ ∃ n, other = fact n) {input pattern : String}
    {fs : List DateFact} (h : facts? input pattern = some fs) :
    (∃ n, fact n ∈ fs) ↔ Pattern.HasRun a.letters pattern := by
  have haspects : a ∈ fs.map DateFact.aspect ↔ Pattern.HasRun a.letters pattern := by
    rw [DateItem.map_aspect_facts h, Pattern.mem_aspects_iff]
    rfl
  rw [← haspects, List.mem_map]
  constructor
  · rintro ⟨n, hmem⟩
    exact ⟨_, hmem, (hfact _).2 ⟨n, rfl⟩⟩
  · rintro ⟨other, hmem, hother⟩
    obtain ⟨n, rfl⟩ := (hfact other).1 hother
    exact ⟨n, hmem⟩

section Told

variable {input pattern : String} {fs : List DateFact} (h : facts? input pattern = some fs)

include h

theorem exists_hour_iff : (∃ n, .hour n ∈ fs) ↔ Pattern.HasRun ['H', 'k'] pattern :=
  exists_fact_iff .hour (fun other ↦ by cases other <;> simp [DateFact.aspect]) h

theorem exists_minute_iff : (∃ n, .minute n ∈ fs) ↔ Pattern.HasRun ['m'] pattern :=
  exists_fact_iff .minute (fun other ↦ by cases other <;> simp [DateFact.aspect]) h

theorem exists_second_iff : (∃ n, .second n ∈ fs) ↔ Pattern.HasRun ['s'] pattern :=
  exists_fact_iff .second (fun other ↦ by cases other <;> simp [DateFact.aspect]) h

theorem exists_fraction_iff : (∃ n, .fraction n ∈ fs) ↔ Pattern.HasRun ['S'] pattern :=
  exists_fact_iff .fraction (fun other ↦ by cases other <;> simp [DateFact.aspect]) h

theorem exists_offset_iff : (∃ n, .offset n ∈ fs) ↔ Pattern.HasRun ['Z', 'X', 'x'] pattern :=
  exists_fact_iff .offset (fun other ↦ by cases other <;> simp [DateFact.aspect]) h

end Told

end Timestamp

end SourceHost
