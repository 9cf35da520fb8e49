import SourceHost.Proofs.Date.Facts
import SourceHost.Proofs.Date.Zones
import SourceHost.Proofs.Wire.Reading

/-!
# The moment that a text names

What a text tells of a date and the zone in which it is meant name a moment.  Here that moment is
a second and the billionths after it, of which there are more than a billion in a leap second;
`Timestamp.parse?` tells it in whole thousandths.

* `Timestamp.offsetWins` — which offsets in a text count more than a time zone given beside it.
* `Timestamp.timeOfDayKept` — which times of day in a text are those of the moment it names.
-/

set_option autoImplicit false

namespace SourceHost.Timestamp

/-! ## Moments -/

/-- The moment that some fields name in a zone: a second, and the billionths after it. -/
def momentIn (z : Zone) (d : DateFields) : Option (Int × Nat) := do
  let day ← d.day?
  let (second, billionths) := d.timeOfDay?.getD (0, 0)
  let seconds ← z.earliest (day * Calendar.secondsPerDay + second)
  let instant ← Instant.ofSeconds seconds
  some (instant.seconds, billionths)

/-- What a text tells along a pattern, put together. -/
def fields? (input pattern : String) : Option DateFields :=
  (facts? input pattern).bind ({} : DateFields).learnAll

/-- The moment that a text names when it is read along a pattern. -/
def find? (zones : ZoneBook) (input pattern : String) (timezone : Option String) :
    Option (Int × Nat) :=
  (fields? input pattern).bind fun d ↦ momentIn (zoneOf zones d timezone) d

/-- The whole thousandths of a moment. -/
def inThousandths (moment : Int × Nat) : Int := moment.1 * 1000 + (moment.2 / 1000000 : Nat)

theorem ofFields_eq (zones : ZoneBook) (d : DateFields) (timezone : Option String) :
    ofFields zones d timezone = (momentIn (zoneOf zones d timezone) d).map inThousandths := by
  simp [ofFields, momentIn, inThousandths, Option.map_bind, Function.comp_def]

theorem parse?_eq_find? (zones : ZoneBook) (input pattern : String) (timezone : Option String) :
    parse? zones input pattern timezone =
      (find? zones input pattern timezone).map inThousandths := by
  rw [parse?_eq, find?, Option.map_bind]
  exact congrArg _ (funext fun d ↦ ofFields_eq zones d timezone)

theorem momentIn_eq_some_iff {z : Zone} {d : DateFields} {t : Int} {billionths : Nat} :
    momentIn z d = some (t, billionths) ↔ ∃ day, d.day? = some day ∧
      z.earliest (day * 86400 + (d.timeOfDay?.getD (0, 0)).1) = some t ∧
      (Instant.ofSeconds t).isSome ∧ (d.timeOfDay?.getD (0, 0)).2 = billionths := by
  rw [momentIn]
  constructor
  · intro h
    obtain ⟨day, hday, h⟩ := Option.bind_eq_some_iff.1 h
    obtain ⟨seconds, hseconds, h⟩ := Option.bind_eq_some_iff.1 h
    obtain ⟨instant, hinstant, h⟩ := Option.bind_eq_some_iff.1 h
    cases h
    rw [ofSeconds_eq_some_iff] at hinstant
    subst hinstant
    refine ⟨day, hday, hseconds, ?_, rfl⟩
    rw [ofSeconds_eq_some_iff.2 rfl, Option.isSome_some]
  · rintro ⟨day, hday, hseconds, hinstant, rfl⟩
    obtain ⟨instant, hinstant⟩ := Option.isSome_iff_exists.1 hinstant
    rw [hday, Option.bind_eq_bind, Option.bind_some]
    refine Option.bind_eq_some_iff.2 ⟨t, hseconds, ?_⟩
    refine Option.bind_eq_some_iff.2 ⟨instant, hinstant, ?_⟩
    rw [← ofSeconds_eq_some_iff.1 hinstant]
    rfl

/-! ## Offsets -/

/-- Zones that differ by an hour show one time at different moments. -/
theorem map_momentIn_ne {d : DateFields} {thousandths : Int}
    (h : (momentIn Zone.universal d).map inThousandths = some thousandths) :
    (momentIn (.fixed 3600) d).map inThousandths ≠ some thousandths := by
  intro h'
  obtain ⟨⟨t, billionths⟩, hmoment, rfl⟩ := Option.map_eq_some_iff.1 h
  obtain ⟨⟨t', billionths'⟩, hmoment', heq⟩ := Option.map_eq_some_iff.1 h'
  obtain ⟨day, hday, ht, -, rfl⟩ := momentIn_eq_some_iff.1 hmoment
  obtain ⟨day', hday', ht', -, rfl⟩ := momentIn_eq_some_iff.1 hmoment'
  obtain rfl : day = day' := Option.some_inj.1 (hday.symm.trans hday')
  rw [Zone.universal, Zone.earliest_fixed, Option.some_inj] at ht
  rw [Zone.earliest_fixed, Option.some_inj] at ht'
  simp only [inThousandths] at heq
  omega

/-- An offset is less than a day, which is what a zone can have. -/
def LessThanDay (offset : Int) : Prop := -86400 < offset ∧ offset < 86400

theorem zoneOf_of_valid {d : DateFields} {offset : Int} (h : d.offset = some offset)
    (hvalid : LessThanDay offset) (zones : ZoneBook) (timezone : Option String) :
    zoneOf zones d timezone = .fixed offset := by
  have hoffset : validOffset offset = some offset := if_pos hvalid
  rw [zoneOf, h, Option.bind_some, hoffset]

theorem zoneOf_of_invalid {d : DateFields} {offset : Int} (h : d.offset = some offset)
    (hvalid : ¬LessThanDay offset) (zones : ZoneBook) (timezone : Option String) :
    zoneOf zones d timezone = .resolve zones timezone := by
  have hoffset : validOffset offset = none := if_neg hvalid
  rw [zoneOf, h, Option.bind_some, hoffset]

theorem parse?_eq_none_of_fields {input pattern : String} (h : fields? input pattern = none)
    (zones : ZoneBook) (timezone : Option String) :
    parse? zones input pattern timezone = none := by
  rw [parse?_eq_find?, find?, h]
  rfl

/-- **Which offsets in a text count more than a time zone given beside it.**  A text that is read
along a pattern with a letter for an offset tells one offset.

1. If it is less than a day, it counts, whatever time zone is given: the text names the moment at
   which clocks that are ahead by so much show the time it tells.
2. If it is a day or more, it does not count, and the time is meant in the zone that is given.
3. So the zone makes no difference if and only if the offset is less than a day or the text names
   no moment in any zone.

All this is so whatever zones have a name. -/
theorem offsetWins (zones : ZoneBook) {input pattern : String}
    (h : Pattern.HasRun ['Z', 'X', 'x'] pattern) :
    (fields? input pattern = none ∧ ∀ timezone, parse? zones input pattern timezone = none) ∨
      ∃ fs d offset, facts? input pattern = some fs ∧ ({} : DateFields).learnAll fs = some d ∧
        (∀ other, .offset other ∈ fs ↔ other = offset) ∧
        (LessThanDay offset → ∀ timezone, parse? zones input pattern timezone =
          (momentIn (.fixed offset) d).map inThousandths) ∧
        (¬LessThanDay offset → ∀ timezone, parse? zones input pattern timezone =
          (momentIn (.resolve zones timezone) d).map inThousandths) ∧
        ((∀ timezone timezone', parse? zones input pattern timezone =
            parse? zones input pattern timezone') ↔
          LessThanDay offset ∨ ∀ timezone, parse? zones input pattern timezone = none) := by
  cases hfields : fields? input pattern with
  | none => exact .inl ⟨rfl, parse?_eq_none_of_fields hfields zones⟩
  | some d =>
    obtain ⟨fs, hfs, hd⟩ := Option.bind_eq_some_iff.1 hfields
    obtain ⟨offset, hmem⟩ := (exists_offset_iff hfs).2 h
    have hoffset := (DateFields.offset_eq_some_iff hd).2 hmem
    have hparse (timezone : Option String) : parse? zones input pattern timezone =
        (momentIn (zoneOf zones d timezone) d).map inThousandths := by
      rw [parse?_eq_find?, find?, hfields, Option.bind_some]
    refine .inr ⟨fs, d, offset, hfs, hd, fun other ↦ ?only, fun hvalid timezone ↦ ?counts,
      fun hvalid timezone ↦ ?ignored, fun hsame ↦ ?valid, ?same⟩
    case only =>
      rw [← DateFields.offset_eq_some_iff hd, hoffset, Option.some_inj, eq_comm]
    case counts => rw [hparse, zoneOf_of_valid hoffset hvalid]
    case ignored => rw [hparse, zoneOf_of_invalid hoffset hvalid]
    case valid =>
      refine or_iff_not_imp_left.2 fun hvalid timezone ↦ ?_
      rw [Option.eq_none_iff_forall_ne_some]
      intro thousandths hsome
      have hread (z : Option String) :
          (momentIn (.resolve zones z) d).map inThousandths = some thousandths := by
        rw [← zoneOf_of_invalid hoffset hvalid, ← hparse, hsame z timezone, hsome]
      -- an offset given as a number is in every book, and is not universal time
      have hahead : Zone.resolve zones (some "+1") = .fixed 3600 := rfl
      exact map_momentIn_ne (hread none) (hahead ▸ hread (some "+1"))
    case same =>
      rintro (hvalid | hnone) timezone timezone'
      · rw [hparse, hparse, zoneOf_of_valid hoffset hvalid, zoneOf_of_valid hoffset hvalid]
      · rw [hnone, hnone]

/-- The start of the day in Tokyo is the same moment wherever the host is. -/
theorem offsetWins_of_tokyo :
    Pattern.HasRun ['Z', 'X', 'x'] "yyyy-MM-dd HH:mm Z" ∧
      parse? .small "2024-01-15 00:00 +0900" "yyyy-MM-dd HH:mm Z" none = some 1705244400000 ∧
      ∀ timezone timezone', parse? .small "2024-01-15 00:00 +0900" "yyyy-MM-dd HH:mm Z" timezone =
        parse? .small "2024-01-15 00:00 +0900" "yyyy-MM-dd HH:mm Z" timezone' := by
  have h : Pattern.HasRun ['Z', 'X', 'x'] "yyyy-MM-dd HH:mm Z" := by decide +kernel
  refine ⟨h, by decide +kernel, ?_⟩
  rcases @offsetWins .small "2024-01-15 00:00 +0900" _ h with
    ⟨hnone, -⟩ | ⟨fs, d, offset, hfs, -, hmem, -, -, hsame⟩
  · exact absurd hnone (by decide +kernel)
  · have htold : facts? "2024-01-15 00:00 +0900" "yyyy-MM-dd HH:mm Z" = some
        [.year 2024, .month 1, .day 15, .hour 0, .minute 0, .offset 32400] := by decide +kernel
    obtain rfl := Option.some_inj.1 (hfs.symm.trans htold)
    obtain rfl : 32400 = offset := (hmem 32400).1 (by simp)
    exact hsame.2 (.inl ⟨by decide, by decide⟩)

/-- **An offset that no zone can have does not count.**  It is neither refused nor told apart from
no offset: what is read depends on the time zone that is given. -/
theorem offset_of_day_ignored :
    Pattern.HasRun ['Z', 'X', 'x'] "yyyy-MM-dd HH:mm Z" ∧
      facts? "2024-01-15 00:00 +2400" "yyyy-MM-dd HH:mm Z" = some
        [.year 2024, .month 1, .day 15, .hour 0, .minute 0, .offset 86400] ∧
      parse? .small "2024-01-15 00:00 +2400" "yyyy-MM-dd HH:mm Z" none = some 1705276800000 ∧
      parse? .small "2024-01-15 00:00 +2400" "yyyy-MM-dd HH:mm Z" (some "Asia/Tokyo") =
        some 1705244400000 := by
  decide +kernel

/-! ## Times of day -/

/-- A number is the one that facts of some kind tell, or zero if none has been told. -/
def ToldOrZero (fs : List DateFact) (fact : Nat → DateFact) (n : Int) : Prop :=
  (∀ m, fact m ∈ fs → n = m) ∧ ((∀ m, fact m ∉ fs) → n = 0)

/-- A clock shows a second of the day, and so many billionths after it, and that is the time of day
that has been told.  What has not been told is zero. -/
structure ShowsTime (fs : List DateFact) (clock : Int) (billionths : Nat) : Prop where
  /-- The hour is the one that has been told. -/
  hour : ToldOrZero fs .hour (clock / 3600)
  /-- The minute is the one that has been told. -/
  minute : ToldOrZero fs .minute (clock / 60 % 60)
  /-- The second is the one that has been told, where a leap second is the sixtieth. -/
  second : ToldOrZero fs .second (clock % 60 + billionths / 1000000000)
  /-- The fraction is the one that has been told. -/
  fraction : ToldOrZero fs .fraction (billionths % 1000000000)

/-- A pattern has what it takes to put a time of day together besides the hour: a minute, and a
second if it has a fraction of one. -/
def TellsTime (pattern : String) : Prop :=
  Pattern.HasRun ['m'] pattern ∧ (Pattern.HasRun ['S'] pattern → Pattern.HasRun ['s'] pattern)

instance (pattern : String) : Decidable (TellsTime pattern) :=
  inferInstanceAs (Decidable (_ ∧ (_ → _)))

theorem toldOrZero_getD {fs : List DateFact} {fact : Nat → DateFact} {field : Option Nat}
    (h : ∀ {n}, field = some n ↔ fact n ∈ fs) : ToldOrZero fs fact (field.getD 0) := by
  constructor
  · intro m hm
    rw [h.2 hm, Option.getD_some]
  · intro hnone
    have hfield : field = none :=
      Option.eq_none_iff_forall_ne_some.2 fun m hm ↦ hnone m (h.1 hm)
    rw [hfield]
    rfl

/-- The time of day of some fields with an hour. -/
theorem timeOfDay?_eq {d : DateFields} {hour : Nat} (hhalf : d.half = some (hour / 12))
    (hhour : d.hourOfHalf = some (hour % 12)) :
    d.timeOfDay? = if d.minute.isSome ∧ (d.billionths.isSome → d.second.isSome) then
      some (hour * 3600 + d.minute.getD 0 * 60 + min (d.second.getD 0) 59,
        (if d.second.getD 0 = 60 then 1000000000 else 0) + d.billionths.getD 0)
    else none := by
  have hsum : hour / 12 * 12 + hour % 12 = hour := by omega
  rw [DateFields.timeOfDay?, hhalf, hhour]
  cases d.minute <;> cases d.second <;> cases d.billionths <;> simp [hsum]

section Time

variable {input pattern : String} {fs : List DateFact} {d : DateFields}
  (hfs : facts? input pattern = some fs) (hd : ({} : DateFields).learnAll fs = some d)

include hfs hd

/-- A time of day is put together if and only if the pattern has what it takes. -/
theorem tellsTime_iff :
    TellsTime pattern ↔ d.minute.isSome ∧ (d.billionths.isSome → d.second.isSome) := by
  rw [TellsTime, ← exists_minute_iff hfs, ← exists_second_iff hfs, ← exists_fraction_iff hfs]
  simp only [← DateFields.minute_eq_some_iff hd, ← DateFields.second_eq_some_iff hd,
    ← DateFields.billionths_eq_some_iff hd, ← Option.isSome_iff_exists]

/-- The parts of a time of day are in their range. -/
theorem getD_inRange : d.minute.getD 0 ≤ 59 ∧ d.second.getD 0 ≤ 60 ∧
    d.billionths.getD 0 < 1000000000 := by
  have hrange := DateItem.inRange_facts hfs
  have hle {field : Option Nat} {bound : Nat} (h : ∀ n, field = some n → n ≤ bound) :
      field.getD 0 ≤ bound := by
    cases field with
    | none => exact Nat.zero_le _
    | some n => exact h n rfl
  refine ⟨hle fun n hn ↦ ?minute, hle fun n hn ↦ ?second,
    Nat.lt_succ_of_le (hle fun n hn ↦ ?fraction)⟩
  case minute => exact hrange _ ((DateFields.minute_eq_some_iff hd).1 hn)
  case second => exact hrange _ ((DateFields.second_eq_some_iff hd).1 hn)
  case fraction =>
    exact Nat.le_of_lt_succ (hrange _ ((DateFields.billionths_eq_some_iff hd).1 hn))

variable {hour : Nat} (hmem : .hour hour ∈ fs)

include hmem

/-- With what it takes there is a time of day, and it is the one that has been told. -/
theorem exists_timeOfDay (h : TellsTime pattern) : ∃ clock billionths : Nat,
    d.timeOfDay? = some (clock, billionths) ∧ clock < 86400 ∧ ShowsTime fs clock billionths := by
  obtain ⟨hhalf, hhour⟩ := DateFields.hour_of_mem hd hmem
  obtain ⟨hminute, hsecond, hfraction⟩ := getD_inRange hfs hd
  have hlast : hour ≤ 23 := DateItem.inRange_facts hfs _ hmem
  refine ⟨_, _, (timeOfDay?_eq hhalf hhour).trans (if_pos ((tellsTime_iff hfs hd).1 h)),
    by omega, ?hour, ?minute, ?second, ?fraction⟩
  case hour =>
    refine ⟨fun other hother ↦ ?_, fun hnone ↦ absurd hmem (hnone hour)⟩
    obtain ⟨hhalf', hhour'⟩ := DateFields.hour_of_mem hd hother
    rw [hhalf, Option.some_inj] at hhalf'
    rw [hhour, Option.some_inj] at hhour'
    omega
  case minute =>
    convert toldOrZero_getD (DateFields.minute_eq_some_iff hd) using 1
    omega
  case second =>
    convert toldOrZero_getD (DateFields.second_eq_some_iff hd) using 1
    split <;> omega
  case fraction =>
    convert toldOrZero_getD (DateFields.billionths_eq_some_iff hd) using 1
    split <;> omega

/-- Without what it takes there is no time of day at all. -/
theorem timeOfDay?_eq_none (h : ¬TellsTime pattern) : d.timeOfDay? = none := by
  obtain ⟨hhalf, hhour⟩ := DateFields.hour_of_mem hd hmem
  rw [timeOfDay?_eq hhalf hhour, if_neg (mt (tellsTime_iff hfs hd).2 h)]

end Time

theorem isConsistent_zoneOf {zones : ZoneBook} (h : zones.IsConsistent) (d : DateFields)
    (timezone : Option String) : (zoneOf zones d timezone).IsConsistent := by
  rw [zoneOf]
  split
  · exact Zone.isConsistent_fixed _
  · exact Zone.isConsistent_resolve h timezone

/-- What clocks show at the moment that some fields name. -/
theorem localAt_of_momentIn {z : Zone} (hz : z.IsConsistent) {d : DateFields} {t : Int}
    {billionths : Nat} (h : momentIn z d = some (t, billionths)) {clock : Nat}
    (htime : d.timeOfDay?.getD (0, 0) = (clock, billionths)) (hclock : clock < 86400) :
    d.day? = some (z.localAt t / 86400) ∧ z.localAt t % 86400 = clock := by
  obtain ⟨day, hday, ht, -, -⟩ := momentIn_eq_some_iff.1 h
  rw [htime] at ht
  have hlocal := Zone.localAt_of_earliest hz ht
  rw [hday, hlocal, Option.some_inj]
  omega

/-- **Which times of day in a text are those of the moment it names.**  A text that is read along a
pattern with a letter for the hour, of the day, tells an hour; and clocks in the zone that counts
show the day that the text tells.

1. If the pattern has a minute, and a second if it has a fraction, then they show the time of day
   that the text tells, where what it does not tell is zero.
2. Otherwise they show the start of the day, whatever the text tells of the time.
3. So what they show is what the text tells if and only if the pattern has what it takes or the
   text tells the start of the day. -/
theorem timeOfDayKept {zones : ZoneBook} (hzones : zones.IsConsistent) {input pattern : String}
    {timezone : Option String} {thousandths : Int} (hhour : Pattern.HasRun ['H', 'k'] pattern)
    (h : parse? zones input pattern timezone = some thousandths) :
    ∃ fs d t billionths, facts? input pattern = some fs ∧
      ({} : DateFields).learnAll fs = some d ∧
      find? zones input pattern timezone = some (t, billionths) ∧
      thousandths = inThousandths (t, billionths) ∧
      (∃ hour, .hour hour ∈ fs) ∧
      d.day? = some ((zoneOf zones d timezone).localAt t / 86400) ∧
      (TellsTime pattern →
        ShowsTime fs ((zoneOf zones d timezone).localAt t % 86400) billionths) ∧
      (¬TellsTime pattern →
        (zoneOf zones d timezone).localAt t % 86400 = 0 ∧ billionths = 0) ∧
      (ShowsTime fs ((zoneOf zones d timezone).localAt t % 86400) billionths ↔
        TellsTime pattern ∨ ShowsTime fs 0 0) := by
  rw [parse?_eq_find?] at h
  obtain ⟨⟨t, billionths⟩, hfind, rfl⟩ := Option.map_eq_some_iff.1 h
  obtain ⟨d, hfields, hmoment⟩ := Option.bind_eq_some_iff.1 hfind
  obtain ⟨fs, hfs, hd⟩ := Option.bind_eq_some_iff.1 hfields
  obtain ⟨hour, hmem⟩ := (exists_hour_iff hfs).2 hhour
  have hz := isConsistent_zoneOf hzones d timezone
  obtain ⟨-, -, -, -, hbillionths⟩ := momentIn_eq_some_iff.1 hmoment
  refine ⟨fs, d, t, billionths, hfs, hd, hfind, rfl, ⟨hour, hmem⟩, ?_⟩
  by_cases htells : TellsTime pattern
  · obtain ⟨clock, billionths', htime, hlt, hshows⟩ := exists_timeOfDay hfs hd hmem htells
    rw [htime] at hbillionths
    cases hbillionths
    obtain ⟨hday, hclock⟩ := localAt_of_momentIn hz hmoment (by rw [htime]; rfl) hlt
    rw [hclock]
    exact ⟨hday, fun _ ↦ hshows, fun h ↦ absurd htells h, iff_of_true hshows (.inl htells)⟩
  · have htime := timeOfDay?_eq_none hfs hd hmem htells
    rw [htime] at hbillionths
    cases hbillionths
    obtain ⟨hday, hclock⟩ := localAt_of_momentIn hz hmoment (by rw [htime]) (by decide)
    rw [hclock]
    exact ⟨hday, fun h ↦ absurd h htells, fun _ ↦ ⟨rfl, rfl⟩, (or_iff_right htells).symm⟩

/-- Half past nine in the evening in Tokyo is what clocks there show. -/
theorem timeOfDayKept_of_evening :
    Pattern.HasRun ['H', 'k'] "yyyy-MM-dd HH:mm" ∧
      parse? .small "2024-01-15 21:30" "yyyy-MM-dd HH:mm" (some "Asia/Tokyo") = some 1705321800000 ∧
      (Zone.resolve .small (some "Asia/Tokyo")).localAt 1705321800 % 86400 = 77400 ∧
      ShowsTime [.year 2024, .month 1, .day 15, .hour 21, .minute 30] 77400 0 := by
  have hhour : Pattern.HasRun ['H', 'k'] "yyyy-MM-dd HH:mm" := by decide +kernel
  have hparse : parse? .small "2024-01-15 21:30" "yyyy-MM-dd HH:mm" (some "Asia/Tokyo") =
      some 1705321800000 := by decide +kernel
  refine ⟨hhour, hparse, by decide +kernel, ?_⟩
  obtain ⟨fs, d, t, billionths, hfs, hd, hfind, -, -, -, hshows, -, -⟩ :=
    timeOfDayKept ZoneBook.isConsistent_small hhour hparse
  have htold : facts? "2024-01-15 21:30" "yyyy-MM-dd HH:mm" =
      some [.year 2024, .month 1, .day 15, .hour 21, .minute 30] := by decide +kernel
  obtain rfl := Option.some_inj.1 (hfs.symm.trans htold)
  have hmoment : find? .small "2024-01-15 21:30" "yyyy-MM-dd HH:mm" (some "Asia/Tokyo") =
      some (1705321800, 0) := by decide +kernel
  cases hfind.symm.trans hmoment
  cases hd
  exact hshows (by decide +kernel)

/-- **An hour without a minute is dropped**, and so are an hour and a minute with a fraction but no
second: the moment is the start of the day. -/
theorem hour_forgotten :
    (Pattern.HasRun ['H', 'k'] "yyyy-MM-dd HH" ∧
      facts? "2024-01-15 09" "yyyy-MM-dd HH" = some [.year 2024, .month 1, .day 15, .hour 9] ∧
      parse? .small "2024-01-15 09" "yyyy-MM-dd HH" none = some 1705276800000 ∧
      find? .small "2024-01-15 09" "yyyy-MM-dd HH" none = some (1705276800, 0) ∧
      ¬ShowsTime [.year 2024, .month 1, .day 15, .hour 9]
        (Zone.universal.localAt 1705276800 % 86400) 0) ∧
      facts? "2024-01-15 09:30.500" "yyyy-MM-dd HH:mm.SSS" =
        some [.year 2024, .month 1, .day 15, .hour 9, .minute 30, .fraction 500000000] ∧
      parse? .small "2024-01-15 09:30.500" "yyyy-MM-dd HH:mm.SSS" none = some 1705276800000 := by
  refine ⟨⟨by decide +kernel, by decide +kernel, by decide +kernel, by decide +kernel,
    fun h ↦ ?_⟩, by decide +kernel, by decide +kernel⟩
  exact absurd (h.hour.1 9 (by simp)) (by decide +kernel)

end SourceHost.Timestamp
