import SourceHost.Date.ZoneTable
import SourceHost.Functions.Table
import SourceHost.Proofs.Settings.Persistence

/-!
# Dates that a guest asks for

A guest gives a text, a pattern and a time zone, and is told a number: the moment that the text
names, or that something has gone wrong.  Both are numbers of one kind, so that some moments are
told by the number of a failure.

* `Session.resolve_optionalTextAt` — a time zone that can be read is the one that counts.
* `dateReported` — which numbers stand for what.
-/

set_option autoImplicit false

namespace SourceHost

/-- How a failure is told where thousandths are expected. -/
def BufferStatus.thousandths (status : BufferStatus) : Int := status.code * 1000

/-- Of a time zone only the zone counts that it gives. -/
theorem Timestamp.parse?_congr {zones : ZoneBook} {timezone timezone' : Option String}
    (h : Zone.resolve zones timezone = Zone.resolve zones timezone') (input pattern : String) :
    parse? zones input pattern timezone = parse? zones input pattern timezone' := by
  simp only [parse?, ofFields, zoneOf, h]

namespace Session

variable {s : Session}

theorem eq_empty_of_textAt {ptr : Int} {text : String} (h : s.textAt ptr 0 = .ok text) :
    text = "" := by
  obtain ⟨hptr, -⟩ := not_or.1 (nonneg_of_textAt h)
  rw [textAt, Memory.offset, if_pos (Int.not_lt.1 hptr)] at h
  change s.memory.readText ptr.toNat 0 = _ at h
  rw [Memory.readText, Memory.read, Memory.check] at h
  split at h
  · cases h
    rfl
  · cases h

/-- A time zone that can be read is the one that counts, also if it is empty and is taken to be
left out. -/
theorem resolve_optionalTextAt (zones : ZoneBook) {ptr length : Int} {text : String}
    (h : s.textAt ptr length = .ok text) :
    Zone.resolve zones (s.optionalTextAt ptr length) = Zone.resolve zones (some text) := by
  rw [optionalTextAt]
  split
  · rw [h]
    rfl
  · obtain rfl : length = 0 := by
      have := nonneg_of_textAt h
      omega
    rw [eq_empty_of_textAt h]
    rfl

end Session

open Timestamp

/-- **Which numbers stand for what, when a guest asks for a date** whose text, pattern and time zone
can be read.  The locale does not count.

1. A moment that is found is told as it is.
2. The number for no date is told if there is none, and also if the moment has this number.
3. The number for a text that cannot be read is told only if the moment has this number. -/
theorem dateReported (env : Environment) {s : Session} {textPtr textLength patternPtr patternLength
    zonePtr zoneLength : Int} {text pattern zone : String}
    (htext : s.textAt textPtr textLength = .ok text)
    (hpattern : s.textAt patternPtr patternLength = .ok pattern)
    (hzone : s.textAt zonePtr zoneLength = .ok zone) (localePtr localeLength : Int) :
    ∃ value, HostFunction.run env .parseDate [textPtr, textLength, patternPtr, patternLength,
        localePtr, localeLength, zonePtr, zoneLength] s = (some (.thousandths value), s) ∧
      (∀ found, parse? env.zones text pattern (some zone) = some found → value = found) ∧
      (value = BufferStatus.invalidDateString.thousandths ↔
        parse? env.zones text pattern (some zone) = none ∨
          parse? env.zones text pattern (some zone) =
            some BufferStatus.invalidDateString.thousandths) ∧
      (value = BufferStatus.invalidString.thousandths ↔
        parse? env.zones text pattern (some zone) =
          some BufferStatus.invalidString.thousandths) := by
  have hvalue : s.parseDate env textPtr textLength patternPtr patternLength zonePtr zoneLength =
      (parse? env.zones text pattern (some zone)).getD
        BufferStatus.invalidDateString.thousandths := by
    rw [Session.parseDate, htext, hpattern,
      ← parse?_congr (Session.resolve_optionalTextAt env.zones hzone) text pattern]
    rfl
  refine ⟨_, congrArg (fun value ↦ (some (HostValue.thousandths value), s)) hvalue, ?_⟩
  cases parse? env.zones text pattern (some zone) with
  | none => exact ⟨nofun, iff_of_true rfl (.inl rfl), iff_of_false (by decide) nofun⟩
  | some found =>
    refine ⟨fun _ h ↦ Option.some_inj.1 h, ?_, Option.some_inj.symm⟩
    rw [Option.some_inj, or_iff_right nofun]
    rfl

/-- A guest that has put a text and the name of a zone into its memory, beside a pattern of dates
with a time of day. -/
def Session.asking (text zone : String) : Session where
  memory := (((Memory.ofPages 1).put 0 (Utf8.encode text)).put 32
    (Utf8.encode "yyyy-MM-dd HH:mm:ss")).put 64 (Utf8.encode zone)

/-- What the guest is told when it asks for the date. -/
def Session.dateTold (env : Environment) (text zone : String) : Option HostValue :=
  (HostFunction.run env .parseDate [0, text.length, 32, 19, 0, 0, 64, zone.length]
    (.asking text zone)).1

/-- The first hour of a day in Tokyo is told as the moment that it is. -/
theorem dateReported_tokyo :
    let env : Environment :=
      { config := { sourceKey := "en.here" }, web := fun _ _ ↦ .crash, zones := .small }
    let s : Session := .asking "2024-01-15 01:00:00" "Asia/Tokyo"
    s.textAt 0 19 = .ok "2024-01-15 01:00:00" ∧ s.textAt 32 19 = .ok "yyyy-MM-dd HH:mm:ss" ∧
      s.textAt 64 10 = .ok "Asia/Tokyo" ∧
      Session.dateTold env "2024-01-15 01:00:00" "Asia/Tokyo" =
        some (.thousandths 1705248000000) := by
  intro env s
  have htext : s.textAt 0 19 = .ok "2024-01-15 01:00:00" := by decide +kernel
  have hpattern : s.textAt 32 19 = .ok "yyyy-MM-dd HH:mm:ss" := by decide +kernel
  have hzone : s.textAt 64 10 = .ok "Asia/Tokyo" := by decide +kernel
  refine ⟨htext, hpattern, hzone, ?_⟩
  obtain ⟨value, hrun, hfound, -, -⟩ := dateReported env htext hpattern hzone 0 0
  have hparse : parse? .small "2024-01-15 01:00:00" "yyyy-MM-dd HH:mm:ss" (some "Asia/Tokyo") =
      some 1705248000000 := by decide +kernel
  obtain rfl := hfound _ hparse
  exact congrArg Prod.fst hrun

/-- **A date may be told by the number of a failure.**  Five seconds before the start of 1970 is
found, and is told as what is no date at all; four seconds before it is told as a text that cannot
be read. -/
theorem date_taken_for_failure :
    let env : Environment :=
      { config := { sourceKey := "en.here" }, web := fun _ _ ↦ .crash, zones := .small }
    parse? .small "1969-12-31 23:59:55" "yyyy-MM-dd HH:mm:ss" (some "UTC") = some (-5000) ∧
      parse? .small "yesterday" "yyyy-MM-dd HH:mm:ss" (some "UTC") = none ∧
      Session.dateTold env "1969-12-31 23:59:55" "UTC" = Session.dateTold env "yesterday" "UTC" ∧
      Session.dateTold env "1969-12-31 23:59:55" "UTC" =
        some (.thousandths BufferStatus.invalidDateString.thousandths) ∧
      parse? .small "1969-12-31 23:59:56" "yyyy-MM-dd HH:mm:ss" (some "UTC") = some (-4000) ∧
      Session.dateTold env "1969-12-31 23:59:56" "UTC" =
        some (.thousandths BufferStatus.invalidString.thousandths) := by
  decide +kernel

end SourceHost
