import Mathlib.Data.List.Chain
import SourceHost.Date.ZoneTable

/-!
# What a clock shows

`Zone.earliest` goes from what a clock shows to the second when it does.  It is right if the zone
says of both directions the same: whenever local time may be ahead by so much when clocks show a
time, it is ahead by so much at the second that this makes.

* `Zone.IsConsistent`, `ZoneBook.IsConsistent` — what is relied on of a zone, and of a book.
* `Zone.localAt_of_earliest` — clocks show a local time at the second that it names.
* `ZoneBook.isConsistent_small` — it is so in the zones that are given by tables.
-/

set_option autoImplicit false

namespace SourceHost

/-- When clocks show a time first, local time is ahead by as much as the zone says that it is
then. -/
def Zone.IsConsistent (z : Zone) : Prop :=
  ∀ localTime ahead, (z.aheadWhen localTime).first? = some ahead →
    z.aheadAt (localTime - ahead) = ahead

/-- All zones of a book are consistent. -/
def ZoneBook.IsConsistent (zones : ZoneBook) : Prop :=
  ∀ name z, zones name = some z → z.IsConsistent

namespace Zone

theorem isConsistent_fixed (offset : Int) : (fixed offset).IsConsistent := by
  intro localTime ahead h
  cases h
  rfl

theorem earliest_fixed (offset t : Int) : (fixed offset).earliest t = some (t - offset) := rfl

/-- **Clocks show a local time at the second that it names.** -/
theorem localAt_of_earliest {z : Zone} (hz : z.IsConsistent) {l t : Int}
    (h : z.earliest l = some t) : z.localAt t = l := by
  obtain ⟨ahead, hahead, rfl⟩ := Option.map_eq_some_iff.1 h
  rw [localAt, hz l ahead hahead, Int.sub_add_cancel]

end Zone

/-! ## Zones with a table -/

namespace ZoneTable

theorem aheadFrom_of_lt {change t : Int} (h : t < change) (offset next : Int)
    (changes : List (Int × Int)) : aheadFrom offset ((change, next) :: changes) t = offset :=
  if_pos h

theorem aheadFrom_of_le {change t : Int} (h : change ≤ t) (offset next : Int)
    (changes : List (Int × Int)) :
    aheadFrom offset ((change, next) :: changes) t = aheadFrom next changes t :=
  if_neg (Int.not_lt.2 h)

theorem all_le_iff {start : Option Int} {t : Int} :
    start.all (· ≤ t) = true ↔ ∀ s ∈ start, s ≤ t := by
  cases start <;> simp

/-- Each second at which clocks show the time comes after the start, and local time is ahead by so
much then.  The changes must come one after the other, and after the start. -/
theorem of_mem_showingFrom {start : Option Int} {offset : Int} {changes : List (Int × Int)}
    (hstart : ∀ s ∈ start, ∀ c ∈ changes, s < c.1) (hordered : changes.Pairwise (·.1 < ·.1))
    {l ahead : Int} (h : ahead ∈ showingFrom start offset changes l) :
    (∀ s ∈ start, s ≤ l - ahead) ∧ aheadFrom offset changes (l - ahead) = ahead := by
  induction changes generalizing start offset with
  | nil =>
    rw [showingFrom] at h
    split at h
    · obtain rfl := List.mem_singleton.1 h
      exact ⟨all_le_iff.1 ‹_›, rfl⟩
    · cases h
  | cons change changes ih =>
    obtain ⟨change, next⟩ := change
    obtain ⟨hlater, hordered⟩ := List.pairwise_cons.1 hordered
    have hrest (hmem : ahead ∈ showingFrom (some change) next changes l) :
        (∀ s ∈ start, s ≤ l - ahead) ∧
          aheadFrom offset ((change, next) :: changes) (l - ahead) = ahead := by
      obtain ⟨hfrom, hahead⟩ := ih (fun s hs c hc ↦ by cases hs; exact hlater c hc) hordered hmem
      have hchange : change ≤ l - ahead := hfrom change rfl
      refine ⟨fun s hs ↦ ?_, by rwa [aheadFrom_of_le hchange]⟩
      have := hstart s hs _ List.mem_cons_self
      omega
    rw [showingFrom] at h
    split at h
    · rename_i hfirst
      rcases List.mem_cons.1 h with rfl | hmem
      · exact ⟨all_le_iff.1 hfirst.1, aheadFrom_of_lt hfirst.2 _ _ _⟩
      · exact hrest hmem
    · exact hrest h

theorem isConsistent_zone {z : ZoneTable} (h : z.changes.Pairwise (·.1 < ·.1)) :
    z.zone.IsConsistent := by
  intro l ahead hahead
  have hmem : ahead ∈ showingFrom none z.first z.changes l := by
    rw [zone] at hahead
    dsimp only at hahead
    split at hahead <;> cases hahead <;> simp_all
  exact (of_mem_showingFrom (by simp) h hmem).2

/-- It is enough to compare each change with the next one. -/
theorem isConsistent_of_isChain {z : ZoneTable} (h : z.changes.IsChain (·.1 < ·.1)) :
    z.zone.IsConsistent :=
  have : IsTrans (Int × Int) (·.1 < ·.1) := ⟨fun _ _ _ ↦ Int.lt_trans⟩
  isConsistent_zone h.pairwise

end ZoneTable

theorem ZoneBook.isConsistent_small : ZoneBook.small.IsConsistent := by
  intro name z h
  rw [small] at h
  split_ifs at h
  · cases h
    exact ZoneTable.isConsistent_of_isChain (by decide +kernel)
  · cases h
    exact ZoneTable.isConsistent_of_isChain (by decide +kernel)
  · cases h
    exact ZoneTable.isConsistent_of_isChain (by decide +kernel)
  · cases h
    exact ZoneTable.isConsistent_of_isChain (by decide +kernel)
  · obtain ⟨hours, -, rfl⟩ := Option.map_eq_some_iff.1 h
    exact Zone.isConsistent_fixed _

/-! ## Zones that a text gives -/

namespace Zone

/-- What of a name may be a number: what follows `GMT` or `UTC`, or all of it. -/
def numberOf (name : List Char) : List Char :=
  (dropPrefix? "GMT".toList name <|> dropPrefix? "UTC".toList name).getD name

/-- A name stands for universal time by itself: it is `current`, however it is written, or nothing
follows `GMT` or `UTC`. -/
def IsUniversal (name : List Char) : Prop :=
  name.map Char.toLower = "current".toList ∨ numberOf name = []

instance (name : List Char) : Decidable (IsUniversal name) := inferInstanceAs (Decidable (_ ∨ _))

theorem resolve_some (zones : ZoneBook) (text : String) :
    resolve zones (some text) =
      if IsUniversal (trimBlanks text.toList) then universal
      else match parseOffset (numberOf (trimBlanks text.toList)) with
        | some offset => fixed offset
        | none => (zones (String.ofList (trimBlanks text.toList))).getD universal := by
  have hempty : IsUniversal (trimBlanks text.toList) ↔
      (trimBlanks text.toList).map Char.toLower = "current".toList ∨
        (numberOf (trimBlanks text.toList)).isEmpty := by
    rw [IsUniversal, List.isEmpty_iff]
  simp only [hempty]
  rfl

/-- With a consistent book every zone that can be given is consistent. -/
theorem isConsistent_resolve {zones : ZoneBook} (h : zones.IsConsistent)
    (timezone : Option String) : (resolve zones timezone).IsConsistent := by
  cases timezone with
  | none => exact isConsistent_fixed 0
  | some text =>
    rw [resolve_some]
    split
    · exact isConsistent_fixed 0
    · split
      · exact isConsistent_fixed _
      · cases hname : zones (String.ofList (trimBlanks text.toList)) with
        | none => exact isConsistent_fixed 0
        | some z => exact h _ z hname

end Zone

end SourceHost
