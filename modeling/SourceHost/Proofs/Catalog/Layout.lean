import Mathlib.Data.List.Basic
import Mathlib.Data.List.Dedup
import Mathlib.Data.List.Induction
import SourceHost.Catalog.Home

/-!
# What comes of a home screen sent piece by piece

A layout replaces everything, and each component after it the first one with its title, or goes to
the end.  Titles may be absent or borne by several components of a layout, so it is not obvious what
many pieces come to; here it is said without going through them one by one.

* `HomeUpdate.EndsIn` — the last layout among some pieces, and the components sent after it.
* `Home.renewed`, `Home.added` — the components of the layout afterwards, and those that come behind
  them.
* `Home.sentPiecewise` — together they are the home screen, and titles that differ in the layout
  differ in the end.
-/

set_option autoImplicit false

namespace SourceHost

/-- The pieces end with the components `c`; right before these comes the layout `l`, or nothing, and
then `l` is empty. -/
def HomeUpdate.EndsIn (pieces : List HomeUpdate) (l c : List HomeComponent) : Prop :=
  (∃ before, pieces = before ++ .layout ⟨l⟩ :: c.map .component) ∨
    l = [] ∧ pieces = c.map .component

namespace Home

variable {l c : List HomeComponent} {d : HomeComponent}

/-- The last of the components that have the title. -/
def latest (c : List HomeComponent) (title : Option String) : Option HomeComponent :=
  c.reverse.find? (·.title = title)

/-- The components of a layout, the first of each title replaced by the latest that has been sent
with it. -/
def renewed (l c : List HomeComponent) : List HomeComponent :=
  l.mapIdx fun i d ↦
    if (l.map (·.title)).idxOf d.title = i then (latest c d.title).getD d else d

/-- The titles that have been sent and that no component of the layout has, in the order in which
they first came. -/
def newTitles (l c : List HomeComponent) : List (Option String) :=
  (c.map (·.title)).reverse.dedup.reverse.filter (· ∉ l.map (·.title))

/-- The latest component of each title that is not in the layout. -/
def added (l c : List HomeComponent) : List HomeComponent := (newTitles l c).filterMap (latest c)

/-! ## The latest component of a title -/

theorem latest_append_singleton (title : Option String) :
    latest (c ++ [d]) title = if d.title = title then some d else latest c title := by
  rw [latest, List.reverse_append, List.reverse_singleton, List.singleton_append, List.find?_cons]
  by_cases h : d.title = title <;> simp [h, latest]

theorem latest_append_of_ne {title : Option String} (h : d.title ≠ title) :
    latest (c ++ [d]) title = latest c title := by
  rw [latest_append_singleton, if_neg h]

theorem title_of_latest {title : Option String} (h : latest c title = some d) :
    d.title = title := by
  simpa using List.find?_some h

theorem exists_latest {title : Option String} (h : title ∈ c.map (·.title)) :
    ∃ d, latest c title = some d := by
  obtain ⟨d, hd, rfl⟩ := List.mem_map.1 h
  exact Option.isSome_iff_exists.1 (List.find?_isSome.2 ⟨d, List.mem_reverse.2 hd, by simp⟩)

/-! ## Titles -/

theorem mem_newTitles {t : Option String} :
    t ∈ newTitles l c ↔ t ∈ c.map (·.title) ∧ t ∉ l.map (·.title) := by
  rw [newTitles, List.mem_filter, List.mem_reverse, List.mem_dedup, List.mem_reverse,
    decide_eq_true_iff]

theorem nodup_newTitles : (newTitles l c).Nodup :=
  (List.nodup_reverse.2 (List.nodup_dedup _)).filter _

theorem newTitles_append_singleton :
    newTitles l (c ++ [d]) =
      if d.title ∈ l.map (·.title) ∨ d.title ∈ c.map (·.title) then newTitles l c
      else newTitles l c ++ [d.title] := by
  rw [newTitles, newTitles, List.map_append, List.map_singleton, List.reverse_append,
    List.reverse_singleton, List.singleton_append]
  by_cases hc : d.title ∈ c.map (·.title)
  · rw [if_pos (.inr hc), List.dedup_cons_of_mem (List.mem_reverse.2 hc)]
  · rw [List.dedup_cons_of_notMem (mt List.mem_reverse.1 hc), List.reverse_cons,
      List.filter_append, List.filter_singleton]
    by_cases hl : d.title ∈ l.map (·.title)
    · rw [if_pos (.inl hl), decide_eq_false (not_not_intro hl)]
      exact List.append_nil _
    · rw [if_neg (not_or.2 ⟨hl, hc⟩), decide_eq_true hl]
      rfl

theorem title_getD_latest (d : HomeComponent) : ((latest c d.title).getD d).title = d.title := by
  cases h : latest c d.title with
  | none => rfl
  | some e => exact title_of_latest h

theorem titles_renewed : (renewed l c).map (·.title) = l.map (·.title) := by
  refine List.ext_getElem (by simp [renewed]) fun i h h' ↦ ?_
  rw [List.getElem_map, List.getElem_map]
  simp only [renewed, List.getElem_mapIdx]
  split
  · exact title_getD_latest _
  · rfl

theorem titles_filterMap_latest {ts : List (Option String)} (h : ∀ t ∈ ts, t ∈ c.map (·.title)) :
    (ts.filterMap (latest c)).map (·.title) = ts := by
  induction ts with
  | nil => rfl
  | cons t ts ih =>
    rw [List.forall_mem_cons] at h
    obtain ⟨d, hd⟩ := exists_latest h.1
    rw [List.filterMap_cons, hd, List.map_cons, ih h.2, title_of_latest hd]

theorem titles_renewed_append_added :
    (renewed l c ++ added l c).map (·.title) = l.map (·.title) ++ newTitles l c := by
  rw [List.map_append, titles_renewed, added,
    titles_filterMap_latest fun t ht ↦ (mem_newTitles.1 ht).1]

/-! ## One component more -/

/-- A component goes to the place of the first one with its title, or to the end. -/
theorem place_eq (d : HomeComponent) (l : List HomeComponent) :
    place d l = if d.title ∈ l.map (·.title) then l.set ((l.map (·.title)).idxOf d.title) d
      else l ++ [d] := by
  induction l with
  | nil => rfl
  | cons e l ih =>
    rw [place, ih]
    by_cases h : e.title = d.title
    · simp [h]
    · have h' : d.title ≠ e.title := fun heq ↦ h heq.symm
      by_cases hl : d.title ∈ l.map (·.title)
      · simp [h, h', List.idxOf_cons_ne, hl]
      · simp [h, h', hl]

theorem place_append (d : HomeComponent) (l r : List HomeComponent) :
    place d (l ++ r) =
      if d.title ∈ l.map (·.title) then place d l ++ r else l ++ place d r := by
  induction l with
  | nil => rfl
  | cons e l ih =>
    rw [List.cons_append, place, place, ih]
    by_cases h : e.title = d.title
    · simp [h]
    · have h' : d.title ≠ e.title := fun heq ↦ h heq.symm
      by_cases hl : d.title ∈ l.map (·.title) <;> simp [h, h', hl]

theorem getElem?_renewed (i : Nat) :
    (renewed l c)[i]? = l[i]?.map fun e ↦
      if (l.map (·.title)).idxOf e.title = i then (latest c e.title).getD e else e :=
  List.getElem?_mapIdx

theorem place_renewed (h : d.title ∈ l.map (·.title)) :
    place d (renewed l c) = renewed l (c ++ [d]) := by
  rw [place_eq, titles_renewed, if_pos h]
  refine List.ext_getElem? fun i ↦ ?_
  rw [List.getElem?_set, getElem?_renewed, getElem?_renewed]
  split
  · -- at the first place of the title
    rename_i hi
    subst hi
    have hfirst := List.getElem?_idxOf h
    rw [List.getElem?_map] at hfirst
    obtain ⟨e, he, htitle⟩ := Option.map_eq_some_iff.1 hfirst
    have hlength := (List.getElem?_eq_some_iff.1 he).1
    rw [he, if_pos (by simpa [renewed] using hlength), Option.map_some, htitle, if_pos rfl,
      latest_append_singleton, if_pos rfl, Option.getD_some]
  · rename_i hi
    refine Option.map_congr fun e _ ↦ ?_
    by_cases htitle : d.title = e.title
    · rw [← htitle, if_neg hi, if_neg hi]
    · rw [latest_append_of_ne htitle]

theorem renewed_append_of_notMem (h : d.title ∉ l.map (·.title)) :
    renewed l (c ++ [d]) = renewed l c := by
  refine List.ext_getElem? fun i ↦ ?_
  rw [getElem?_renewed, getElem?_renewed]
  refine Option.map_congr fun e he ↦ ?_
  have htitle : d.title ≠ e.title := fun heq ↦
    h (heq.symm ▸ List.mem_map_of_mem (List.mem_of_getElem? he))
  rw [latest_append_of_ne htitle]

theorem filterMap_latest_append {ts : List (Option String)} (h : d.title ∉ ts) :
    ts.filterMap (latest (c ++ [d])) = ts.filterMap (latest c) := by
  refine List.filterMap_congr fun t ht ↦ ?_
  have htitle : d.title ≠ t := fun heq ↦ h (heq.symm ▸ ht)
  exact latest_append_of_ne htitle

theorem place_filterMap_latest {ts : List (Option String)} (hnodup : ts.Nodup)
    (h : ∀ t ∈ ts, t ∈ c.map (·.title)) :
    place d (ts.filterMap (latest c)) =
      (if d.title ∈ ts then ts else ts ++ [d.title]).filterMap (latest (c ++ [d])) := by
  induction ts with
  | nil => simp [place, latest_append_singleton]
  | cons t ts ih =>
    rw [List.nodup_cons] at hnodup
    rw [List.forall_mem_cons] at h
    obtain ⟨e, he⟩ := exists_latest h.1
    have htitle : e.title = t := title_of_latest he
    rw [List.filterMap_cons, he, place, htitle]
    by_cases ht : t = d.title
    · -- the title does not come again, so nothing behind it changes
      have hlatest : latest (c ++ [d]) t = some d := by
        rw [latest_append_singleton, if_pos ht.symm]
      have hrest := filterMap_latest_append (c := c) (d := d) (ht ▸ hnodup.1)
      rw [if_pos ht, if_pos (List.mem_cons.2 (.inl ht.symm)), List.filterMap_cons, hlatest, hrest]
    · have hlatest : latest (c ++ [d]) t = some e := by
        rw [latest_append_of_ne (Ne.symm ht), he]
      rw [if_neg ht, ih hnodup.2 h.2]
      by_cases hts : d.title ∈ ts
      · rw [if_pos hts, if_pos (List.mem_cons_of_mem _ hts), List.filterMap_cons, hlatest]
      · have hnone : d.title ∉ t :: ts := by simp [hts, Ne.symm ht]
        rw [if_neg hts, if_neg hnone, List.cons_append, List.filterMap_cons, hlatest]

/-- **A component more** on what the others have come to. -/
theorem place_renewed_append_added (d : HomeComponent) (l c : List HomeComponent) :
    place d (renewed l c ++ added l c) = renewed l (c ++ [d]) ++ added l (c ++ [d]) := by
  rw [place_append, titles_renewed]
  split
  · rename_i hl
    have hnew : d.title ∉ newTitles l c := fun h ↦ (mem_newTitles.1 h).2 hl
    rw [place_renewed hl, added, added, newTitles_append_singleton, if_pos (.inl hl),
      filterMap_latest_append hnew]
  · rename_i hl
    rw [renewed_append_of_notMem hl, added, added,
      place_filterMap_latest nodup_newTitles fun t ht ↦ (mem_newTitles.1 ht).1]
    by_cases hc : d.title ∈ c.map (·.title)
    · rw [if_pos (mem_newTitles.2 ⟨hc, hl⟩), newTitles_append_singleton,
        if_pos (.inr hc)]
    · rw [if_neg fun h ↦ hc (mem_newTitles.1 h).1, newTitles_append_singleton,
        if_neg (not_or.2 ⟨hl, hc⟩)]

/-! ## All of them -/

theorem foldl_apply_component (l c : List HomeComponent) :
    (c.map HomeUpdate.component).foldl apply ⟨l⟩ = ⟨renewed l c ++ added l c⟩ := by
  induction c using List.reverseRecOn with
  | nil =>
    have hrenewed : renewed l [] = l := List.ext_getElem? fun i ↦ by simp [getElem?_renewed, latest]
    have hadded : added l [] = [] := rfl
    rw [hrenewed, hadded, List.append_nil]
    rfl
  | append_singleton c d ih =>
    rw [List.map_append, List.foldl_append, ih, ← place_renewed_append_added]
    rfl

theorem exists_endsIn (pieces : List HomeUpdate) : ∃ l c, HomeUpdate.EndsIn pieces l c := by
  induction pieces using List.reverseRecOn with
  | nil => exact ⟨[], [], .inr ⟨rfl, rfl⟩⟩
  | append_singleton pieces u ih =>
    cases u with
    | layout home => exact ⟨home.components, [], .inl ⟨pieces, rfl⟩⟩
    | component d =>
      obtain ⟨l, c, ⟨before, rfl⟩ | ⟨rfl, rfl⟩⟩ := ih
      · exact ⟨l, c ++ [d], .inl ⟨before, by simp⟩⟩
      · exact ⟨[], c ++ [d], .inr ⟨rfl, by simp⟩⟩

/-- **What comes of a home screen sent piece by piece.**  Among any pieces there is a last layout,
or none, and after it come some components.

1. The home screen has the components of that layout, each first one of its title replaced by the
   last component sent with it; behind them come the other titles that have been sent, in the order
   in which they first came, each with the last component sent with it.
2. If no two components of the layout have the same title, no two on the home screen have. -/
theorem sentPiecewise (pieces : List HomeUpdate) :
    (∃ l c, HomeUpdate.EndsIn pieces l c) ∧ ∀ l c, HomeUpdate.EndsIn pieces l c →
      pieces.foldl apply {} = ⟨renewed l c ++ added l c⟩ ∧
      ((l.map (·.title)).Nodup → ((pieces.foldl apply {}).components.map (·.title)).Nodup) := by
  refine ⟨exists_endsIn pieces, fun l c hpieces ↦ ?_⟩
  have hfold : pieces.foldl apply {} = ⟨renewed l c ++ added l c⟩ := by
    rw [← foldl_apply_component]
    rcases hpieces with ⟨before, rfl⟩ | ⟨rfl, rfl⟩
    · rw [List.foldl_append, List.foldl_cons]
      rfl
    · rfl
  refine ⟨hfold, fun hl ↦ ?_⟩
  rw [hfold, titles_renewed_append_added]
  refine List.nodup_append.2 ⟨hl, nodup_newTitles, fun t ht u hu heq ↦ ?_⟩
  exact (mem_newTitles.1 hu).2 (heq ▸ ht)

/-- A layout with one title twice and one component without a title, and components sent after it.
Where the titles of a layout differ they do so in the end, the absent one included. -/
theorem sentPiecewise_repeated :
    let part (title : Option String) (subtitle : String) : HomeComponent :=
      { title, subtitle := some subtitle, value := .links [] }
    let l := [part "a" "1", part none "2", part "a" "3", part "b" "4"]
    let c := [part "c" "5", part none "6", part "a" "7", part "c" "8", part none "9"]
    let pieces := .component (part "d" "0") :: .layout ⟨l⟩ :: c.map .component
    (HomeUpdate.EndsIn pieces l c ∧ pieces.foldl apply {} =
      ⟨[part "a" "7", part none "9", part "a" "3", part "b" "4", part "c" "8"]⟩) ∧
    HomeUpdate.EndsIn (.layout ⟨[part none "1"]⟩ :: c.map .component) [part none "1"] c ∧
      (((.layout ⟨[part none "1"]⟩ :: c.map HomeUpdate.component).foldl apply {}).components.map
        (·.title)).Nodup := by
  intro part l c pieces
  have hpieces : HomeUpdate.EndsIn pieces l c := .inl ⟨[.component (part "d" "0")], rfl⟩
  have hsingle : HomeUpdate.EndsIn (.layout ⟨[part none "1"]⟩ :: c.map .component)
      [part none "1"] c := .inl ⟨[], rfl⟩
  refine ⟨⟨hpieces, ?_⟩, hsingle, ((sentPiecewise _).2 _ c hsingle).2 (List.nodup_singleton _)⟩
  rw [((sentPiecewise pieces).2 l c hpieces).1]
  decide +kernel

end Home

end SourceHost
