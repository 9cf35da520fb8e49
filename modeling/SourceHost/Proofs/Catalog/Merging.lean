import Mathlib.Data.List.Basic
import Mathlib.Data.List.Induction
import SourceHost.Catalog.Manga

/-!
# News about an entry

News are overlaid on what is known of an entry, and what comes of many of them can be said at once.
Every field follows one of three rules: a text is kept where the news leave it empty, a detail where
it is absent from them, and a word of a classification never.

* `Manga.overlaid` — an entry after several updates, if they never make it forget a detail.
* `Manga.knownDetailsKept` — what comes of the updates is that, but for the time of the next look,
  and when that is right too.
* `Manga.overlayLaws` — updates may be put together before they are overlaid, and an update that has
  been overlaid already changes nothing.
-/

set_option autoImplicit false

namespace SourceHost.Manga

variable {α : Type} {m u : Manga} {updates : List Manga}

/-! ## The last of several -/

/-- The last of the texts that is not empty, or else the one that was known before. -/
def lastText (text : Manga → String) (m : Manga) (updates : List Manga) : String :=
  ((updates.reverse.map text).find? (!·.isEmpty)).getD (text m)

/-- The last of the details that is present, or else what was known before. -/
def lastDetail (detail : Manga → Option α) (m : Manga) (updates : List Manga) : Option α :=
  (updates.reverse.findSome? detail).or (detail m)

theorem lastText_append_singleton (text : Manga → String) :
    lastText text m (updates ++ [u]) = orElseText (text u) (lastText text m updates) := by
  rw [lastText, List.reverse_append, List.reverse_singleton, List.singleton_append, List.map_cons,
    List.find?_cons, orElseText]
  cases (text u).isEmpty <;> rfl

theorem lastDetail_append_singleton (detail : Manga → Option α) :
    lastDetail detail m (updates ++ [u]) = (detail u).or (lastDetail detail m updates) := by
  rw [lastDetail, List.reverse_append, List.reverse_singleton, List.singleton_append,
    List.findSome?_cons]
  cases detail u <;> rfl

/-- The entry after several updates, with every detail that anyone knows of. -/
def overlaid (m : Manga) (updates : List Manga) : Manga where
  sourceKey := lastText (·.sourceKey) m updates
  key := lastText (·.key) m updates
  title := lastText (·.title) m updates
  cover := lastDetail (·.cover) m updates
  artists := lastDetail (·.artists) m updates
  authors := lastDetail (·.authors) m updates
  description := lastDetail (·.description) m updates
  url := lastDetail (·.url) m updates
  tags := lastDetail (·.tags) m updates
  status := (updates.getLastD m).status
  contentRating := (updates.getLastD m).contentRating
  viewer := (updates.getLastD m).viewer
  updateStrategy := (updates.getLastD m).updateStrategy
  nextUpdateTime := lastDetail (·.nextUpdateTime) m updates
  chapters := lastDetail (·.chapters) m updates

theorem mergedWith_overlaid (t : Option (Signed 64)) :
    ({ overlaid m updates with nextUpdateTime := t } : Manga).mergedWith u =
      { overlaid m (updates ++ [u]) with nextUpdateTime := u.nextUpdateTime } := by
  simp only [mergedWith, overlaid, lastText_append_singleton, lastDetail_append_singleton,
    List.getLastD_concat, Option.orElse_eq_orElse, Option.orElse_eq_or]

theorem foldl_mergedWith (m : Manga) (updates : List Manga) :
    updates.foldl mergedWith m =
      { overlaid m updates with nextUpdateTime := (updates.getLastD m).nextUpdateTime } := by
  induction updates using List.reverseRecOn with
  | nil => rfl
  | append_singleton updates u ih =>
    rw [List.foldl_append, List.foldl_cons, List.foldl_nil, ih, mergedWith_overlaid,
      List.getLastD_concat]

/-- The last detail is that of the last update, unless it is absent there and known before. -/
theorem lastDetail_eq_getLastD_iff (detail : Manga → Option α) :
    detail (updates.getLastD m) = lastDetail detail m updates ↔
      (detail (updates.getLastD m) = none → ∀ n ∈ m :: updates, detail n = none) := by
  rcases List.eq_nil_or_concat' updates with rfl | ⟨updates, u, rfl⟩
  · simp [lastDetail]
  · rw [List.getLastD_concat, lastDetail_append_singleton]
    cases hu : detail u with
    | some a => simp
    | none =>
      rw [Option.none_or, eq_comm, lastDetail, Option.or_eq_none_iff, List.findSome?_eq_none_iff]
      simp [or_imp, forall_and, hu, and_comm]

/-- **What is known of an entry after several updates.**

1. It is what the last of them to say anything says: of a text the last that is not empty, of a
   detail the last that is present, of a word of a classification the last.  What none of them says
   is what was known before.  The time of the next look alone is the last update's, even if it has
   none.
2. So nothing is forgotten exactly if the last update has such a time, or nobody has one. -/
theorem knownDetailsKept (m : Manga) (updates : List Manga) :
    updates.foldl mergedWith m =
      { overlaid m updates with nextUpdateTime := (updates.getLastD m).nextUpdateTime } ∧
    (updates.foldl mergedWith m = overlaid m updates ↔
      ((updates.getLastD m).nextUpdateTime = none →
        ∀ n ∈ m :: updates, n.nextUpdateTime = none)) := by
  refine ⟨foldl_mergedWith m updates, ?_⟩
  rw [foldl_mergedWith, ← lastDetail_eq_getLastD_iff]
  exact ⟨congrArg nextUpdateTime, fun h ↦ by rw [h]; rfl⟩

/-- **The time of the next look is forgotten** as soon as an update comes without one, though it is
a detail like the others. -/
theorem next_look_forgotten :
    let m : Manga := { key := "m", nextUpdateTime := some ⟨5, by decide, by decide⟩ }
    let update : Manga := { title := "T" }
    ([update].foldl mergedWith m).nextUpdateTime = none ∧
      (overlaid m [update]).nextUpdateTime = m.nextUpdateTime ∧
      [update].foldl mergedWith m ≠ overlaid m [update] := by
  refine ⟨rfl, rfl, fun h ↦ ?_⟩
  cases congrArg nextUpdateTime h

/-! ## Updates put together -/

theorem orElseText_assoc (a b c : String) :
    orElseText a (orElseText b c) = orElseText (orElseText a b) c := by
  rw [orElseText, orElseText, orElseText, orElseText]
  split <;> simp_all

theorem orElseText_self (a : String) : orElseText a a = a := ite_self a

theorem orElseText_orElseText (a b : String) :
    orElseText a (orElseText b a) = orElseText a b := by
  rw [orElseText, orElseText, orElseText]
  by_cases ha : a.isEmpty = true
  · by_cases hb : b.isEmpty = true
    · simp_all
    · simp [ha, hb]
  · simp [ha]

theorem or_or_self (o o' : Option α) : o.or (o'.or o) = o.or o' := by
  cases o <;> simp

theorem mergedWith_assoc (a b c : Manga) :
    (a.mergedWith b).mergedWith c = a.mergedWith (b.mergedWith c) := by
  simp only [mergedWith, orElseText_assoc, Option.orElse_eq_orElse, Option.orElse_eq_or,
    Option.or_assoc]

theorem mergedWith_self (a : Manga) : a.mergedWith a = a := by
  simp only [mergedWith, orElseText_self, Option.orElse_eq_orElse, Option.orElse_eq_or,
    Option.or_self]

theorem mergedWith_mergedWith (a b : Manga) : (a.mergedWith b).mergedWith a = b.mergedWith a := by
  simp only [mergedWith, orElseText_orElseText, Option.orElse_eq_orElse, Option.orElse_eq_or,
    or_or_self]

theorem foldl_mergedWith_mergedWith (a b : Manga) (updates : List Manga) :
    updates.foldl mergedWith (a.mergedWith b) = a.mergedWith (updates.foldl mergedWith b) := by
  induction updates generalizing b with
  | nil => rfl
  | cons u updates ih => rw [List.foldl_cons, List.foldl_cons, mergedWith_assoc, ih]

/-- Some updates put together, if there are any. -/
def joined : List Manga → Option Manga
  | [] => none
  | u :: updates => some (updates.foldl mergedWith u)

/-- **Updates are overlays.**

1. It does not matter whether an update is overlaid on another one first or on the entry.
2. An entry overlaid on itself is the same.
3. What an entry knows is not needed where it is overlaid again afterwards.
4. Several updates come to the same one at a time and put together first.
5. The last of them changes nothing when it is repeated. -/
theorem overlayLaws :
    (∀ a b c : Manga, (a.mergedWith b).mergedWith c = a.mergedWith (b.mergedWith c)) ∧
    (∀ a : Manga, a.mergedWith a = a) ∧
    (∀ a b : Manga, (a.mergedWith b).mergedWith a = b.mergedWith a) ∧
    (∀ (m : Manga) (updates : List Manga),
      updates.foldl mergedWith m = (joined updates).elim m m.mergedWith) ∧
    ∀ (m u : Manga) (updates : List Manga),
      (updates ++ [u, u]).foldl mergedWith m = (updates ++ [u]).foldl mergedWith m := by
  refine ⟨mergedWith_assoc, mergedWith_self, mergedWith_mergedWith, fun m updates ↦ ?_,
    fun m u updates ↦ ?_⟩
  · cases updates with
    | nil => rfl
    | cons u updates => exact foldl_mergedWith_mergedWith m u updates
  · rw [List.foldl_append, List.foldl_append]
    show ((updates.foldl mergedWith m).mergedWith u).mergedWith u =
      (updates.foldl mergedWith m).mergedWith u
    rw [mergedWith_assoc, mergedWith_self]

end SourceHost.Manga
