import SourceHost.Proofs.Catalog.Home
import SourceHost.Proofs.Catalog.RoundTrip

/-!
# The entries in something, and the sources they belong to

An entry stands in a page of a list, in a link or in a component of a home screen.  What is stamped
with the name of a source is stamped in all of these places, and in no others.

* `MangaPage.stamped_eq_self_iff`, `Home.stamped_eq_self_iff` — something is what it is stamped as
  exactly if all entries in it belong to the source, so that none is passed over.
* `MangaPage.encode_stamped`, `Home.encode_stamped` — what is stamped is sent as before, since the
  names of sources are not.
-/

set_option autoImplicit false

namespace SourceHost

variable {sourceKey : String}

/-! ## Entries -/

/-- The entry that a link leads to. -/
def LinkValue.mangas : LinkValue → List Manga
  | manga m => [m]
  | url _ | listing _ => []

/-- The entry that a link leads to, if it leads to one. -/
def Link.mangas (l : Link) : List Manga := l.value.toList.flatMap (·.mangas)

/-- The entries that a component of a home screen shows. -/
def HomeContent.mangas : HomeContent → List Manga
  | imageScroller ls _ _ _ => ls.flatMap (·.mangas)
  | bigScroller entries _ => entries
  | scroller ls _ => ls.flatMap (·.mangas)
  | mangaList _ _ ls _ => ls.flatMap (·.mangas)
  | mangaChapterList _ entries _ => entries.map (·.manga)
  | .filters _ => []
  | .links ls => ls.flatMap (·.mangas)

/-- The entries on a home screen. -/
def Home.mangas (h : Home) : List Manga := h.components.flatMap (·.value.mangas)

/-! ## All of them are stamped -/

theorem Manga.stamped_eq_self_iff {m : Manga} :
    m.stamped sourceKey = m ↔ m.sourceKey = sourceKey := by
  cases m
  simp [stamped, eq_comm]

/-- A list is not changed exactly if nothing in it is. -/
theorem map_eq_self_iff {α : Type} {f : α → α} {l : List α} : l.map f = l ↔ ∀ a ∈ l, f a = a := by
  have h := List.map_inj_left (l := l) (f := f) (g := id)
  rwa [List.map_id] at h

theorem MangaPage.stamped_eq_self_iff {p : MangaPage} :
    p.stamped sourceKey = p ↔ ∀ m ∈ p.entries, m.sourceKey = sourceKey := by
  cases p
  simp [stamped, map_eq_self_iff, Manga.stamped_eq_self_iff]

theorem LinkValue.stamped_eq_self_iff {v : LinkValue} :
    v.stamped sourceKey = v ↔ ∀ m ∈ v.mangas, m.sourceKey = sourceKey := by
  cases v <;> simp [stamped, mangas, Manga.stamped_eq_self_iff]

theorem Link.stamped_eq_self_iff {l : Link} :
    l.stamped sourceKey = l ↔ ∀ m ∈ l.mangas, m.sourceKey = sourceKey := by
  rcases l with ⟨title, subtitle, imageUrl, _ | v⟩ <;>
    simp [stamped, mangas, LinkValue.stamped_eq_self_iff]

theorem HomeContent.stamped_eq_self_iff {c : HomeContent} :
    c.stamped sourceKey = c ↔ ∀ m ∈ c.mangas, m.sourceKey = sourceKey := by
  have linked (ls : List Link) : (∀ m ∈ ls.flatMap (·.mangas), m.sourceKey = sourceKey) ↔
      ls.map (·.stamped sourceKey) = ls := by
    simp only [map_eq_self_iff, Link.stamped_eq_self_iff, List.forall_mem_flatMap]
  cases c with
  | imageScroller | scroller | mangaList | links =>
    simp only [stamped, mangas, linked]
    simp
  | bigScroller => simp [stamped, mangas, map_eq_self_iff, Manga.stamped_eq_self_iff]
  | mangaChapterList =>
    have entry (e : MangaWithChapter) : { e with manga := e.manga.stamped sourceKey } = e ↔
        e.manga.sourceKey = sourceKey := by
      cases e
      simp [Manga.stamped_eq_self_iff]
    simp [stamped, mangas, map_eq_self_iff, entry]
  | filters => simp [stamped, mangas]

/-- **A home screen is what it is stamped as exactly if all its entries belong to the source.** -/
theorem Home.stamped_eq_self_iff {h : Home} :
    h.stamped sourceKey = h ↔ ∀ m ∈ h.mangas, m.sourceKey = sourceKey := by
  have component (c : HomeComponent) : c.stamped sourceKey = c ↔
      ∀ m ∈ c.value.mangas, m.sourceKey = sourceKey := by
    cases c
    simp [HomeComponent.stamped, HomeContent.stamped_eq_self_iff]
  cases h
  simp only [stamped, mangas, Home.mk.injEq, map_eq_self_iff, component, List.forall_mem_flatMap]

/-! ## Nothing else is written -/

theorem MangaPage.stamped_stamped (other : String) (p : MangaPage) :
    (p.stamped other).stamped sourceKey = p.stamped sourceKey := by
  simp [stamped, Function.comp_def, Manga.stamped]

theorem Home.stamped_stamped (other : String) (h : Home) :
    (h.stamped other).stamped sourceKey = h.stamped sourceKey := by
  simp [stamped, Function.comp_def, HomeComponent.stamped_stamped]

/-- What the wire keeps alike of two values is sent alike, where there are no tables. -/
theorem WireLaws.encode_eq {α : Type} [Wired α] {bare : α → α} (h : WireLaws α bare)
    (hmapless : (Wired.shape α).isMapless = true) {a a' : α} (hbare : bare a = bare a') :
    Wired.encode a = Wired.encode a' := by
  have hkept (a : α) : Wired.toWire (bare a) = Wired.toWire a := by
    rw [← h.ofWire_toWire, h.toWire_ofWire_of_isMapless hmapless]
  rw [Wired.encode, Wired.encode, ← hkept a, hbare, hkept]

theorem Manga.encode_stamped (m : Manga) :
    Wired.encode (m.stamped sourceKey) = Wired.encode m := rfl

theorem MangaPage.encode_stamped (p : MangaPage) :
    Wired.encode (p.stamped sourceKey) = Wired.encode p :=
  WireLaws.mangaPage.encode_eq rfl (p.stamped_stamped sourceKey)

theorem Home.encode_stamped (h : Home) : Wired.encode (h.stamped sourceKey) = Wired.encode h :=
  WireLaws.home.encode_eq rfl (h.stamped_stamped sourceKey)

end SourceHost
