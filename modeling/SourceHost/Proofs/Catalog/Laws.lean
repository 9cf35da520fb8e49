import SourceHost.Catalog.Home
import SourceHost.Catalog.Page
import SourceHost.Proofs.Wire.Tidy

/-!
# The wire forms of the catalog

The two functions of a `Wired` type are not quite inverse to each other, and `WireLaws` says how
far they are.  A value that is laid out and assembled again has lost what is not on the wire.  Parts
that are assembled and laid out again have every table in them tidied.

The laws of lists, optional values and tables follow from those of their items.  A type without
tables has all its laws when the two functions are inverse to each other, up to what is lost
(`WireLaws.of_isMapless`).

What a `Manga` loses is the source it belongs to.  So what is lost from a type with entries in it
is what its stamp says, and the stamp of a value that was read is empty.
-/

set_option autoImplicit false

namespace SourceHost

open Std (ExtTreeMap)

variable {α : Type}

namespace Shape

/-- No map is in a value of the shape. -/
def isMapless : Shape → Bool
  | option s => s.isMapless
  | seq s => s.isMapless
  | map _ _ => false
  | pair a b => a.isMapless && b.isMapless
  | sum n p => (List.finRange n).all fun i ↦ (p i).isMapless
  | _ => true

/-- Nothing is to be tidied where no map is. -/
theorem tidy_eq_self {s : Shape} (h : s.isMapless = true) (v : s.Value) : s.tidy v = v := by
  induction s with
  | option s ih =>
    cases v with
    | none => rfl
    | some v => exact congrArg some (ih h v)
  | seq s ih => exact (List.map_congr_left fun v _ ↦ ih h v).trans (List.map_id v)
  | map => cases h
  | pair a b iha ihb =>
    rw [isMapless, Bool.and_eq_true] at h
    exact Prod.ext (iha h.1 v.1) (ihb h.2 v.2)
  | sum n p ih =>
    rw [isMapless, List.all_eq_true] at h
    exact congrArg (Sigma.mk v.1) (ih v.1 (h v.1 (List.mem_finRange _)) v.2)
  | _ => rfl

end Shape

/-- How the wire form of a type keeps its values.  Of a value it keeps what `bare` keeps of it. -/
structure WireLaws (α : Type) [Wired α] (bare : α → α) : Prop where
  /-- Everything has a form, and every list has to be backed by its bytes. -/
  isPlain : (Wired.shape α).isPlain = true
  /-- What comes of a value that is sent. -/
  ofWire_toWire : ∀ a : α, Wired.ofWire (Wired.toWire a) = bare a
  /-- What becomes of the parts of a value that was read. -/
  toWire_ofWire : ∀ w, Wired.toWire (Wired.ofWire w : α) = (Wired.shape α).tidy w
  /-- Tidying changes the parts, but not the value. -/
  ofWire_tidy : ∀ w, (Wired.ofWire ((Wired.shape α).tidy w) : α) = Wired.ofWire w

/-- The entry, of the given source, with its chapter. -/
def MangaWithChapter.stamped (e : MangaWithChapter) (sourceKey : String) : MangaWithChapter :=
  { e with manga := e.manga.stamped sourceKey }

/-- The piece, with all its entries as those of the given source. -/
def HomeUpdate.stamped (sourceKey : String) : HomeUpdate → HomeUpdate
  | layout home => layout (home.stamped sourceKey)
  | component c => component (c.stamped sourceKey)

namespace WireLaws

variable [Wired α] {bare : α → α}

/-- A value that was read has nothing to lose. -/
theorem bare_ofWire (h : WireLaws α bare) (w : (Wired.shape α).Value) :
    bare (Wired.ofWire w) = Wired.ofWire w := by
  rw [← h.ofWire_toWire, h.toWire_ofWire, h.ofWire_tidy]

/-! ## Types without tables -/

theorem of_isMapless (hplain : (Wired.shape α).isPlain = true)
    (hmapless : (Wired.shape α).isMapless = true)
    (hof : ∀ a : α, Wired.ofWire (Wired.toWire a) = bare a)
    (hto : ∀ w, Wired.toWire (Wired.ofWire w : α) = w) : WireLaws α bare where
  isPlain := hplain
  ofWire_toWire := hof
  toWire_ofWire w := by rw [hto, Shape.tidy_eq_self hmapless]
  ofWire_tidy w := by rw [Shape.tidy_eq_self hmapless]

theorem toWire_ofWire_of_isMapless (h : WireLaws α bare)
    (hmapless : (Wired.shape α).isMapless = true) (w : (Wired.shape α).Value) :
    Wired.toWire (Wired.ofWire w : α) = w := by
  rw [h.toWire_ofWire, Shape.tidy_eq_self hmapless]

/-! ## Lists, optional values and tables -/

theorem option (h : WireLaws α bare) : WireLaws (Option α) (Option.map bare) where
  isPlain := h.isPlain
  ofWire_toWire
    | none => rfl
    | some a => congrArg some (h.ofWire_toWire a)
  toWire_ofWire
    | none => rfl
    | some w => congrArg some (h.toWire_ofWire w)
  ofWire_tidy
    | none => rfl
    | some w => congrArg some (h.ofWire_tidy w)

theorem list (h : WireLaws α bare) (hwidth : (Wired.shape α).isZeroWidth = false) :
    WireLaws (List α) (List.map bare) where
  isPlain := by
    show (!(Wired.shape α).isZeroWidth && (Wired.shape α).isPlain) = true
    rw [hwidth, h.isPlain]
    rfl
  ofWire_toWire _ := List.map_map.trans (List.map_congr_left fun a _ ↦ h.ofWire_toWire a)
  toWire_ofWire _ := List.map_map.trans (List.map_congr_left fun w _ ↦ h.toWire_ofWire w)
  ofWire_tidy _ := List.map_map.trans (List.map_congr_left fun w _ ↦ h.ofWire_tidy w)

/-! A table is the list of its entries, but for their order and for the entries that count. -/

theorem ofWire_table (entries : List (String × (Wired.shape α).Value)) :
    (Wired.ofWire entries : ExtTreeMap String α) =
      (ExtTreeMap.ofList entries).map fun _ ↦ Wired.ofWire :=
  Table.ofList_map Wired.ofWire entries

theorem toWire_table (m : ExtTreeMap String α) :
    Wired.toWire m = (m.map fun _ ↦ Wired.toWire).toList :=
  (ExtTreeMap.toList_map (f := fun _ ↦ Wired.toWire)).symm

theorem tidy_table (entries : List (String × (Wired.shape α).Value)) :
    (Wired.shape (ExtTreeMap String α)).tidy entries =
      ((ExtTreeMap.ofList entries).map fun _ ↦ (Wired.shape α).tidy).toList :=
  congrArg ExtTreeMap.toList (Table.ofList_map (Wired.shape α).tidy entries)

theorem table (h : WireLaws α bare) : WireLaws (ExtTreeMap String α) (·.map fun _ ↦ bare) where
  isPlain := h.isPlain
  ofWire_toWire m := by
    rw [toWire_table, ofWire_table, Table.ofList_toList, ExtTreeMap.map_map]
    simp only [h.ofWire_toWire]
  toWire_ofWire entries := by
    rw [ofWire_table, toWire_table, tidy_table, ExtTreeMap.map_map]
    simp only [h.toWire_ofWire]
  ofWire_tidy entries := by
    rw [tidy_table, ofWire_table, ofWire_table, Table.ofList_toList, ExtTreeMap.map_map]
    simp only [h.ofWire_tidy]

/-! ## Standard types -/

theorem text : WireLaws String id := of_isMapless rfl rfl (fun _ ↦ rfl) fun _ ↦ rfl

/-! ## Classifications -/

theorem listingKind : WireLaws ListingKind id :=
  of_isMapless rfl rfl (fun k ↦ by cases k <;> rfl) fun
    | ⟨0, _⟩ | ⟨1, _⟩ => rfl

theorem mangaStatus : WireLaws MangaStatus id :=
  of_isMapless rfl rfl (fun s ↦ by cases s <;> rfl) fun
    | ⟨0, _⟩ | ⟨1, _⟩ | ⟨2, _⟩ | ⟨3, _⟩ | ⟨4, _⟩ => rfl

theorem contentRating : WireLaws ContentRating id :=
  of_isMapless rfl rfl (fun r ↦ by cases r <;> rfl) fun
    | ⟨0, _⟩ | ⟨1, _⟩ | ⟨2, _⟩ | ⟨3, _⟩ => rfl

theorem viewer : WireLaws Viewer id :=
  of_isMapless rfl rfl (fun v ↦ by cases v <;> rfl) fun
    | ⟨0, _⟩ | ⟨1, _⟩ | ⟨2, _⟩ | ⟨3, _⟩ | ⟨4, _⟩ => rfl

theorem updateStrategy : WireLaws UpdateStrategy id :=
  of_isMapless rfl rfl (fun s ↦ by cases s <;> rfl) fun
    | ⟨0, _⟩ | ⟨1, _⟩ => rfl

/-! ## Entries and listings -/

theorem listing : WireLaws Listing id :=
  of_isMapless rfl rfl
    (fun l ↦ congrArg (Listing.mk l.id l.name) (ofWire_toWire listingKind l.kind))
    fun (id, name, kind) ↦ congrArg (id, name, ·) (toWire_ofWire_of_isMapless listingKind rfl kind)

theorem listing? : WireLaws (Option Listing) id := by
  have h := option listing
  rwa [Option.map_id_fun] at h

theorem chapter : WireLaws Chapter id := of_isMapless rfl rfl (fun _ ↦ rfl) fun _ ↦ rfl

theorem chapters? : WireLaws (Option (List Chapter)) id := by
  have h := option (list chapter rfl)
  rwa [List.map_id_fun, Option.map_id_fun] at h

theorem manga : WireLaws Manga (·.stamped "") := by
  refine of_isMapless rfl rfl (fun m ↦ ?_) fun w ↦ ?_
  · have hread : Wired.ofWire (Wired.toWire m) = { m with
        sourceKey := ""
        status := Wired.ofWire (Wired.toWire m.status)
        contentRating := Wired.ofWire (Wired.toWire m.contentRating)
        viewer := Wired.ofWire (Wired.toWire m.viewer)
        updateStrategy := Wired.ofWire (Wired.toWire m.updateStrategy)
        chapters := Wired.ofWire (Wired.toWire m.chapters) } := rfl
    rw [hread, ofWire_toWire mangaStatus, ofWire_toWire contentRating, ofWire_toWire viewer,
      ofWire_toWire updateStrategy, ofWire_toWire chapters?]
    rfl
  · obtain ⟨key, title, cover, artists, authors, description, url, tags, status, rating, direction,
      strategy, nextUpdateTime, chapters⟩ := w
    have hwrite : Wired.toWire (Wired.ofWire (key, title, cover, artists, authors, description, url,
        tags, status, rating, direction, strategy, nextUpdateTime, chapters) : Manga) =
      (key, title, cover, artists, authors, description, url, tags,
        Wired.toWire (Wired.ofWire status : MangaStatus),
        Wired.toWire (Wired.ofWire rating : ContentRating),
        Wired.toWire (Wired.ofWire direction : Viewer),
        Wired.toWire (Wired.ofWire strategy : UpdateStrategy), nextUpdateTime,
        Wired.toWire (Wired.ofWire chapters : Option (List Chapter))) := rfl
    have hchapters := toWire_ofWire_of_isMapless chapters? rfl chapters
    rw [hwrite, toWire_ofWire_of_isMapless mangaStatus rfl,
      toWire_ofWire_of_isMapless contentRating rfl, toWire_ofWire_of_isMapless viewer rfl,
      toWire_ofWire_of_isMapless updateStrategy rfl, hchapters]
    rfl

theorem mangaPage : WireLaws MangaPage (·.stamped "") :=
  of_isMapless rfl rfl
    (fun p ↦ congrArg (MangaPage.mk · p.hasNextPage) (ofWire_toWire (list manga rfl) p.entries))
    fun (entries, more) ↦
      congrArg (·, more) (toWire_ofWire_of_isMapless (list manga rfl) rfl entries)

theorem mangaWithChapter : WireLaws MangaWithChapter (·.stamped "") :=
  of_isMapless rfl rfl
    (fun e ↦ congrArg₂ MangaWithChapter.mk (ofWire_toWire manga e.manga)
      (ofWire_toWire chapter e.chapter))
    fun (m, c) ↦ congrArg₂ Prod.mk (toWire_ofWire_of_isMapless manga rfl m)
      (toWire_ofWire_of_isMapless chapter rfl c)

/-! ## Filters -/

theorem filterValue : WireLaws FilterValue id :=
  of_isMapless rfl rfl (fun v ↦ by cases v <;> rfl) fun
    | ⟨0, _⟩ | ⟨1, _⟩ | ⟨2, _⟩ | ⟨3, _⟩ | ⟨4, _⟩ => rfl

theorem filterValues? : WireLaws (Option (List FilterValue)) id := by
  have h := option (list filterValue rfl)
  rwa [List.map_id_fun, Option.map_id_fun] at h

theorem filterItem : WireLaws FilterItem id :=
  of_isMapless rfl rfl
    (fun f ↦ congrArg (FilterItem.mk f.title) (ofWire_toWire filterValues? f.values))
    fun (title, values) ↦
      congrArg (title, ·) (toWire_ofWire_of_isMapless filterValues? rfl values)

theorem filterItems : WireLaws (List FilterItem) id := by
  have h := list filterItem rfl
  rwa [List.map_id_fun] at h

/-! ## The home screen -/

theorem linkValue : WireLaws LinkValue (·.stamped "") := by
  refine of_isMapless rfl rfl (fun v ↦ ?_) fun w ↦ ?_
  · cases v with
    | url => rfl
    | listing l => exact congrArg LinkValue.listing (ofWire_toWire listing l)
    | manga m => exact congrArg LinkValue.manga (ofWire_toWire manga m)
  · match w with
    | ⟨0, _⟩ => rfl
    | ⟨1, l⟩ => exact congrArg (Sigma.mk 1) (toWire_ofWire_of_isMapless listing rfl l)
    | ⟨2, m⟩ => exact congrArg (Sigma.mk 2) (toWire_ofWire_of_isMapless manga rfl m)

theorem link : WireLaws Link (·.stamped "") :=
  of_isMapless rfl rfl
    (fun l ↦ congrArg (Link.mk l.title l.subtitle l.imageUrl)
      (ofWire_toWire (option linkValue) l.value))
    fun (title, subtitle, imageUrl, value) ↦ congrArg (title, subtitle, imageUrl, ·)
      (toWire_ofWire_of_isMapless (option linkValue) rfl value)

theorem homeContent : WireLaws HomeContent (·.stamped "") := by
  have links := list link rfl
  have entries := list manga rfl
  have chapters := list mangaWithChapter rfl
  refine of_isMapless rfl rfl (fun c ↦ ?_) fun w ↦ ?_
  · cases c with
    | imageScroller ls interval width height =>
      exact congrArg (HomeContent.imageScroller · interval width height) (links.ofWire_toWire ls)
    | bigScroller ms interval =>
      exact congrArg (HomeContent.bigScroller · interval) (entries.ofWire_toWire ms)
    | scroller ls l =>
      exact congrArg₂ HomeContent.scroller (links.ofWire_toWire ls) (ofWire_toWire listing? l)
    | mangaList ranking size ls l =>
      exact congrArg₂ (HomeContent.mangaList ranking size) (links.ofWire_toWire ls)
        (ofWire_toWire listing? l)
    | mangaChapterList size ms l =>
      exact congrArg₂ (HomeContent.mangaChapterList size) (chapters.ofWire_toWire ms)
        (ofWire_toWire listing? l)
    | filters items => exact congrArg HomeContent.filters (ofWire_toWire filterItems items)
    | links ls => exact congrArg HomeContent.links (links.ofWire_toWire ls)
  · match w with
    | ⟨0, ls, rest⟩ =>
      exact congrArg (Sigma.mk 0) (congrArg (·, rest) (links.toWire_ofWire_of_isMapless rfl ls))
    | ⟨1, ms, interval⟩ =>
      exact congrArg (Sigma.mk 1)
        (congrArg (·, interval) (entries.toWire_ofWire_of_isMapless rfl ms))
    | ⟨2, ls, l⟩ =>
      exact congrArg (Sigma.mk 2) (congrArg₂ Prod.mk (links.toWire_ofWire_of_isMapless rfl ls)
        (toWire_ofWire_of_isMapless listing? rfl l))
    | ⟨3, ranking, size, ls, l⟩ =>
      exact congrArg (Sigma.mk 3) (congrArg₂ (ranking, size, ·, ·)
        (links.toWire_ofWire_of_isMapless rfl ls) (toWire_ofWire_of_isMapless listing? rfl l))
    | ⟨4, size, ms, l⟩ =>
      exact congrArg (Sigma.mk 4) (congrArg₂ (size, ·, ·)
        (chapters.toWire_ofWire_of_isMapless rfl ms) (toWire_ofWire_of_isMapless listing? rfl l))
    | ⟨5, items⟩ =>
      exact congrArg (Sigma.mk 5) (toWire_ofWire_of_isMapless filterItems rfl items)
    | ⟨6, ls⟩ => exact congrArg (Sigma.mk 6) (links.toWire_ofWire_of_isMapless rfl ls)

theorem homeComponent : WireLaws HomeComponent (·.stamped "") :=
  of_isMapless rfl rfl
    (fun c ↦ congrArg (HomeComponent.mk c.title c.subtitle) (ofWire_toWire homeContent c.value))
    fun (title, subtitle, value) ↦
      congrArg (title, subtitle, ·) (toWire_ofWire_of_isMapless homeContent rfl value)

theorem home : WireLaws Home (·.stamped "") :=
  of_isMapless rfl rfl
    (fun h ↦ congrArg Home.mk (ofWire_toWire (list homeComponent rfl) h.components))
    fun components ↦ toWire_ofWire_of_isMapless (list homeComponent rfl) rfl components

theorem homeUpdate : WireLaws HomeUpdate (·.stamped "") := by
  refine of_isMapless rfl rfl (fun u ↦ ?_) fun w ↦ ?_
  · cases u with
    | layout h => exact congrArg HomeUpdate.layout (ofWire_toWire home h)
    | component c => exact congrArg HomeUpdate.component (ofWire_toWire homeComponent c)
  · match w with
    | ⟨0, h⟩ => exact congrArg (Sigma.mk 0) (toWire_ofWire_of_isMapless home rfl h)
    | ⟨1, c⟩ => exact congrArg (Sigma.mk 1) (toWire_ofWire_of_isMapless homeComponent rfl c)

/-! ## Pages, pictures and links into a catalog -/

theorem textMap : WireLaws TextMap id := by
  have h := table text
  rwa [show (fun m : TextMap ↦ m.map fun _ ↦ id) = id from funext fun _ ↦ ExtTreeMap.map_id] at h

theorem textMap? : WireLaws (Option TextMap) id := by
  have h := option textMap
  rwa [Option.map_id_fun] at h

theorem pageContent : WireLaws PageContent id where
  isPlain := rfl
  ofWire_toWire c := by
    cases c with
    | url url context => exact congrArg (PageContent.url url) (ofWire_toWire textMap? context)
    | _ => rfl
  toWire_ofWire
    | ⟨0, url, context⟩ =>
      congrArg (Sigma.mk 0) (congrArg (url, ·) (toWire_ofWire textMap? context))
    | ⟨1, _⟩ | ⟨2, _⟩ | ⟨3, _⟩ => rfl
  ofWire_tidy
    | ⟨0, url, context⟩ => congrArg (PageContent.url url) (ofWire_tidy textMap? context)
    | ⟨1, _⟩ | ⟨2, _⟩ | ⟨3, _⟩ => rfl

theorem page : WireLaws Page id where
  isPlain := rfl
  ofWire_toWire p := congrArg (Page.mk · p.thumbnail p.hasDescription p.description)
    (ofWire_toWire pageContent p.content)
  toWire_ofWire
    | (content, rest) =>
      congrArg₂ Prod.mk (toWire_ofWire pageContent content) (Shape.tidy_eq_self rfl rest).symm
  ofWire_tidy
    | (content, rest) =>
      congrArg₂ (fun c (r : (Shape.record [.option .text, .bool, .option .text]).Value) ↦
        Page.mk c r.1 r.2.1 r.2.2) (ofWire_tidy pageContent content) (Shape.tidy_eq_self rfl rest)

theorem imageRequest : WireLaws ImageRequest id where
  isPlain := rfl
  ofWire_toWire r := congrArg (ImageRequest.mk r.url) (ofWire_toWire textMap r.headers)
  toWire_ofWire
    | (url, headers) =>
      congrArg₂ Prod.mk (Shape.tidy_eq_self rfl url).symm (toWire_ofWire textMap headers)
  ofWire_tidy
    | (url, headers) =>
      congrArg₂ ImageRequest.mk (Shape.tidy_eq_self rfl url) (ofWire_tidy textMap headers)

theorem imageResponse : WireLaws ImageResponse id where
  isPlain := rfl
  ofWire_toWire r := congrArg₂ (ImageResponse.mk r.code · · r.image)
    (ofWire_toWire textMap r.headers) (ofWire_toWire imageRequest r.request)
  toWire_ofWire
    | (code, headers, request, image) =>
      congrArg₂ (code, ·, ·, image) (toWire_ofWire textMap headers)
        (toWire_ofWire imageRequest request)
  ofWire_tidy
    | (code, headers, request, image) =>
      congrArg₂ (ImageResponse.mk code · · image) (ofWire_tidy textMap headers)
        (ofWire_tidy imageRequest request)

theorem deepLink : WireLaws DeepLink id :=
  of_isMapless rfl rfl
    (fun d ↦ congrArg (DeepLink.mk d.mangaId d.chapterId) (ofWire_toWire listing? d.listing))
    fun (mangaId, chapterId, l) ↦
      congrArg (mangaId, chapterId, ·) (toWire_ofWire_of_isMapless listing? rfl l)

end WireLaws

end SourceHost
