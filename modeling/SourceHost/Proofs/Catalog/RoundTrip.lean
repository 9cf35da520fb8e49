import SourceHost.Proofs.Catalog.Laws
import SourceHost.Proofs.Wire.Moment
import SourceHost.Proofs.Wire.RoundTrip

/-!
# Sending what is in a catalog

A source and its host tell each other about the values of the catalog, and about lists, optional
values and tables of them.  `CatalogType` lists these types, so what holds for all of them can be
said once.

* `catalogRoundTrip` — what of a value arrives, what is written for a value that arrived, and why
  bytes that are otherwise in order are refused.
-/

set_option autoImplicit false

namespace SourceHost

/-! ## The types of the catalog -/

/-- The types a source and its host exchange values of. -/
inductive CatalogType where
  | listingKind
  | mangaStatus
  | contentRating
  | viewer
  | updateStrategy
  | listing
  | chapter
  | manga
  | mangaPage
  | mangaWithChapter
  | filterValue
  | filterItem
  | linkValue
  | link
  | homeContent
  | homeComponent
  | home
  | homeUpdate
  | pageContent
  | page
  | imageRequest
  | imageResponse
  | deepLink
  | list (item : CatalogType)
  | option (item : CatalogType)
  | table (item : CatalogType)

namespace CatalogType

/-- The values of a type. -/
@[reducible] def Value : CatalogType → Type
  | listingKind => ListingKind
  | mangaStatus => MangaStatus
  | contentRating => ContentRating
  | viewer => Viewer
  | updateStrategy => UpdateStrategy
  | listing => Listing
  | chapter => Chapter
  | manga => Manga
  | mangaPage => MangaPage
  | mangaWithChapter => MangaWithChapter
  | filterValue => FilterValue
  | filterItem => FilterItem
  | linkValue => LinkValue
  | link => Link
  | homeContent => HomeContent
  | homeComponent => HomeComponent
  | home => Home
  | homeUpdate => HomeUpdate
  | pageContent => PageContent
  | page => Page
  | imageRequest => ImageRequest
  | imageResponse => ImageResponse
  | deepLink => DeepLink
  | list t => List t.Value
  | option t => Option t.Value
  | table t => Std.ExtTreeMap String t.Value

/-- Every type has the wire form that its values are sent in. -/
instance wired : (t : CatalogType) → Wired t.Value
  | listingKind => inferInstanceAs (Wired ListingKind)
  | mangaStatus => inferInstanceAs (Wired MangaStatus)
  | contentRating => inferInstanceAs (Wired ContentRating)
  | viewer => inferInstanceAs (Wired Viewer)
  | updateStrategy => inferInstanceAs (Wired UpdateStrategy)
  | listing => inferInstanceAs (Wired Listing)
  | chapter => inferInstanceAs (Wired Chapter)
  | manga => inferInstanceAs (Wired Manga)
  | mangaPage => inferInstanceAs (Wired MangaPage)
  | mangaWithChapter => inferInstanceAs (Wired MangaWithChapter)
  | filterValue => inferInstanceAs (Wired FilterValue)
  | filterItem => inferInstanceAs (Wired FilterItem)
  | linkValue => inferInstanceAs (Wired LinkValue)
  | link => inferInstanceAs (Wired Link)
  | homeContent => inferInstanceAs (Wired HomeContent)
  | homeComponent => inferInstanceAs (Wired HomeComponent)
  | home => inferInstanceAs (Wired Home)
  | homeUpdate => inferInstanceAs (Wired HomeUpdate)
  | pageContent => inferInstanceAs (Wired PageContent)
  | page => inferInstanceAs (Wired Page)
  | imageRequest => inferInstanceAs (Wired ImageRequest)
  | imageResponse => inferInstanceAs (Wired ImageResponse)
  | deepLink => inferInstanceAs (Wired DeepLink)
  | list t => have := t.wired; inferInstanceAs (Wired (List t.Value))
  | option t => have := t.wired; inferInstanceAs (Wired (Option t.Value))
  | table t => have := t.wired; inferInstanceAs (Wired (Std.ExtTreeMap String t.Value))

/-- The value, with the entries at any depth as those of the given source. -/
def stamped (sourceKey : String) : (t : CatalogType) → t.Value → t.Value
  | manga, m => Manga.stamped m sourceKey
  | mangaPage, p => MangaPage.stamped p sourceKey
  | mangaWithChapter, e => MangaWithChapter.stamped e sourceKey
  | linkValue, v => LinkValue.stamped sourceKey v
  | link, l => Link.stamped l sourceKey
  | homeContent, c => HomeContent.stamped sourceKey c
  | homeComponent, c => HomeComponent.stamped c sourceKey
  | home, h => Home.stamped h sourceKey
  | homeUpdate, u => HomeUpdate.stamped sourceKey u
  | list t, l => List.map (t.stamped sourceKey) l
  | option t, o => Option.map (t.stamped sourceKey) o
  | table t, m => Std.ExtTreeMap.map (fun _ ↦ t.stamped sourceKey) m
  | _, v => v

theorem isZeroWidth_shape (t : CatalogType) : (Wired.shape t.Value).isZeroWidth = false := by
  cases t <;> rfl

/-- What the wire keeps of a value is all but the sources its entries belong to. -/
theorem wireLaws : (t : CatalogType) → WireLaws t.Value (t.stamped "")
  | listingKind => .listingKind
  | mangaStatus => .mangaStatus
  | contentRating => .contentRating
  | viewer => .viewer
  | updateStrategy => .updateStrategy
  | listing => .listing
  | chapter => .chapter
  | manga => .manga
  | mangaPage => .mangaPage
  | mangaWithChapter => .mangaWithChapter
  | filterValue => .filterValue
  | filterItem => .filterItem
  | linkValue => .linkValue
  | link => .link
  | homeContent => .homeContent
  | homeComponent => .homeComponent
  | home => .home
  | homeUpdate => .homeUpdate
  | pageContent => .pageContent
  | page => .page
  | imageRequest => .imageRequest
  | imageResponse => .imageResponse
  | deepLink => .deepLink
  | list t => t.wireLaws.list t.isZeroWidth_shape
  | option t => t.wireLaws.option
  | table t => t.wireLaws.table

end CatalogType

/-! ## Values and their bytes -/

namespace Wired

variable {α : Type} [Wired α] {b : Bytes}

theorem decode_eq_ok_iff {a : α} :
    decode b = .ok a ↔ ∃ w, (shape α).decode b = .ok w ∧ ofWire w = a := by
  rw [decode]
  cases (shape α).decode b <;> simp [bind, Except.bind, pure, Except.pure]

theorem decode_eq_error_iff {e : WireError} :
    (decode b : Except WireError α) = .error e ↔ (shape α).decode b = .error e := by
  rw [decode]
  cases (shape α).decode b <;> simp [bind, Except.bind, pure, Except.pure]

end Wired

namespace WireLaws

variable {α : Type} [Wired α] {bare : α → α}

theorem exists_encode (h : WireLaws α bare) (a : α) : ∃ b, Wired.encode a = .ok b :=
  exists_encode_iff.2 (List.findSome?_eq_none_iff.2 (Shape.fault_eq_none_of_isPlain h.isPlain _))

/-- The parts that are written for a value are those that are read. -/
theorem decode_shape_of_encode (h : WireLaws α bare) {a : α} {b : Bytes}
    (hb : Wired.encode a = .ok b) (hsize : (Wired.shape α).IsSized (Wired.toWire a)) :
    (Wired.shape α).decode b = .ok (Wired.toWire a) := by
  have hback := (Shape.isSolid_of_isPlain h.isPlain).isBacked (Wired.toWire a)
  have htake := Shape.take_encode_append hb hsize hback []
  rw [List.append_nil] at htake
  exact Shape.decode_eq_ok_iff_take.2 htake

theorem decode_of_encode (h : WireLaws α bare) {a : α} {b : Bytes} (hb : Wired.encode a = .ok b)
    (hsize : (Wired.shape α).IsSized (Wired.toWire a)) : Wired.decode b = .ok (bare a) := by
  rw [Wired.decode, h.decode_shape_of_encode hb hsize, ← h.ofWire_toWire]
  rfl

/-- What is written for a value that was read is no longer, and is read as that value. -/
theorem rewrite (h : WireLaws α bare) {b : Bytes} {u : α} (hb : Wired.decode b = .ok u) :
    ∃ c, Wired.encode u = .ok c ∧ c.length ≤ b.length ∧ Wired.decode c = .ok u ∧
      ∃ w, (Wired.shape α).decode c = .ok w ∧ (Wired.shape α).IsAscending w := by
  obtain ⟨w, hw, rfl⟩ := Wired.decode_eq_ok_iff.1 hb
  have hform := Shape.decode_eq_ok_iff.1 hw
  obtain ⟨b', hb', hle, -⟩ := hform.rewrites
  obtain ⟨c, hc, hlen⟩ := Shape.fitsIn_encode_tidy hb'
  have hwrite : Wired.encode (Wired.ofWire w : α) = .ok c := by
    rw [Wired.encode, h.toWire_ofWire, hc]
  have hsize : (Wired.shape α).IsSized (Wired.toWire (Wired.ofWire w : α)) := by
    rw [h.toWire_ofWire]
    exact hform.isSized.tidy
  refine ⟨c, hwrite, Nat.le_trans hlen hle, ?_, _, h.decode_shape_of_encode hwrite hsize, ?_⟩
  · rw [h.decode_of_encode hwrite hsize, h.bare_ofWire]
  · rw [h.toWire_ofWire]
    exact Shape.tidy_isAscending h.isPlain w

end WireLaws

theorem Instant.ofSeconds_eq_none_iff {n : Int} :
    Instant.ofSeconds n = none ↔ n < -8334601228800 ∨ 8210266876799 < n := by
  rw [Instant.ofSeconds, dite_eq_right_iff]
  simp only [reduceCtorEq, imp_false]
  omega

/-- **The values of a catalog arrive.**  For every type of the catalog, and for lists, optional
values and tables of such types at any depth:

* Every value can be written.  What is read from its bytes is the value, with no source named in any
  entry in it.  All this asks is that the lengths in the value are numbers of 64 bits, which the
  length of anything kept in memory is.
* What is written for a value that was read from some bytes, however these were spelt, is no longer
  than these, is read as the value again, and lists the keys of every table in strictly ascending
  order of their bytes.
* Bytes that are well-formed, with numbers in the places of moments, are read unless one of the
  numbers is no moment.  Then they are refused for the first of these, and for nothing else.
* Nothing is refused for a moment unless the moment is outside the calendar. -/
theorem catalogRoundTrip (t : CatalogType) :
    (∀ v : t.Value, ∃ b, Wired.encode v = .ok b ∧
      ((Wired.shape t.Value).IsSized (Wired.toWire v) →
        Wired.decode b = .ok (t.stamped "" v))) ∧
    (∀ b (u : t.Value), Wired.decode b = .ok u →
      ∃ c, Wired.encode u = .ok c ∧ c.length ≤ b.length ∧ Wired.decode c = .ok u ∧
        ∃ w, (Wired.shape t.Value).decode c = .ok w ∧ (Wired.shape t.Value).IsAscending w) ∧
    (∀ b r, (Wired.shape t.Value).raw.decode b = .ok r →
      ∀ e, (Wired.decode b : Except WireError t.Value) = .error e ↔
        ∃ n, firstStray ((Wired.shape t.Value).moments r) = some n ∧ e = .timestampOutOfRange n) ∧
    ∀ b n, (Wired.decode b : Except WireError t.Value) = .error (.timestampOutOfRange n) →
      n < -8334601228800 ∨ 8210266876799 < n := by
  refine ⟨fun v ↦ ?_, fun b u ↦ t.wireLaws.rewrite, fun b r hr e ↦ ?_, fun b n h ↦ ?_⟩
  · obtain ⟨b, hb⟩ := t.wireLaws.exists_encode v
    exact ⟨b, hb, t.wireLaws.decode_of_encode hb⟩
  · rw [Wired.decode_eq_error_iff]
    exact Shape.decode_of_raw hr e
  · rw [Wired.decode_eq_error_iff] at h
    exact Instant.ofSeconds_eq_none_iff.1 (Shape.honest_decode _ _ n h)

/-- A chapter of the last second there is. -/
def lastChapter : Chapter where
  dateUploaded := some ⟨8210266876799, by decide, by decide⟩

/-- A page whose table was read from three entries, two of them under one key. -/
def strewnPage : Page where
  content := .url "" (some (.ofList [("b", "x"), ("a", "y"), ("b", "z")]))
  hasDescription := true

/-- An entry with the last chapter, a page spelt with a padded count, keys in no order and 7 for 1,
and a chapter that is one second later than the last. -/
theorem catalogRoundTrip_edges :
    (∃ b, Wired.encode ({ sourceKey := "en.here", chapters := some [lastChapter] } : Manga) =
        .ok b ∧ Wired.decode b = .ok ({ chapters := some [lastChapter] } : Manga)) ∧
    (∃ c, Wired.encode strewnPage = .ok c ∧ c.length ≤ 20 ∧ Wired.decode c = .ok strewnPage) ∧
    (Wired.decode [0, 0, 0, 0, 1, 128, 174, 211, 160, 243, 221, 3, 0, 0, 0, 0, 0] :
        Except WireError Chapter) = .error (.timestampOutOfRange 8210266876800) ∧
    (8210266876800 < -8334601228800 ∨ 8210266876799 < (8210266876800 : Int)) := by
  obtain ⟨hsend, -⟩ := catalogRoundTrip .manga
  obtain ⟨-, hrewrite, -⟩ := catalogRoundTrip .page
  obtain ⟨-, -, hrefuse, hrange⟩ := catalogRoundTrip .chapter
  have hlate := (hrefuse [0, 0, 0, 0, 1, 128, 174, 211, 160, 243, 221, 3, 0, 0, 0, 0, 0] _ rfl
    (.timestampOutOfRange 8210266876800)).2 ⟨_, rfl, rfl⟩
  refine ⟨?_, ?_, hlate, hrange _ _ hlate⟩
  · obtain ⟨b, hb, h⟩ := hsend { sourceKey := "en.here", chapters := some [lastChapter] }
    exact ⟨b, hb, h (by decide)⟩
  · have hread : Wired.decode [0, 0, 1, 131, 0, 1, 98, 1, 120, 1, 97, 1, 121, 1, 98, 1, 122, 0, 7,
        0] = Except.ok strewnPage := rfl
    obtain ⟨c, hc, hlen, hagain, -⟩ := hrewrite _ _ hread
    exact ⟨c, hc, Nat.le_trans hlen (by decide), hagain⟩

end SourceHost
