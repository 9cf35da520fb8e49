import SourceHost.Catalog.Filter
import SourceHost.Catalog.Listing
import SourceHost.Catalog.Manga

/-!
# The home screen

A home screen is a list of components, each with a title that may be absent.  While a source puts
one together it can send what it has so far, piece by piece: `Home.apply` adds a piece to what has
been sent before.
-/

set_option autoImplicit false

namespace SourceHost

/-- Where a link leads. -/
inductive LinkValue where
  | url (url : String)
  | listing (listing : Listing)
  | manga (manga : Manga)
deriving DecidableEq

instance : Wired LinkValue where
  shape := .oneOf [.text, Wired.shape Listing, Wired.shape Manga]
  toWire
    | .url url => ⟨0, url⟩
    | .listing listing => ⟨1, Wired.toWire listing⟩
    | .manga manga => ⟨2, Wired.toWire manga⟩
  ofWire
    | ⟨0, url⟩ => .url url
    | ⟨1, listing⟩ => .listing (Wired.ofWire listing)
    | ⟨2, manga⟩ => .manga (Wired.ofWire manga)

/-- The target, an entry as one of the given source. -/
def LinkValue.stamped (sourceKey : String) : LinkValue → LinkValue
  | manga m => manga (m.stamped sourceKey)
  | other => other

/-- A link on the home screen. -/
structure Link where
  /-- The text it is shown as. -/
  title : String := ""
  /-- A smaller text below. -/
  subtitle : Option String := none
  /-- A picture beside. -/
  imageUrl : Option String := none
  /-- Where it leads. -/
  value : Option LinkValue := none
deriving DecidableEq

instance : Wired Link where
  shape := .record [.text, .option .text, .option .text, Wired.shape (Option LinkValue)]
  toWire l := (l.title, l.subtitle, l.imageUrl, Wired.toWire l.value)
  ofWire | (title, subtitle, imageUrl, value) => ⟨title, subtitle, imageUrl, Wired.ofWire value⟩

/-- The link, with the entry it leads to as one of the given source. -/
def Link.stamped (l : Link) (sourceKey : String) : Link :=
  { l with value := l.value.map (·.stamped sourceKey) }

/-- What a component of the home screen shows. -/
inductive HomeContent where
  /-- Large pictures, one at a time. -/
  | imageScroller (links : List Link) (autoScrollInterval : Option Single)
      (width height : Option (Signed 64))
  /-- Entries, one at a time. -/
  | bigScroller (entries : List Manga) (autoScrollInterval : Option Single)
  /-- Entries in a row. -/
  | scroller (entries : List Link) (listing : Option Listing)
  /-- Entries below each other. -/
  | mangaList (ranking : Bool) (pageSize : Option (Signed 64)) (entries : List Link)
      (listing : Option Listing)
  /-- Entries below each other, each with a chapter. -/
  | mangaChapterList (pageSize : Option (Signed 64)) (entries : List MangaWithChapter)
      (listing : Option Listing)
  /-- Filters to search with. -/
  | filters (items : List FilterItem)
  /-- Plain links. -/
  | links (links : List Link)
deriving DecidableEq

instance : Wired HomeContent where
  shape := .oneOf [
    .record [Wired.shape (List Link), .option .f32, .option (.signed .w64), .option (.signed .w64)],
    .record [Wired.shape (List Manga), .option .f32],
    .record [Wired.shape (List Link), Wired.shape (Option Listing)],
    .record [.bool, .option (.signed .w64), Wired.shape (List Link),
      Wired.shape (Option Listing)],
    .record [.option (.signed .w64), Wired.shape (List MangaWithChapter),
      Wired.shape (Option Listing)],
    Wired.shape (List FilterItem),
    Wired.shape (List Link)]
  toWire
    | .imageScroller links interval width height =>
      ⟨0, Wired.toWire links, interval, width, height⟩
    | .bigScroller entries interval => ⟨1, Wired.toWire entries, interval⟩
    | .scroller entries listing => ⟨2, Wired.toWire entries, Wired.toWire listing⟩
    | .mangaList ranking pageSize entries listing =>
      ⟨3, ranking, pageSize, Wired.toWire entries, Wired.toWire listing⟩
    | .mangaChapterList pageSize entries listing =>
      ⟨4, pageSize, Wired.toWire entries, Wired.toWire listing⟩
    | .filters items => ⟨5, Wired.toWire items⟩
    | .links links => ⟨6, Wired.toWire links⟩
  ofWire
    | ⟨0, links, interval, width, height⟩ =>
      .imageScroller (Wired.ofWire links) interval width height
    | ⟨1, entries, interval⟩ => .bigScroller (Wired.ofWire entries) interval
    | ⟨2, entries, listing⟩ => .scroller (Wired.ofWire entries) (Wired.ofWire listing)
    | ⟨3, ranking, pageSize, entries, listing⟩ =>
      .mangaList ranking pageSize (Wired.ofWire entries) (Wired.ofWire listing)
    | ⟨4, pageSize, entries, listing⟩ =>
      .mangaChapterList pageSize (Wired.ofWire entries) (Wired.ofWire listing)
    | ⟨5, items⟩ => .filters (Wired.ofWire items)
    | ⟨6, links⟩ => .links (Wired.ofWire links)

/-- The content, with all its entries as those of the given source. -/
def HomeContent.stamped (sourceKey : String) : HomeContent → HomeContent
  | imageScroller ls interval width height =>
    imageScroller (ls.map (·.stamped sourceKey)) interval width height
  | bigScroller entries interval => bigScroller (entries.map (·.stamped sourceKey)) interval
  | scroller entries listing => scroller (entries.map (·.stamped sourceKey)) listing
  | mangaList ranking pageSize entries listing =>
    mangaList ranking pageSize (entries.map (·.stamped sourceKey)) listing
  | mangaChapterList pageSize entries listing =>
    mangaChapterList pageSize
      (entries.map fun e ↦ { e with manga := e.manga.stamped sourceKey }) listing
  | filters items => filters items
  | links ls => links (ls.map (·.stamped sourceKey))

/-- A component of the home screen. -/
structure HomeComponent where
  /-- The text above it. -/
  title : Option String := none
  /-- A smaller text below its title. -/
  subtitle : Option String := none
  /-- What it shows. -/
  value : HomeContent
deriving DecidableEq

instance : Wired HomeComponent where
  shape := .record [.option .text, .option .text, Wired.shape HomeContent]
  toWire c := (c.title, c.subtitle, Wired.toWire c.value)
  ofWire | (title, subtitle, value) => ⟨title, subtitle, Wired.ofWire value⟩

/-- The component, with all its entries as those of the given source. -/
def HomeComponent.stamped (c : HomeComponent) (sourceKey : String) : HomeComponent :=
  { c with value := c.value.stamped sourceKey }

/-- A home screen. -/
structure Home where
  /-- Its components, from top to bottom. -/
  components : List HomeComponent := []
deriving DecidableEq, Inhabited

instance : Wired Home where
  shape := Wired.shape (List HomeComponent)
  toWire h := Wired.toWire h.components
  ofWire components := ⟨Wired.ofWire components⟩

/-- A piece of a home screen that is being put together. -/
inductive HomeUpdate where
  /-- Everything so far. -/
  | layout (home : Home)
  /-- One component, new or instead of the one with its title. -/
  | component (component : HomeComponent)
deriving DecidableEq

instance : Wired HomeUpdate where
  shape := .oneOf [Wired.shape Home, Wired.shape HomeComponent]
  toWire
    | .layout home => ⟨0, Wired.toWire home⟩
    | .component component => ⟨1, Wired.toWire component⟩
  ofWire
    | ⟨0, home⟩ => .layout (Wired.ofWire home)
    | ⟨1, component⟩ => .component (Wired.ofWire component)

namespace Home

/-- The components with `c` in place of the first one that has its title, or at the end when none
has it. -/
def place (c : HomeComponent) : List HomeComponent → List HomeComponent
  | [] => [c]
  | d :: rest => if d.title = c.title then c :: rest else d :: place c rest

/-- The home screen after a piece more. -/
def apply (h : Home) : HomeUpdate → Home
  | .layout home => home
  | .component c => ⟨place c h.components⟩

/-- The home screen, with all its entries as those of the given source. -/
def stamped (h : Home) (sourceKey : String) : Home :=
  ⟨h.components.map (·.stamped sourceKey)⟩

end Home

end SourceHost
