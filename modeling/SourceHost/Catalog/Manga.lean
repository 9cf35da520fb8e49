import SourceHost.Catalog.Classification

/-!
# Manga and their chapters

The entries of a catalog.  Every entry belongs to a source, but the source it belongs to is the
host's own knowledge: `Manga.sourceKey` is not on the wire, and an entry that has just been read
belongs to no source until it is stamped.

`Manga.mergedWith` overlays news about an entry on what is known of it.
-/

set_option autoImplicit false

namespace SourceHost

/-- A chapter of a manga. -/
structure Chapter where
  /-- The name the source knows it by. -/
  key : String := ""
  /-- The name it is shown under. -/
  title : Option String := none
  /-- Its number in the manga. -/
  chapterNumber : Option Single := none
  /-- The number of the volume it is in. -/
  volumeNumber : Option Single := none
  /-- When it appeared. -/
  dateUploaded : Option Instant := none
  /-- The groups that have prepared it. -/
  scanlators : Option (List String) := none
  /-- Where it can be read. -/
  url : Option String := none
  /-- The language it is in. -/
  language : Option String := none
  /-- A small picture of it. -/
  thumbnail : Option String := none
  /-- It cannot be read yet. -/
  locked : Bool := false
deriving DecidableEq, Inhabited

instance : Wired Chapter where
  shape := .record [.text, .option .text, .option .f32, .option .f32, .option .instant,
    .option (.seq .text), .option .text, .option .text, .option .text, .bool]
  toWire c := (c.key, c.title, c.chapterNumber, c.volumeNumber, c.dateUploaded, c.scanlators,
    c.url, c.language, c.thumbnail, c.locked)
  ofWire
    | (key, title, chapterNumber, volumeNumber, dateUploaded, scanlators, url, language,
        thumbnail, locked) =>
      { key, title, chapterNumber, volumeNumber, dateUploaded, scanlators, url, language,
        thumbnail, locked }

/-- An entry of a catalog. -/
structure Manga where
  /-- The source it belongs to. -/
  sourceKey : String := ""
  /-- The name the source knows it by. -/
  key : String := ""
  /-- The name it is shown under. -/
  title : String := ""
  /-- A picture of its cover. -/
  cover : Option String := none
  /-- Who drew it. -/
  artists : Option (List String) := none
  /-- Who wrote it. -/
  authors : Option (List String) := none
  /-- What it is about. -/
  description : Option String := none
  /-- Where it can be found. -/
  url : Option String := none
  /-- What kind of story it is. -/
  tags : Option (List String) := none
  /-- How far its publication has come. -/
  status : MangaStatus := .unknown
  /-- Who it is suited for. -/
  contentRating : ContentRating := .unknown
  /-- The direction it is read in. -/
  viewer : Viewer := .unknown
  /-- Whether it is worth looking at again. -/
  updateStrategy : UpdateStrategy := .always
  /-- When it is worth looking at again, in seconds since the start of 1970. -/
  nextUpdateTime : Option (Signed 64) := none
  /-- Its chapters. -/
  chapters : Option (List Chapter) := none
deriving DecidableEq, Inhabited

instance : Wired Manga where
  shape := .record [.text, .text, .option .text, .option (.seq .text), .option (.seq .text),
    .option .text, .option .text, .option (.seq .text), Wired.shape MangaStatus,
    Wired.shape ContentRating, Wired.shape Viewer, Wired.shape UpdateStrategy,
    .option (.signed .w64), Wired.shape (Option (List Chapter))]
  toWire m := (m.key, m.title, m.cover, m.artists, m.authors, m.description, m.url, m.tags,
    Wired.toWire m.status, Wired.toWire m.contentRating, Wired.toWire m.viewer,
    Wired.toWire m.updateStrategy, m.nextUpdateTime, Wired.toWire m.chapters)
  ofWire
    | (key, title, cover, artists, authors, description, url, tags, status, contentRating,
        viewer, updateStrategy, nextUpdateTime, chapters) =>
      { key, title, cover, artists, authors, description, url, tags, nextUpdateTime
        status := Wired.ofWire status
        contentRating := Wired.ofWire contentRating
        viewer := Wired.ofWire viewer
        updateStrategy := Wired.ofWire updateStrategy
        chapters := Wired.ofWire chapters }

namespace Manga

/-- The entry as one of the given source. -/
def stamped (m : Manga) (sourceKey : String) : Manga := { m with sourceKey }

/-- A text, or another one in its place when it is empty. -/
def orElseText (new old : String) : String := if new.isEmpty then old else new

/-- What is known of an entry after the news in `update`.  A name, a title or a source that the
news leaves empty stays, and so does a detail that is absent from them.  What has no absent value
is taken from the news, and so is the time of the next look, whether they have one or not. -/
def mergedWith (m update : Manga) : Manga where
  sourceKey := orElseText update.sourceKey m.sourceKey
  key := orElseText update.key m.key
  title := orElseText update.title m.title
  cover := update.cover <|> m.cover
  artists := update.artists <|> m.artists
  authors := update.authors <|> m.authors
  description := update.description <|> m.description
  url := update.url <|> m.url
  tags := update.tags <|> m.tags
  status := update.status
  contentRating := update.contentRating
  viewer := update.viewer
  updateStrategy := update.updateStrategy
  nextUpdateTime := update.nextUpdateTime
  chapters := update.chapters <|> m.chapters

end Manga

/-- One page of a list of entries. -/
structure MangaPage where
  /-- The entries of the page. -/
  entries : List Manga := []
  /-- There is a page after it. -/
  hasNextPage : Bool := false
deriving DecidableEq, Inhabited

instance : Wired MangaPage where
  shape := .record [Wired.shape (List Manga), .bool]
  toWire p := (Wired.toWire p.entries, p.hasNextPage)
  ofWire | (entries, hasNextPage) => ⟨Wired.ofWire entries, hasNextPage⟩

/-- The page with all entries as those of the given source. -/
def MangaPage.stamped (p : MangaPage) (sourceKey : String) : MangaPage :=
  { p with entries := p.entries.map (·.stamped sourceKey) }

/-- An entry with one of its chapters. -/
structure MangaWithChapter where
  /-- The entry. -/
  manga : Manga
  /-- The chapter. -/
  chapter : Chapter
deriving DecidableEq, Inhabited

instance : Wired MangaWithChapter where
  shape := .record [Wired.shape Manga, Wired.shape Chapter]
  toWire e := (Wired.toWire e.manga, Wired.toWire e.chapter)
  ofWire | (manga, chapter) => ⟨Wired.ofWire manga, Wired.ofWire chapter⟩

end SourceHost
