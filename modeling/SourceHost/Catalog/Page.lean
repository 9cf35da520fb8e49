import SourceHost.Catalog.Listing

/-!
# Pages, pictures and links into a catalog

What a source says about the pages of a chapter, how the picture of a page is asked for and
answered, and what a link from outside leads to.

A number that names a picture is a handle: the picture itself stays with the host.
-/

set_option autoImplicit false

namespace SourceHost

/-- What a page shows. -/
inductive PageContent where
  /-- A picture to be fetched, with what the source wants to be reminded of when it is. -/
  | url (url : String) (context : Option TextMap)
  /-- A text. -/
  | text (text : String)
  /-- A picture the host holds already. -/
  | image (handle : Signed 32)
  /-- A file in an archive to be fetched. -/
  | zipFile (url filePath : String)
deriving DecidableEq

instance : Wired PageContent where
  shape := .oneOf [.record [.text, .option (.map .text .text)], .text, .signed .w32,
    .record [.text, .text]]
  toWire
    | .url url context => ⟨0, url, Wired.toWire context⟩
    | .text text => ⟨1, text⟩
    | .image handle => ⟨2, handle⟩
    | .zipFile url filePath => ⟨3, url, filePath⟩
  ofWire
    | ⟨0, url, context⟩ => .url url (Wired.ofWire context)
    | ⟨1, text⟩ => .text text
    | ⟨2, handle⟩ => .image handle
    | ⟨3, url, filePath⟩ => .zipFile url filePath

/-- The picture the host holds for the page. -/
def PageContent.imageHandle : PageContent → Option (Signed 32)
  | image handle => some handle
  | _ => none

/-- A page of a chapter. -/
structure Page where
  /-- What it shows. -/
  content : PageContent
  /-- A small picture of it. -/
  thumbnail : Option String := none
  /-- There is a description to be asked for. -/
  hasDescription : Bool := false
  /-- What is said about it. -/
  description : Option String := none
deriving DecidableEq

instance : Wired Page where
  shape := .record [Wired.shape PageContent, .option .text, .bool, .option .text]
  toWire p := (Wired.toWire p.content, p.thumbnail, p.hasDescription, p.description)
  ofWire
    | (content, thumbnail, hasDescription, description) =>
      ⟨Wired.ofWire content, thumbnail, hasDescription, description⟩

/-- How a picture was asked for. -/
structure ImageRequest where
  /-- Where from. -/
  url : Option String := none
  /-- The headers of the request. -/
  headers : TextMap := ∅
deriving DecidableEq

instance : Wired ImageRequest where
  shape := .record [.option .text, .map .text .text]
  toWire r := (r.url, Wired.toWire r.headers)
  ofWire | (url, headers) => ⟨url, Wired.ofWire headers⟩

/-- How a request for a picture was answered. -/
structure ImageResponse where
  /-- The status of the response. -/
  code : Unsigned 16 := Unsigned.zero 16
  /-- Its headers. -/
  headers : TextMap := ∅
  /-- The request. -/
  request : ImageRequest := {}
  /-- The handle of the picture. -/
  image : Signed 32 := Signed.zero 32
deriving DecidableEq

instance : Wired ImageResponse where
  shape := .record [.unsigned .w16, .map .text .text, Wired.shape ImageRequest, .signed .w32]
  toWire r := (r.code, Wired.toWire r.headers, Wired.toWire r.request, r.image)
  ofWire
    | (code, headers, request, image) =>
      ⟨code, Wired.ofWire headers, Wired.ofWire request, image⟩

/-- What a link from outside leads to. -/
structure DeepLink where
  /-- The entry it leads to. -/
  mangaId : Option String := none
  /-- The chapter it leads to. -/
  chapterId : Option String := none
  /-- The listing it leads to. -/
  listing : Option Listing := none
deriving DecidableEq

instance : Wired DeepLink where
  shape := .record [.option .text, .option .text, Wired.shape (Option Listing)]
  toWire d := (d.mangaId, d.chapterId, Wired.toWire d.listing)
  ofWire | (mangaId, chapterId, listing) => ⟨mangaId, chapterId, Wired.ofWire listing⟩

/-- What a name belongs to, when the names of a source change. -/
inductive IdKind where
  | manga
  | chapter
deriving DecidableEq, Repr

/-- The number a guest knows the kind by. -/
def IdKind.selector : IdKind → Int
  | manga => 0
  | chapter => 1

end SourceHost
