import SourceHost.Catalog.Page
import SourceHost.Source.Call

/-!
# Entry points

What a source can be asked for.  Every question is asked in the same way: what it is about is
stored in the arena and its handles are given to the guest, the guest is called, its answer is
read, and what has been stored is taken away again, however the call ended.

While two of the questions are being answered the guest may send what it has so far.
-/

set_option autoImplicit false

namespace SourceHost

/-- What a source can be asked for. -/
inductive Entry where
  | search (query : Option String) (page : Int) (chosen : List FilterValue)
  | mangaUpdate (manga : Manga) (needsDetails needsChapters : Bool)
  | pageList (manga : Manga) (chapter : Chapter)
  | mangaList (listing : Listing) (page : Int)
  | home
  | filters
  | settings
  | listings
  | processPageImage (response : ImageResponse) (context : Option TextMap)
  | imageRequest (url : String) (context : Option TextMap)
  | pageDescription (page : Page)
  | alternateCovers (manga : Manga)
  | baseUrl
  | notification (text : String)
  | deepLink (url : String)
  | basicLogin (key username password : String)
  | webLogin (key : String) (cookies : TextMap)
  | idMigration (id : String) (kind : IdKind)
deriving DecidableEq

/-- What a source answers. -/
inductive Reply where
  | mangaPage (page : MangaPage)
  | manga (manga : Manga)
  | pages (pages : List Page)
  | home (home : Home)
  | filters (items : List FilterItem)
  | texts (texts : List String)
  | listings (listings : List Listing)
  | image (image : Option Image)
  | request (request : HttpRequest)
  | text (text : String)
  | url (url : Option Url)
  | nothing
  | deepLink (link : Option DeepLink)
  | flag (value : Bool)
deriving DecidableEq

/-- A parameter of a call. -/
inductive Argument where
  /-- A number. -/
  | number (value : Int)
  /-- The handle of something that is stored for the call. -/
  | stored (resource : Resource)
deriving DecidableEq

namespace Argument

/-- A value, in its wire form. -/
def encoded {α : Type} [Wired α] (a : α) : Except HostError Argument :=
  match Wired.encode a with
  | .ok data => .ok (stored (.bytes data))
  | .error e => .error (.encode e)

/-- A value that may be absent. -/
def encodedOption {α : Type} [Wired α] : Option α → Except HostError Argument
  | some a => encoded a
  | none => .ok (number Handle.absent)

/-- A truth value. -/
def flag (b : Bool) : Argument := number (if b then 1 else 0)

/-- Several arguments, each of which may fail. -/
def all : List (Except HostError Argument) → Except HostError (List Argument)
  | [] => .ok []
  | a :: rest => do return (← a) :: (← all rest)

end Argument

namespace Entry

/-- The name under which a guest exports the entry point. -/
def name : Entry → String
  | search .. => "get_search_manga_list"
  | mangaUpdate .. => "get_manga_update"
  | pageList .. => "get_page_list"
  | mangaList .. => "get_manga_list"
  | home => "get_home"
  | filters => "get_filters"
  | settings => "get_settings"
  | listings => "get_listings"
  | processPageImage .. => "process_page_image"
  | imageRequest .. => "get_image_request"
  | pageDescription .. => "get_page_description"
  | alternateCovers .. => "get_alternate_covers"
  | baseUrl => "get_base_url"
  | notification .. => "handle_notification"
  | deepLink .. => "handle_deep_link"
  | basicLogin .. => "handle_basic_login"
  | webLogin .. => "handle_web_login"
  | idMigration .. => "handle_id_migration"

open Argument in
/-- What the guest is called with.  A query is stored as it is, everything else in its wire form;
the chapters of an entry are left out where a chapter is given beside it, and cookies are given as
two lists. -/
def arguments : Entry → Except HostError (List Argument)
  | search query page chosen =>
    all [.ok (.stored (.text (query.getD ""))), .ok (.number page), encoded chosen]
  | mangaUpdate manga needsDetails needsChapters =>
    all [encoded manga, .ok (flag needsDetails), .ok (flag needsChapters)]
  | pageList manga chapter => all [encoded { manga with chapters := none }, encoded chapter]
  | mangaList listing page => all [encoded listing, .ok (.number page)]
  | home => .ok []
  | filters => .ok []
  | settings => .ok []
  | listings => .ok []
  | processPageImage response context => all [encoded response, encodedOption context]
  | imageRequest url context => all [encoded url, encodedOption context]
  | pageDescription page => all [encoded page]
  | alternateCovers manga => all [encoded manga]
  | baseUrl => .ok []
  | notification text => all [encoded text]
  | deepLink url => all [encoded url]
  | basicLogin key username password =>
    all [encoded key, encoded username, encoded password]
  | webLogin key cookies => all [encoded key, encoded cookies.keys, encoded cookies.values]
  | idMigration id kind => all [encoded id, .ok (.number kind.selector)]

/-- News about an entry are laid over what was known when the call began; what cannot be read
changes nothing. -/
def mangaHandler (base : Manga) (made : Option Streamed) (data : Bytes) : Option Streamed :=
  match Wired.decode data with
  | .ok news => some (.manga (base.mergedWith news))
  | .error _ => made

/-- A piece is added to a home screen, unless a piece before could not be read. -/
def HomeProgress.next (sourceKey : String) (p : HomeProgress) (data : Bytes) : HomeProgress :=
  if p.failure.isSome then p
  else match Wired.decode data with
    | .ok piece => { p with home := some (((p.home.getD {}).apply piece).stamped sourceKey) }
    | .error e => { p with failure := some e }

/-- What there is of a home screen in what has been made. -/
def homeProgress : Option Streamed → HomeProgress
  | some (.home progress) => progress
  | _ => {}

/-- A piece is added to what has been made of a home screen. -/
def homeHandler (sourceKey : String) (made : Option Streamed) (data : Bytes) : Option Streamed :=
  some (.home (HomeProgress.next sourceKey (homeProgress made) data))

/-- Who wants to see what the guest sends while it answers. -/
def handler (sourceKey : String) : Entry → Option (Option Streamed → Bytes → Option Streamed)
  | mangaUpdate manga _ _ => some (mangaHandler (manga.stamped sourceKey))
  | home => some (homeHandler sourceKey)
  | _ => none

/-- The session before anything has been published for the question. -/
def begin (e : Entry) (s : Session) : Session :=
  match e with
  | mangaUpdate .. => { s with mangaUpdate := none }
  | home => { s with homeUpdate := none }
  | _ => s

end Entry

namespace Session

/-- The arguments of a call are put in their places: the parameters of the call, and the handles
of what has been stored for it. -/
def place (s : Session) : List Argument → List Int × List Handle × Session
  | [] => ([], [], s)
  | .number value :: rest =>
    let (parameters, handles, s) := place s rest
    (value :: parameters, handles, s)
  | .stored resource :: rest =>
    let (h, arena) := s.arena.store resource
    let (parameters, handles, s) := place { s with arena } rest
    (h :: parameters, h :: handles, s)

/-- A handler is registered for the time of a call, if there is one. -/
def listen (s : Session) (handler : Option (Option Streamed → Bytes → Option Streamed)) :
    Option Nat × Session :=
  match handler with
  | none => (none, s)
  | some handler =>
    let (id, mailbox) := s.mailbox.register handler
    (some id, { s with mailbox })

/-- What was there for the time of a call only is taken away. -/
def cleanUp (s : Session) (registration : Option Nat) (handles : List Handle) : Session :=
  { s with
    arena := s.arena.removeAll handles
    mailbox := match registration with
      | some id => s.mailbox.drop id
      | none => s.mailbox }

/-- The resource under the handle that a call returned, which is taken away. -/
def takeResource (env : Environment) (script : Script) (ret : Int) (s : Session) :
    Except HostError (Option Resource) × Session :=
  match s.decodeResult (α := Signed 32) env script ret with
  | (.error e, s) => (.error e, s)
  | (.ok h, s) => (.ok (s.arena.fetch h.val), { s with arena := s.arena.remove h.val })

/-- The home screen that a call returned, or the one that has been sent piece by piece if the one
returned is empty.  A piece that could not be read counts more than whatever was returned. -/
def takeHome (env : Environment) (script : Script) (ret : Int) (registration : Option Nat)
    (s : Session) : Except HostError Reply × Session :=
  let (payload, s) := s.takeResult env script ret
  let progress := Entry.homeProgress (registration.bind s.mailbox.snapshot)
  (match progress.failure with
    | some e => .error (.decode e)
    | none => do
      let data ← payload
      let home ← (Wired.decode data).mapError .decode
      match progress.home with
      | some sent =>
        if (home : Home).components.isEmpty then return .home sent
        else return .home (home.stamped env.config.sourceKey)
      | none => return .home (home.stamped env.config.sourceKey), s)

/-- A page can be shown: a picture it refers to is there. -/
def canShow (a : Arena) (p : Page) : Bool :=
  match p.content.imageHandle with
  | some h => (a.image h.val).toOption.isSome
  | none => true

/-- The answer to a question whose call returned a number. -/
def answer (env : Environment) (e : Entry) (script : Script) (ret : Int)
    (registration : Option Nat) (s : Session) : Except HostError Reply × Session :=
  let key := env.config.sourceKey
  let decoded {α : Type} [Wired α] (reply : α → Reply) : Except HostError Reply × Session :=
    let (value, s) := s.decodeResult (α := α) env script ret
    (value.map reply, s)
  match e with
  | .search .. => decoded fun p : MangaPage ↦ .mangaPage (p.stamped key)
  | .mangaUpdate .. => decoded fun m : Manga ↦ .manga (m.stamped key)
  | .pageList .. =>
    let (pages, s) := s.decodeResult (α := List Page) env script ret
    (pages.map fun pages ↦ .pages (pages.filter (canShow s.arena)), s)
  | .mangaList .. => decoded fun p : MangaPage ↦ .mangaPage (p.stamped key)
  | .home => s.takeHome env script ret registration
  | .filters => decoded .filters
  | .settings => decoded .texts
  | .listings => decoded .listings
  | .processPageImage .. =>
    let (resource, s) := s.takeResource env script ret
    (resource.map fun r ↦ .image (r.bind Resource.image?), s)
  | .imageRequest .. =>
    let (resource, s) := s.takeResource env script ret
    (resource.bind fun r ↦ match (r.bind Resource.request?).bind Request.toHttp with
      | some http => .ok (.request http)
      | none => .error .missingResult, s)
  | .pageDescription .. => decoded .text
  | .alternateCovers .. => decoded .texts
  | .baseUrl => decoded fun u : Option String ↦ .url (u.bind Url.parse?)
  | .notification .. => (.ok .nothing, if ret < 0 then s else (s.takeResult env script ret).2)
  | .deepLink .. => decoded .deepLink
  | .basicLogin .. => decoded .flag
  | .webLogin .. => decoded .flag
  | .idMigration .. => decoded .text

/-- A question is asked and answered. -/
def perform (env : Environment) (guest : Guest) (e : Entry) (behaviour : Behaviour) (s : Session) :
    Except HostError Reply × Session :=
  let (registration, s) := (e.begin s).listen (e.handler env.config.sourceKey)
  match e.arguments with
  | .error failure => (.error failure, s.cleanUp registration [])
  | .ok arguments =>
    let (parameters, handles, s) := s.place arguments
    match s.call env guest e.name parameters behaviour.work with
    | (.error failure, s) => (.error failure, s.cleanUp registration handles)
    | (.ok ret, s) =>
      let (reply, s) := s.answer env e behaviour.release ret registration
      (reply, s.cleanUp registration handles)

end Session

end SourceHost
