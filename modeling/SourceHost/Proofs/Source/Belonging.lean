import SourceHost.Proofs.Catalog.Belonging
import SourceHost.Proofs.Source.Bystanders
import SourceHost.Proofs.Source.Home

/-!
# The source of every entry

An entry that has just been read belongs to no source, and an entry that is passed to a question may
bear any name.  Whatever leaves a source bears its own name: what is answered, and what is published
while the answer is on its way.

* `Entry.bare` — what a guest has answered, before the name of the source is written.
* `Entry.reply_bare` — the answer is this, with the name written.
* `Entry.published` — what has been published when some pieces have been sent.
* `updates_foldl_deliver` — nothing else is published, as long as those who wait for the pieces
  besides publish nothing.
* `IsStamped` — everything published so far bears the name of the source; no use changes that.
* `entriesBearSource` — so does every entry that leaves the source.
-/

set_option autoImplicit false

namespace SourceHost

/-! ## Answers -/

namespace Reply

variable {sourceKey : String}

/-- The entries in an answer. -/
def mangas : Reply → List Manga
  | mangaPage p => p.entries
  | manga m => [m]
  | home h => h.mangas
  | _ => []

/-- The answer, with all its entries as those of the given source. -/
def stamped (sourceKey : String) : Reply → Reply
  | mangaPage p => mangaPage (p.stamped sourceKey)
  | manga m => manga (m.stamped sourceKey)
  | home h => home (h.stamped sourceKey)
  | other => other

/-- The bytes of an answer that has entries. -/
def encode? : Reply → Option (Except WireError Bytes)
  | mangaPage p => some (Wired.encode p)
  | manga m => some (Wired.encode m)
  | home h => some (Wired.encode h)
  | _ => none

theorem sourceKey_of_mem_mangas_stamped (r : Reply) :
    ∀ m ∈ (r.stamped sourceKey).mangas, m.sourceKey = sourceKey := by
  cases r with
  | mangaPage p => exact MangaPage.stamped_eq_self_iff.1 (p.stamped_stamped sourceKey)
  | manga m => exact List.forall_mem_singleton.2 rfl
  | home h => exact Home.stamped_eq_self_iff.1 (h.stamped_stamped sourceKey)
  | _ => exact List.forall_mem_nil _

theorem encode?_stamped (r : Reply) : (r.stamped sourceKey).encode? = r.encode? := by
  cases r with
  | mangaPage p => exact congrArg some p.encode_stamped
  | manga m => rfl
  | home h => exact congrArg some h.encode_stamped
  | _ => rfl

end Reply

namespace Entry

/-- The question is about entries. -/
def AsksForEntries : Entry → Prop
  | search .. | mangaUpdate .. | mangaList .. | home => True
  | _ => False

/-- What a guest has answered with a payload and some pieces: what it has returned, or what it has
sent if it has returned an empty home screen. -/
def bare (pieces : List Bytes) (data : Bytes) : Entry → Option Reply
  | search .. | mangaList .. => (Wired.decode data).toOption.map .mangaPage
  | mangaUpdate .. => (Wired.decode data).toOption.map .manga
  | home => (Wired.decode data).toOption.map fun whole : Home ↦
    let updates := (HomeUpdate.readAll pieces).1
    .home (if whole.components = [] ∧ updates ≠ [] then updates.foldl Home.apply {} else whole)
  | _ => none

/-- An answer to a question about entries is what the guest has answered, with the name of the
source written. -/
theorem reply_bare {sourceKey : String} {a : Arena} {made : Option Streamed}
    {payload : Except HostError Bytes} {pieces : List Bytes} {e : Entry} {reply : Reply}
    (he : e.AsksForEntries)
    (hmade : e = home → homeProgress made =
      ⟨Home.assembled sourceKey (HomeUpdate.readAll pieces).1, (HomeUpdate.readAll pieces).2⟩)
    (h : e.reply sourceKey a made payload = .ok reply) :
    ∃ data r, payload = .ok data ∧ e.bare pieces data = some r ∧ reply = r.stamped sourceKey := by
  -- what is decoded is what the payload spells
  have decoded {α : Type} [Wired α] {v : α}
      (hv : (payload.bind fun data ↦ (Wired.decode data).mapError .decode) = .ok v) :
      ∃ data, payload = .ok data ∧ (Wired.decode data : Except WireError α).toOption = some v := by
    cases payload with
    | error => cases hv
    | ok data =>
      refine ⟨data, rfl, ?_⟩
      cases hdecode : (Wired.decode data : Except WireError α) with
      | error => simp [Except.bind, Except.mapError, hdecode] at hv
      | ok u =>
        simp only [Except.bind, Except.mapError, hdecode, Except.ok.injEq] at hv
        rw [hv]
        rfl
  cases e with
  | search | mangaList | mangaUpdate =>
    obtain ⟨v, hv, rfl⟩ := map_eq_ok h
    obtain ⟨data, hpayload, hdecode⟩ := decoded hv
    exact ⟨data, _, hpayload, by rw [bare, hdecode]; rfl, rfl⟩
  | home =>
    have hprogress := hmade rfl
    cases hfailure : (HomeUpdate.readAll pieces).2 with
    | some failure =>
      simp only [Entry.reply, hprogress, hfailure] at h
      cases h
    | none =>
      rw [hfailure] at hprogress
      rw [reply_home hprogress] at h
      cases hpayload : payload with
      | error =>
        rw [hpayload] at h
        cases h
      | ok data =>
        rw [hpayload] at h
        cases hdecode : (Wired.decode data : Except WireError Home) with
        | error =>
          simp only [hdecode] at h
          cases h
        | ok whole =>
          simp only [hdecode] at h
          obtain rfl := Except.ok.inj h
          refine ⟨data, _, rfl, by rw [bare, hdecode]; rfl, ?_⟩
          rw [Reply.stamped]
          split <;> rfl
  | _ => exact absurd he not_false

/-- An answer to another question has no entries. -/
theorem mangas_reply {sourceKey : String} {a : Arena} {made : Option Streamed}
    {payload : Except HostError Bytes} {e : Entry} {reply : Reply}
    (he : ¬e.AsksForEntries) (h : e.reply sourceKey a made payload = .ok reply) :
    reply.mangas = [] := by
  cases e with
  | search | mangaList | mangaUpdate | home => exact absurd trivial he
  | imageRequest =>
    simp only [Entry.reply] at h
    generalize payload.bind _ = handle at h
    cases handle with
    | error => cases h
    | ok i =>
      dsimp only [Except.bind] at h
      split at h <;> cases h
      rfl
  | notification =>
    cases h
    rfl
  | _ =>
    obtain ⟨_, -, heq⟩ := map_eq_ok h
    cases heq
    rfl

/-! ## Publishing -/

/-- The last news about an entry that can be read. -/
def lastNews (pieces : List Bytes) : Option Manga :=
  (pieces.filterMap fun data ↦ (Wired.decode data : Except WireError Manga).toOption).getLast?

/-- What is published, when some pieces have been sent, instead of what was published before the
question: what the latest news come to, or what has been put together. -/
def published (sourceKey : String) (pieces : List Bytes) (before : Option Manga × Option Home) :
    Entry → Option Manga × Option Home
  | mangaUpdate manga _ _ =>
    ((lastNews pieces).map fun news ↦ (manga.mergedWith news).stamped sourceKey, before.2)
  | home => (before.1, Home.assembled sourceKey (HomeUpdate.readAll pieces).1)
  | _ => before

theorem lastNews_append_singleton (pieces : List Bytes) (data : Bytes) :
    lastNews (pieces ++ [data]) =
      ((Wired.decode data : Except WireError Manga).toOption <|> lastNews pieces) := by
  rw [lastNews, lastNews, List.filterMap_append]
  cases h : (Wired.decode data : Except WireError Manga) <;> simp [h]

/-- News do not say which source they are about. -/
theorem mergedWith_of_decode {sourceKey : String} {manga news : Manga} {data : Bytes}
    (h : Wired.decode data = .ok news) :
    (manga.stamped sourceKey).mergedWith news = (manga.mergedWith news).stamped sourceKey := by
  obtain ⟨w, -, rfl⟩ := Wired.decode_eq_ok_iff.1 h
  rfl

/-- What the handler has made of some pieces. -/
theorem foldl_mangaHandler (sourceKey : String) (manga : Manga) (pieces : List Bytes) :
    pieces.foldl (mangaHandler (manga.stamped sourceKey)) none =
      (lastNews pieces).map fun news ↦ .manga ((manga.mergedWith news).stamped sourceKey) := by
  induction pieces using List.reverseRecOn with
  | nil => rfl
  | append_singleton pieces data ih =>
    rw [List.foldl_append, ih, List.foldl_cons, List.foldl_nil, mangaHandler,
      lastNews_append_singleton]
    cases hdecode : (Wired.decode data : Except WireError Manga) with
    | error => rfl
    | ok news => exact congrArg (some <| Streamed.manga ·) (mergedWith_of_decode hdecode)

/-- The entries in what is published. -/
def entriesIn (updates : Option Manga × Option Home) : List Manga :=
  updates.1.toList ++ updates.2.toList.flatMap (·.mangas)

/-- What is published for a question bears the name of the source. -/
theorem sourceKey_of_mem_published {sourceKey : String} {pieces : List Bytes}
    {before : Option Manga × Option Home} {e : Entry}
    (h : ∀ m ∈ entriesIn before, m.sourceKey = sourceKey) :
    ∀ m ∈ entriesIn (e.published sourceKey pieces before), m.sourceKey = sourceKey := by
  rw [entriesIn, List.forall_mem_append] at h
  cases e with
  | mangaUpdate manga =>
    refine List.forall_mem_append.2 ⟨?_, h.2⟩
    intro m hm
    obtain ⟨news, -, rfl⟩ := by simpa [published] using hm
    rfl
  | home =>
    refine List.forall_mem_append.2 ⟨h.1, ?_⟩
    intro m hm
    simp only [published, Home.assembled] at hm
    split at hm
    · cases hm
    · rw [Option.toList_some, List.flatMap_singleton] at hm
      exact Home.stamped_eq_self_iff.1 (Home.stamped_stamped sourceKey _) m hm
  | _ => exact List.forall_mem_append.2 h

end Entry

namespace Session

variable {env : Environment} {guest : Guest} {e : Entry} {b : Behaviour} {s : Session} {id : Nat}
  {handler : Option Streamed → Bytes → Option Streamed} {pieces : List Bytes}
  {before : Option Manga × Option Home}

/-- What has been published: the entry and the home screen. -/
def updates (s : Session) : Option Manga × Option Home := (s.mangaUpdate, s.homeUpdate)

/-- Whoever waits for pieces makes nothing of them that is published. -/
def IsQuiet (s : Session) : Prop := ∀ r ∈ s.mailbox.registrations, r.Avoids fun _ ↦ True

/-- Nothing is published by runs in which nothing is made. -/
theorem foldl_publish_of_avoids {runs : List (Mailbox.Run Streamed)}
    (h : ∀ r ∈ runs, ∀ x ∈ r.made, ¬True) : runs.foldl publish s = s := by
  induction runs with
  | nil => rfl
  | cons r runs ih =>
    rw [List.forall_mem_cons] at h
    have hmade : r.made = none :=
      Option.eq_none_iff_forall_not_mem.2 fun x hx ↦ h.1 x hx trivial
    have hpublish : s.publish r = s := by rw [publish, hmade]
    rw [List.foldl_cons, hpublish, ih h.2]

theorem IsQuiet.deliver (h : s.IsQuiet) (data : Bytes) :
    (s.deliver data).IsQuiet ∧ (s.deliver data).updates = s.updates := by
  have hquiet : ∀ r ∈ (s.mailbox.deliver data).2.registrations, r.Avoids fun _ ↦ True := by
    intro r hr
    rw [Mailbox.deliver_eq] at hr
    obtain ⟨r, hmem, rfl⟩ := List.mem_map.1 hr
    exact (h r hmem).deliver data
  have hruns : ∀ r ∈ (s.mailbox.deliver data).1, ∀ x ∈ r.made, ¬True := by
    intro r hr
    rw [Mailbox.deliver_eq] at hr
    obtain ⟨r, hmem, rfl⟩ := List.mem_map.1 hr
    exact (h r (List.mem_of_mem_filter hmem)).run data
  rw [deliver_eq_foldl, foldl_publish_of_avoids hruns]
  exact ⟨hquiet, rfl⟩

theorem IsQuiet.foldl_deliver (h : s.IsQuiet) (pieces : List Bytes) :
    (pieces.foldl Session.deliver s).IsQuiet ∧
      (pieces.foldl Session.deliver s).updates = s.updates := by
  induction pieces generalizing s with
  | nil => exact ⟨h, rfl⟩
  | cons data pieces ih =>
    obtain ⟨hquiet, hupdates⟩ := h.deliver data
    exact ⟨(ih hquiet).1, (ih hquiet).2.trans hupdates⟩

/-- After a piece what is published is what the handler has made, if it has made anything. -/
theorem Listens.updates_deliver (h : s.Listens (fun _ ↦ True) id handler pieces) (data : Bytes) :
    (s.deliver data).updates = match (pieces ++ [data]).foldl handler none with
      | some (.manga latest) => (some latest, s.homeUpdate)
      | some (.home progress) => (s.mangaUpdate, progress.home <|> s.homeUpdate)
      | none => s.updates := by
  obtain ⟨others, hruns, hothers⟩ := h.runs_deliver data
  rw [deliver_eq_foldl, hruns, List.foldl_append, foldl_publish_of_avoids hothers, List.foldl_cons,
    List.foldl_nil, publish]
  generalize (pieces ++ [data]).foldl handler none = made
  rcases made with _ | latest | progress <;> rfl

/-- **A piece more is published as it should be.** -/
theorem updates_deliver {sourceKey : String} (hhandler : e.handler sourceKey = some handler)
    (h : s.Listens (fun _ ↦ True) id handler pieces)
    (hupdates : s.updates = e.published sourceKey pieces before) (data : Bytes) :
    (s.deliver data).updates = e.published sourceKey (pieces ++ [data]) before := by
  rw [h.updates_deliver]
  cases e with
  | mangaUpdate manga =>
    obtain rfl := Option.some.inj hhandler
    rw [Entry.foldl_mangaHandler, Entry.published]
    cases hlast : Entry.lastNews (pieces ++ [data]) with
    | none =>
      have hnone : Entry.lastNews pieces = none := by
        simp only [Entry.lastNews_append_singleton, Option.orElse_eq_orElse, Option.orElse_eq_or,
          Option.or_eq_none_iff] at hlast
        exact hlast.2
      rw [Option.map_none, hupdates, Entry.published, hnone]
    | some news => exact congrArg (Prod.mk _) (congrArg Prod.snd hupdates)
  | home =>
    obtain rfl := Option.some.inj hhandler
    obtain ⟨hmanga, hhome⟩ := Prod.mk.inj hupdates
    rw [Entry.published, ← Entry.homeProgress_orElse, List.foldl_append, hmanga, hhome]
    rfl
  | _ => cases hhandler

/-- Before the first piece nothing has been published for the question. -/
theorem setUp_updates :
    (s.setUp env e).session.updates = e.published env.config.sourceKey [] s.updates := by
  rw [setUp]
  dsimp only
  rw [place_eq]
  cases e <;> rfl

theorem setUp_isQuiet (h : s.IsQuiet) (hhandler : e.handler env.config.sourceKey = none) :
    (s.setUp env e).session.IsQuiet := by
  have hmailbox : (s.setUp env e).session.mailbox = s.mailbox := by
    rw [setUp, hhandler]
    dsimp only
    rw [place_eq]
    exact (begin_spares e s).mailbox
  rwa [IsQuiet, hmailbox]

/-- **What is published when some pieces have been sent.** -/
theorem updates_foldl_deliver (hs : s.IsSound) (hquiet : s.IsQuiet) (pieces : List Bytes) :
    (pieces.foldl deliver (s.setUp env e).session).updates =
      e.published env.config.sourceKey pieces s.updates := by
  cases hhandler : e.handler env.config.sourceKey with
  | none =>
    have hsetUp : (s.setUp env e).session.IsQuiet := setUp_isQuiet hquiet hhandler
    have hpublished : e.published env.config.sourceKey [] s.updates =
        e.published env.config.sourceKey pieces s.updates := by
      cases e <;> first | rfl | cases hhandler
    exact (hsetUp.foldl_deliver pieces).2.trans (setUp_updates.trans hpublished)
  | some handler =>
    obtain ⟨-, hlistens⟩ := setUp_listens hs.isNumbered hquiet hhandler
    have hsent : (pieces.foldl deliver (s.setUp env e).session).Listens (fun _ ↦ True)
          s.mailbox.nextId handler pieces ∧
        (pieces.foldl deliver (s.setUp env e).session).updates =
          e.published env.config.sourceKey pieces s.updates := by
      induction pieces using List.reverseRecOn with
      | nil => exact ⟨hlistens, setUp_updates⟩
      | append_singleton pieces data ih =>
        rw [List.foldl_append]
        exact ⟨ih.1.deliver data, updates_deliver hhandler ih.1 ih.2 data⟩
    exact hsent.2

/-- At every moment of a call the first pieces have been published as they should be. -/
theorem moments_updates (hs : s.IsSound) (hquiet : s.IsQuiet) :
    ∀ t ∈ s.moments env guest e b, ∃ pieces, pieces <+: s.sent env guest e b ∧
      t.updates = e.published env.config.sourceKey pieces s.updates := by
  intro t ht
  obtain ⟨pieces, hpieces, hnews⟩ := moments_news t ht
  exact ⟨pieces, hpieces, (congrArg Prod.snd hnews).trans (updates_foldl_deliver hs hquiet pieces)⟩

/-- After the call all pieces have been published. -/
theorem perform_updates (hs : s.IsSound) (hquiet : s.IsQuiet) :
    (s.perform env guest e b).2.updates =
      e.published env.config.sourceKey (s.sent env guest e b) s.updates := by
  rw [perform_snd]
  exact (congrArg Prod.snd finished_news).trans (updates_foldl_deliver hs hquiet _)

/-- A call leaves nobody behind who would publish anything. -/
theorem perform_isQuiet (hs : s.IsSound) (hquiet : s.IsQuiet) :
    (s.perform env guest e b).2.IsQuiet := by
  rw [perform_snd]
  cases hhandler : e.handler env.config.sourceKey with
  | none =>
    have hregistration : (s.setUp env e).registration = none := by
      rw [setUp, hhandler]
      rfl
    have hmailbox : (s.finished env guest e b).mailbox = _ := congrArg Prod.fst finished_news
    have hsetUp : (s.setUp env e).session.IsQuiet := setUp_isQuiet hquiet hhandler
    rw [hregistration]
    show ∀ r ∈ (s.finished env guest e b).mailbox.registrations, r.Avoids fun _ ↦ True
    rw [hmailbox]
    exact (hsetUp.foldl_deliver _).1
  | some handler =>
    obtain ⟨hregistration, hlistens⟩ := setUp_listens hs.isNumbered hquiet hhandler
    have hfinished : (s.finished env guest e b).Listens _ _ _ _ := finished_listens hlistens
    obtain ⟨others, hregistrations, hothers⟩ := hfinished.registrations
    rw [hregistration]
    intro r hr
    have hmem : r ∈ (s.finished env guest e b).mailbox.registrations ∧ r.id ≠ s.mailbox.nextId := by
      simpa [Mailbox.drop] using hr
    rw [hregistrations, List.mem_append] at hmem
    obtain ⟨hr | hr, hid⟩ := hmem
    · exact (hothers r hr).2
    · obtain rfl := List.mem_singleton.1 hr
      exact absurd rfl hid

/-! ## Answering -/

/-- An answer is made of what the guest has returned. -/
theorem exists_enter_of_perform {reply : Reply} (h : (s.perform env guest e b).1 = .ok reply) :
    ∃ ret t, s.enter env guest e b = (.ok ret, t) ∧
      e.reply env.config.sourceKey (s.finished env guest e b).arena
        ((s.setUp env e).registration.bind (s.finished env guest e b).mailbox.snapshot)
        (t.takeResult env b.release ret).1 = .ok reply := by
  rw [perform_fst] at h
  split at h
  · cases h
  · exact ⟨_, _, ‹_›, h⟩

/-- When the guest has had its last turn all pieces of the home screen have been put together. -/
theorem homeProgress_finished (hs : s.IsSound) (hquiet : s.IsQuiet) :
    Entry.homeProgress ((s.setUp env .home).registration.bind
        (s.finished env guest .home b).mailbox.snapshot) =
      ⟨Home.assembled env.config.sourceKey (HomeUpdate.readAll (s.sent env guest .home b)).1,
        (HomeUpdate.readAll (s.sent env guest .home b)).2⟩ := by
  obtain ⟨hregistration, hlistens⟩ : (s.setUp env .home).registration = _ ∧ _ :=
    setUp_listens hs.isNumbered hquiet rfl
  rw [hregistration, Option.bind_some, (finished_listens hlistens).snapshot_eq,
    Entry.homeProgress_foldl]

end Session

/-! ## Every use -/

/-- Whoever is registered from outside publishes nothing. -/
def Use.IsQuiet : Use → Prop
  | register handler => ∀ data, handler none data = none
  | _ => True

namespace Session

variable {env : Environment} {guest : Guest} {s : Session}

/-- The session is that of a source that has been loaded and used since, by those who publish
nothing themselves. -/
def IsLoadedQuietly (env : Environment) (guest : Guest) (s : Session) : Prop :=
  ∃ settings start features s₀ uses, load env guest settings start = (.ok features, s₀) ∧
    (∀ u ∈ uses, Use.IsQuiet u) ∧ s = s₀.useAll env guest uses

/-- Everything that has been published bears the name of the source, and nobody else is there who
would publish anything. -/
structure IsStamped (sourceKey : String) (s : Session) : Prop where
  /-- The numbers of the registrations are in order. -/
  isSound : s.IsSound
  /-- Whoever waits for pieces publishes nothing. -/
  isQuiet : s.IsQuiet
  /-- What has been published bears the name. -/
  sourceKey_eq : ∀ m ∈ Entry.entriesIn s.updates, m.sourceKey = sourceKey

/-- A source that has just been loaded has not published anything. -/
theorem load_isStamped {settings : Settings} {start : Script} {features : Features} {s₀ : Session}
    (h : load env guest settings start = (.ok features, s₀)) (sourceKey : String) :
    s₀.IsStamped sourceKey := by
  have hinitial : (initial guest settings).IsQuiet := List.forall_mem_nil _
  have hnews : s₀.news = _ := (congrArg news (load_snd h)).trans (call_news "start" [])
  obtain ⟨hquiet, hupdates⟩ := hinitial.foldl_deliver
    ((initial guest settings).callSent env guest "start" [] start)
  refine ⟨load_isSound h, ?_, ?_⟩
  · have hmailbox : s₀.mailbox = _ := congrArg Prod.fst hnews
    rwa [IsQuiet, hmailbox]
  · have hnone : s₀.updates = (none, none) := (congrArg Prod.snd hnews).trans hupdates
    rw [hnone]
    exact List.forall_mem_nil _

/-- **No use changes that.** -/
theorem IsStamped.use (hs : s.IsStamped env.config.sourceKey) {u : Use} (hu : u.IsQuiet) :
    (u.run env guest s).IsStamped env.config.sourceKey := by
  refine ⟨hs.isSound.use u, ?quiet, ?key⟩
  case quiet =>
    cases u with
    | ask e b => exact perform_isQuiet hs.isSound hs.isQuiet
    | store | replace | remove => exact hs.isQuiet
    | register handler =>
      refine List.forall_mem_append.2 ⟨hs.isQuiet, List.forall_mem_singleton.2 ⟨?_, ?_⟩⟩
      · exact fun x hx ↦ absurd hx (Option.not_mem_none x)
      · intro made data hmade
        obtain rfl : made = none :=
          Option.eq_none_iff_forall_not_mem.2 fun x hx ↦ hmade x hx trivial
        exact fun x hx ↦ absurd (hu data ▸ hx) (Option.not_mem_none x)
    | unregister id =>
      intro r hr
      obtain ⟨r, hmem, rfl⟩ := List.mem_map.1 hr
      have h := hs.isQuiet r hmem
      split
      · exact ⟨h.made, h.handler⟩
      · exact h
    | drop id => exact fun r hr ↦ hs.isQuiet r (List.mem_of_mem_filter hr)
  case key =>
    cases u with
    | ask e b =>
      show ∀ m ∈ Entry.entriesIn (s.perform env guest e b).2.updates, _
      rw [perform_updates hs.isSound hs.isQuiet]
      exact Entry.sourceKey_of_mem_published hs.sourceKey_eq
    | _ => exact hs.sourceKey_eq

theorem IsLoadedQuietly.isStamped (hs : s.IsLoadedQuietly env guest) :
    s.IsStamped env.config.sourceKey := by
  obtain ⟨settings, start, features, s₀, uses, hload, huses, rfl⟩ := hs
  have hloaded := load_isStamped hload env.config.sourceKey
  clear hload
  induction uses generalizing s₀ with
  | nil => exact hloaded
  | cons u uses ih =>
    rw [List.forall_mem_cons] at huses
    exact ih _ huses.2 (hloaded.use huses.1)

end Session

/-! ## Everything that leaves -/

/-- **Every entry that leaves a source bears its name.**  For every question to a source that has
been loaded and used, whatever its guest does and whatever names the entries bear that it is asked
about:

1. Every entry in the answer bears the name of the source.  The answer to a question about entries
   is what the guest has returned or put together with that name written, and is sent alike.
2. So does every entry that is published at any moment of the call and afterwards, in news about an
   entry and on a home screen alike.  At every moment what is published is what the pieces that have
   been sent come to: the entry that was asked about with the latest news, or the home screen that
   they make up, with the name written.  Nothing is published for other questions.
3. After the call it is what all of the pieces come to.
4. What is published is sent as if the name had not been written. -/
theorem entriesBearSource (env : Environment) (guest : Guest) (s : Session) (e : Entry)
    (b : Behaviour) (hs : s.IsLoadedQuietly env guest) :
    let sourceKey := env.config.sourceKey
    (∀ reply, (s.perform env guest e b).1 = .ok reply →
      (∀ m ∈ reply.mangas, m.sourceKey = sourceKey) ∧
      (e.AsksForEntries → ∃ ret t data bare, s.enter env guest e b = (.ok ret, t) ∧
        (t.takeResult env b.release ret).1 = .ok data ∧
        e.bare (s.sent env guest e b) data = some bare ∧
        reply = bare.stamped sourceKey ∧ reply.encode? = bare.encode?)) ∧
    (∀ t ∈ (s.perform env guest e b).2 :: s.moments env guest e b,
      (∀ m ∈ Entry.entriesIn t.updates, m.sourceKey = sourceKey) ∧
      ∃ pieces, pieces <+: s.sent env guest e b ∧
        t.updates = e.published sourceKey pieces s.updates) ∧
    (s.perform env guest e b).2.updates =
      e.published sourceKey (s.sent env guest e b) s.updates ∧
    ∀ (m : Manga) (h : Home), Wired.encode (m.stamped sourceKey) = Wired.encode m ∧
      Wired.encode (h.stamped sourceKey) = Wired.encode h := by
  intro sourceKey
  obtain ⟨hsound, hquiet, hkey⟩ := hs.isStamped
  have hafter : (s.perform env guest e b).2.updates =
      e.published sourceKey (s.sent env guest e b) s.updates :=
    Session.perform_updates hsound hquiet
  have hupdates : ∀ t ∈ (s.perform env guest e b).2 :: s.moments env guest e b,
      ∃ pieces, pieces <+: s.sent env guest e b ∧
        t.updates = e.published sourceKey pieces s.updates :=
    List.forall_mem_cons.2
      ⟨⟨_, List.prefix_rfl, hafter⟩, Session.moments_updates hsound hquiet⟩
  refine ⟨fun reply hreply ↦ ?answer, fun t ht ↦ ?publish, hafter,
    fun m h ↦ ⟨m.encode_stamped, h.encode_stamped⟩⟩
  case publish =>
    obtain ⟨pieces, hpieces, hpublished⟩ := hupdates t ht
    refine ⟨?_, pieces, hpieces, hpublished⟩
    rw [hpublished]
    exact Entry.sourceKey_of_mem_published hkey
  case answer =>
    obtain ⟨ret, t, henter, hreply⟩ := Session.exists_enter_of_perform hreply
    by_cases he : e.AsksForEntries
    · obtain ⟨data, bare, hdata, hbare, rfl⟩ := Entry.reply_bare he
        (fun hhome ↦ hhome ▸ Session.homeProgress_finished hsound hquiet) hreply
      exact ⟨bare.sourceKey_of_mem_mangas_stamped, fun _ ↦
        ⟨ret, t, data, bare, henter, hdata, hbare, rfl, bare.encode?_stamped⟩⟩
    · rw [Entry.mangas_reply he hreply]
      exact ⟨List.forall_mem_nil _, fun h ↦ absurd h he⟩

/-- An entry of another source that a question is about. -/
def Manga.foreign : Manga := { sourceKey := "elsewhere", key := "m", title := "M" }

/-- News about an entry that bears the name of another source are sent, and the entry is returned:
both the answer and what is published bear the name of the source that was asked. -/
theorem entriesBearSource_foreign :
    let s := (Session.load .still .complete ∅ []).2
    let e := Entry.mangaUpdate .foreign true true
    let bytes (m : Manga) := (Wired.encode m).toOption.getD []
    let b := sending [bytes { key := "m", title := "N" }] (bytes .foreign)
    s.IsLoadedQuietly .still .complete ∧
      (s.perform .still .complete e b).1 = .ok (.manga (Manga.foreign.stamped "en.here")) ∧
      (s.perform .still .complete e b).2.mangaUpdate =
        some { sourceKey := "en.here", key := "m", title := "N" } ∧
      ∀ t ∈ s.moments .still .complete e b,
        ∀ m ∈ Entry.entriesIn t.updates, m.sourceKey = "en.here" := by
  intro s e bytes b
  have hloaded : s.IsLoadedQuietly .still .complete :=
    ⟨∅, [], _, s, [], Prod.ext rfl rfl, List.forall_mem_nil _, rfl⟩
  obtain ⟨-, hmoments, hafter, -⟩ := entriesBearSource .still .complete s e b hloaded
  refine ⟨hloaded, by decide +kernel, (congrArg Prod.fst hafter).trans (by decide +kernel),
    fun t ht ↦ (hmoments t (.tail _ ht)).1⟩

end SourceHost
