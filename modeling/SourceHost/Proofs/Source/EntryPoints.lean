import Mathlib.Data.List.Basic
import SourceHost.Source.Entry

/-!
# The tables of entry points

Which entry points a guest may lack is written down three times: in the list of those that are
looked up, where features are detected, and where a call is refused.  Every question has the name
of its entry point besides.

* `Feature`, `Features.has` — the features one by one, and whether a source has one.
* `Features.supports_detect` — the three tables agree.
* `Guest.lookup_entryPoints` — what is looked up is found if it is exported.
* `Entry.feature?`, `Entry.entryPoint_of_feature?` — a question belongs to the feature that has the
  name of its entry point.
* `Entry.lookup_entryPoints`, `Entry.supports_name` — so what a guest exports under the name of a
  question decides what becomes of it.
-/

set_option autoImplicit false

namespace SourceHost

/-! ## Features one by one -/

/-- What a source may offer. -/
inductive Feature where
  | mangaList
  | home
  | filters
  | settings
  | listings
  | pageImages
  | imageRequests
  | pageDescriptions
  | alternateCovers
  | baseUrl
  | notifications
  | deepLinks
  | basicLogin
  | webLogin
  | idMigration
deriving DecidableEq, Repr

namespace Feature

/-- The entry point that a guest has when it has the feature. -/
def entryPoint : Feature → String
  | mangaList => "get_manga_list"
  | home => "get_home"
  | filters => "get_filters"
  | settings => "get_settings"
  | listings => "get_listings"
  | pageImages => "process_page_image"
  | imageRequests => "get_image_request"
  | pageDescriptions => "get_page_description"
  | alternateCovers => "get_alternate_covers"
  | baseUrl => "get_base_url"
  | notifications => "handle_notification"
  | deepLinks => "handle_deep_link"
  | basicLogin => "handle_basic_login"
  | webLogin => "handle_web_login"
  | idMigration => "handle_id_migration"

theorem mem_optionalExports_iff {name : String} :
    name ∈ optionalExports ↔ ∃ f : Feature, f.entryPoint = name := by
  constructor
  · have hnames : ∀ name ∈ optionalExports, ∃ f : Feature, f.entryPoint = name := by
      simp only [optionalExports, List.forall_mem_cons]
      exact ⟨⟨mangaList, rfl⟩, ⟨home, rfl⟩, ⟨filters, rfl⟩, ⟨settings, rfl⟩, ⟨listings, rfl⟩,
        ⟨pageImages, rfl⟩, ⟨imageRequests, rfl⟩, ⟨pageDescriptions, rfl⟩, ⟨alternateCovers, rfl⟩,
        ⟨baseUrl, rfl⟩, ⟨notifications, rfl⟩, ⟨deepLinks, rfl⟩, ⟨basicLogin, rfl⟩, ⟨webLogin, rfl⟩,
        ⟨idMigration, rfl⟩, List.forall_mem_nil _⟩
    exact hnames name
  · rintro ⟨f, rfl⟩
    cases f <;> decide

end Feature

namespace Features

/-- The source has the feature. -/
def has (fs : Features) : Feature → Bool
  | .mangaList => fs.providesListings
  | .home => fs.providesHome
  | .filters => fs.dynamicFilters
  | .settings => fs.dynamicSettings
  | .listings => fs.dynamicListings
  | .pageImages => fs.processesPages
  | .imageRequests => fs.providesImageRequests
  | .pageDescriptions => fs.providesPageDescriptions
  | .alternateCovers => fs.providesAlternateCovers
  | .baseUrl => fs.providesBaseUrl
  | .notifications => fs.handlesNotifications
  | .deepLinks => fs.handlesDeepLinks
  | .basicLogin => fs.handlesBasicLogin
  | .webLogin => fs.handlesWebLogin
  | .idMigration => fs.handlesMigration

/-- A feature is detected by its entry point. -/
theorem has_detect (hasExport : String → Bool) (f : Feature) :
    (detect hasExport).has f = hasExport f.entryPoint := by
  cases f <;> rfl

/-- An entry point of a feature may be called if the source has the feature. -/
theorem supports_entryPoint (fs : Features) (f : Feature) :
    fs.supports f.entryPoint = fs.has f := by
  cases f <;> rfl

/-- Every other entry point may be called. -/
theorem supports_of_not_mem (fs : Features) {name : String} (h : name ∉ optionalExports) :
    fs.supports name = true := by
  unfold supports
  split
  case h_16 => rfl
  -- the other names are those of entry points that may be missing
  all_goals exact absurd (by decide) h

/-- **The three tables agree.**  Those who know the features of a guest know of every entry point
that may be missing whether it is, and take every other for granted. -/
theorem supports_detect (hasExport : String → Bool) (name : String) :
    (detect hasExport).supports name =
      if name ∈ optionalExports then hasExport name else true := by
  by_cases hmem : name ∈ optionalExports
  · obtain ⟨f, rfl⟩ := Feature.mem_optionalExports_iff.1 hmem
    rw [if_pos hmem, supports_entryPoint, has_detect]
  · rw [if_neg hmem, supports_of_not_mem _ hmem]

end Features

/-! ## What is looked up -/

namespace Guest

variable (guest : Guest)

/-- What is looked up is found if it is exported, and nothing else is. -/
theorem lookup_entryPoints (name : String) : guest.entryPoints.lookup name =
    if name ∈ requiredExports ++ optionalExports then guest.function? name else none := by
  rw [entryPoints]
  induction requiredExports ++ optionalExports with
  | nil => rfl
  | cons first names ih =>
    rw [List.filterMap_cons]
    rcases eq_or_ne name first with rfl | hne
    · cases hfound : guest.function? name with
      | none =>
        rw [Option.map_none]
        refine ih.trans ?_
        rw [hfound, ite_self, ite_self]
      | some kind => simp
    · have hmem : name ∈ first :: names ↔ name ∈ names := by
        rw [List.mem_cons, or_iff_right hne]
      rw [if_congr hmem rfl rfl, ← ih]
      cases guest.function? first with
      | none => rfl
      | some kind => rw [Option.map_some, List.lookup_cons, beq_eq_false_iff_ne.2 hne]

theorem function?_eq_function_iff {name : String} :
    guest.function? name = some .function ↔ guest.exports.lookup name = some .function := by
  rw [function?]
  split <;> simp_all

/-- What a guest may be called for, as far as features are concerned. -/
theorem supports_features (name : String) : guest.features.supports name =
    if name ∈ optionalExports then guest.hasFunction name else true := by
  rw [features, Features.supports_detect]
  refine ite_congr rfl (fun hmem ↦ ?_) fun _ ↦ rfl
  rw [lookup_entryPoints, if_pos (List.mem_append_right _ hmem), hasFunction]

end Guest

/-! ## Questions -/

namespace Entry

/-- The feature that a question belongs to; three questions can be put to every source. -/
def feature? : Entry → Option Feature
  | search .. | mangaUpdate .. | pageList .. => none
  | mangaList .. => some .mangaList
  | home => some .home
  | filters => some .filters
  | settings => some .settings
  | listings => some .listings
  | processPageImage .. => some .pageImages
  | imageRequest .. => some .imageRequests
  | pageDescription .. => some .pageDescriptions
  | alternateCovers .. => some .alternateCovers
  | baseUrl => some .baseUrl
  | notification .. => some .notifications
  | deepLink .. => some .deepLinks
  | basicLogin .. => some .basicLogin
  | webLogin .. => some .webLogin
  | idMigration .. => some .idMigration

/-- The entry point of a feature is the one that is called for the questions of the feature. -/
theorem entryPoint_of_feature? {e : Entry} {f : Feature} (h : e.feature? = some f) :
    f.entryPoint = e.name := by
  cases e <;> cases h <;> rfl

/-- All other questions are asked under names that every guest has. -/
theorem name_of_feature?_eq_none {e : Entry} (h : e.feature? = none) :
    e.name ∈ requiredExports ∧ e.name ∉ optionalExports := by
  cases e with
  | search | mangaUpdate | pageList => rw [name]; decide
  | _ => cases h

/-- The questions of a feature are those whose entry point a guest may lack. -/
theorem name_mem_optionalExports {e : Entry} : e.name ∈ optionalExports ↔ e.feature?.isSome := by
  cases hfeature : e.feature? with
  | some f =>
    exact iff_of_true (Feature.mem_optionalExports_iff.2 ⟨f, entryPoint_of_feature? hfeature⟩) rfl
  | none => exact iff_of_false (name_of_feature?_eq_none hfeature).2 Bool.false_ne_true

variable (e : Entry) (guest : Guest)

/-- The entry point of a question is looked up in any case. -/
theorem lookup_entryPoints : guest.entryPoints.lookup e.name = guest.function? e.name := by
  rw [guest.lookup_entryPoints, if_pos]
  cases hfeature : e.feature? with
  | some f =>
    refine List.mem_append_right _ (name_mem_optionalExports.2 ?_)
    rw [hfeature, Option.isSome_some]
  | none => exact List.mem_append_left _ (name_of_feature?_eq_none hfeature).1

/-- A guest with the function for a question may be called. -/
theorem supports_name : guest.features.supports e.name =
    if e.feature?.isSome then guest.hasFunction e.name else true := by
  rw [guest.supports_features]
  simp only [name_mem_optionalExports]

end Entry

end SourceHost
