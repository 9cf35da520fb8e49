/-!
# Entry points and features

A guest has some entry points in any case and may have others.  Each of the others is a feature of
the source, known as soon as the guest has been loaded.  There are three tables of them: the names
that are looked up, what is detected from them, and what may be called.
-/

set_option autoImplicit false

namespace SourceHost

/-- The entry points every guest has, in the order in which they are looked for. -/
def requiredExports : List String :=
  ["start", "free_result", "get_search_manga_list", "get_manga_update", "get_page_list"]

/-- The entry points that are not in every guest. -/
def optionalExports : List String :=
  ["get_manga_list", "get_home", "get_filters", "get_settings", "get_listings",
    "process_page_image", "get_image_request", "get_page_description", "get_alternate_covers",
    "get_base_url", "handle_notification", "handle_deep_link", "handle_basic_login",
    "handle_web_login", "handle_id_migration"]

/-- What a source offers besides what every source does. -/
structure Features where
  /-- It lists entries. -/
  providesListings : Bool := false
  /-- It has a home screen. -/
  providesHome : Bool := false
  /-- It tells by what can be filtered. -/
  dynamicFilters : Bool := false
  /-- It tells what can be set. -/
  dynamicSettings : Bool := false
  /-- It tells what lists there are. -/
  dynamicListings : Bool := false
  /-- It changes the pictures of pages. -/
  processesPages : Bool := false
  /-- It says how to ask for a picture. -/
  providesImageRequests : Bool := false
  /-- It describes pages. -/
  providesPageDescriptions : Bool := false
  /-- It has other covers. -/
  providesAlternateCovers : Bool := false
  /-- It tells its address. -/
  providesBaseUrl : Bool := false
  /-- It wants to be notified. -/
  handlesNotifications : Bool := false
  /-- It follows links. -/
  handlesDeepLinks : Bool := false
  /-- It takes a name and a password. -/
  handlesBasicLogin : Bool := false
  /-- It takes the cookies of a login. -/
  handlesWebLogin : Bool := false
  /-- It knows what has a new number. -/
  handlesMigration : Bool := false
deriving DecidableEq, Repr

namespace Features

/-- The features of a guest with the given entry points. -/
def detect (hasExport : String → Bool) : Features where
  providesListings := hasExport "get_manga_list"
  providesHome := hasExport "get_home"
  dynamicFilters := hasExport "get_filters"
  dynamicSettings := hasExport "get_settings"
  dynamicListings := hasExport "get_listings"
  processesPages := hasExport "process_page_image"
  providesImageRequests := hasExport "get_image_request"
  providesPageDescriptions := hasExport "get_page_description"
  providesAlternateCovers := hasExport "get_alternate_covers"
  providesBaseUrl := hasExport "get_base_url"
  handlesNotifications := hasExport "handle_notification"
  handlesDeepLinks := hasExport "handle_deep_link"
  handlesBasicLogin := hasExport "handle_basic_login"
  handlesWebLogin := hasExport "handle_web_login"
  handlesMigration := hasExport "handle_id_migration"

/-- An entry point may be called: it is not that of a feature the source does not have. -/
def supports (fs : Features) (name : String) : Bool :=
  match name with
  | "get_manga_list" => fs.providesListings
  | "get_home" => fs.providesHome
  | "get_filters" => fs.dynamicFilters
  | "get_settings" => fs.dynamicSettings
  | "get_listings" => fs.dynamicListings
  | "process_page_image" => fs.processesPages
  | "get_image_request" => fs.providesImageRequests
  | "get_page_description" => fs.providesPageDescriptions
  | "get_alternate_covers" => fs.providesAlternateCovers
  | "get_base_url" => fs.providesBaseUrl
  | "handle_notification" => fs.handlesNotifications
  | "handle_deep_link" => fs.handlesDeepLinks
  | "handle_basic_login" => fs.handlesBasicLogin
  | "handle_web_login" => fs.handlesWebLogin
  | "handle_id_migration" => fs.handlesMigration
  | _ => true

/-- The names of the features that the source has, in order. -/
def flags (fs : Features) : List String :=
  let named :=
    [("provides_listings", fs.providesListings),
      ("provides_home", fs.providesHome),
      ("dynamic_filters", fs.dynamicFilters),
      ("dynamic_settings", fs.dynamicSettings),
      ("dynamic_listings", fs.dynamicListings),
      ("processes_pages", fs.processesPages),
      ("provides_image_requests", fs.providesImageRequests),
      ("provides_page_descriptions", fs.providesPageDescriptions),
      ("provides_alternate_covers", fs.providesAlternateCovers),
      ("provides_base_url", fs.providesBaseUrl),
      ("handles_notifications", fs.handlesNotifications),
      ("handles_deep_links", fs.handlesDeepLinks),
      ("handles_basic_login", fs.handlesBasicLogin),
      ("handles_web_login", fs.handlesWebLogin),
      ("handles_migration", fs.handlesMigration)]
  (named.filter (·.2)).map (·.1)

end Features

end SourceHost
