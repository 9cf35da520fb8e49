import SourceHost.Catalog.Classification

/-!
# Listings

A source may offer named lists of its entries, such as "Popular" or "Recently added".
-/

set_option autoImplicit false

namespace SourceHost

/-- A named list of entries. -/
structure Listing where
  /-- The name the source knows it by. -/
  id : String
  /-- The name it is shown under. -/
  name : String
  /-- How it wants to be shown. -/
  kind : ListingKind := .default
deriving DecidableEq, Inhabited, Repr

instance : Wired Listing where
  shape := .record [.text, .text, Wired.shape ListingKind]
  toWire l := (l.id, l.name, Wired.toWire l.kind)
  ofWire | (id, name, kind) => ⟨id, name, Wired.ofWire kind⟩

end SourceHost
