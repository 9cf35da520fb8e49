import SourceHost.Wire.Wired

/-!
# Filters

A search may be narrowed by values that the reader of a catalog has set for the filters a source
offers.  Each kind of filter has a value of its own kind, and every value names its filter.
-/

set_option autoImplicit false

namespace SourceHost

/-- What has been set for one filter. -/
inductive FilterValue where
  /-- A text to search in some field. -/
  | text (id value : String)
  /-- The field to sort by, and in which direction. -/
  | sort (id : String) (index : Signed 32) (ascending : Bool)
  /-- The state of a check box. -/
  | check (id : String) (value : Signed 64)
  /-- One of several options. -/
  | select (id value : String)
  /-- Options that have to be met and options that must not be. -/
  | multiSelect (id : String) (included excluded : List String)
deriving DecidableEq

namespace FilterValue

/-- The filter a value belongs to. -/
def id : FilterValue → String
  | text id _ => id
  | sort id _ _ => id
  | check id _ => id
  | select id _ => id
  | multiSelect id _ _ => id

end FilterValue

instance : Wired FilterValue where
  shape := .oneOf [
    .record [.text, .text],
    .record [.text, .signed .w32, .bool],
    .record [.text, .signed .w64],
    .record [.text, .text],
    .record [.text, .seq .text, .seq .text]]
  toWire
    | .text id value => ⟨0, (id, value)⟩
    | .sort id index ascending => ⟨1, (id, index, ascending)⟩
    | .check id value => ⟨2, (id, value)⟩
    | .select id value => ⟨3, (id, value)⟩
    | .multiSelect id included excluded => ⟨4, (id, included, excluded)⟩
  ofWire
    | ⟨0, id, value⟩ => .text id value
    | ⟨1, id, index, ascending⟩ => .sort id index ascending
    | ⟨2, id, value⟩ => .check id value
    | ⟨3, id, value⟩ => .select id value
    | ⟨4, id, included, excluded⟩ => .multiSelect id included excluded

/-- A filter to offer, with the values it is to be set to when chosen. -/
structure FilterItem where
  /-- The name it is shown under. -/
  title : String
  /-- The values it sets. -/
  values : Option (List FilterValue) := none
deriving DecidableEq

instance : Wired FilterItem where
  shape := .record [.text, Wired.shape (Option (List FilterValue))]
  toWire f := (f.title, Wired.toWire f.values)
  ofWire | (title, values) => ⟨title, Wired.ofWire values⟩

end SourceHost
