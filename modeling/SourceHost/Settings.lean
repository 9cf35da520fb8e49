import SourceHost.Wire.Wired

/-!
# Settings

What sources want to remember between calls.  All sources share one store, and each one's settings
stand under keys that begin with the key of the source.
-/

set_option autoImplicit false

namespace SourceHost

/-- A setting. -/
inductive Setting where
  | data (data : Bytes)
  | bool (value : Bool)
  | int (value : Signed 32)
  | float (value : Single)
  | text (value : String)
  | texts (values : List String)
deriving DecidableEq

/-- The store: settings under their keys. -/
abbrev Settings := Std.ExtTreeMap String Setting

namespace Settings

/-- The setting under a key. -/
def get (s : Settings) (key : String) : Option Setting := s[key]?

/-- The store with a setting under a key, or without one. -/
def set (s : Settings) (key : String) : Option Setting → Settings
  | some value => s.insert key value
  | none => s.erase key

/-- The key in the store of a key of a source. -/
def fullKey (sourceKey key : String) : String := sourceKey ++ "." ++ key

end Settings

/-- The kinds in which a guest gives a setting. -/
inductive SettingKind where
  | data
  | bool
  | int
  | float
  | text
  | texts
  | absent
deriving DecidableEq, Repr

namespace SettingKind

/-- The kind a guest names by a number. -/
def ofSelector : Int → Option SettingKind
  | 0 => some data
  | 1 => some bool
  | 2 => some int
  | 3 => some float
  | 4 => some text
  | 5 => some texts
  | 6 => some absent
  | _ => none

/-- The setting that bytes are in a kind, or that there is none. -/
def decode : SettingKind → Bytes → Except WireError (Option Setting)
  | data, b => .ok (some (.data b))
  | bool, b => (Wired.decode b).map (some ∘ .bool)
  | int, b => (Wired.decode b).map (some ∘ .int)
  | float, b => (Wired.decode b).map (some ∘ .float)
  | text, b => (Wired.decode b).map (some ∘ .text)
  | texts, b => (Wired.decode b).map (some ∘ .texts)
  | absent, _ => .ok none

end SettingKind

/-- The bytes a guest is given for a setting. -/
def Setting.encode : Setting → Except WireError Bytes
  | data b => .ok b
  | bool v => Wired.encode v
  | int v => Wired.encode v
  | float v => Wired.encode v
  | text v => Wired.encode v
  | texts v => Wired.encode v

end SourceHost
