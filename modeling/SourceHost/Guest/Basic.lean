import SourceHost.Memory.Basic
import SourceHost.Source.Features

/-!
# Guests

What a guest brings along, as far as the host can see it before the guest runs: its entry points,
the functions it wants, and how much memory it starts with.
-/

set_option autoImplicit false

namespace SourceHost

/-- What a guest exports under a name. -/
inductive ExportKind where
  /-- A function that takes what it should take. -/
  | function
  /-- A function that takes something else. -/
  | otherFunction
  /-- No function at all. -/
  | noFunction
deriving DecidableEq, Repr

/-- A function that a guest wants from the host. -/
structure Import where
  /-- Its name. -/
  name : String
  /-- The guest wants it to take what the function of the host takes. -/
  wellTyped : Bool := true
deriving DecidableEq, Repr

/-- How much of something there is at first, and at most. -/
structure Extent where
  /-- How much there is at first. -/
  initial : Nat
  /-- How much there can be. -/
  maximum : Option Nat := none
deriving DecidableEq, Repr

/-- It begins no larger than it can be, and neither is larger than there is room for. -/
def Extent.fits (e : Extent) (room : Nat) : Bool :=
  e.initial ≤ room && e.maximum.all fun most ↦ e.initial ≤ most && most ≤ room

/-- What a guest brings along. -/
structure Guest where
  /-- What it exports. -/
  exports : List (String × ExportKind)
  /-- What it wants, in the order in which it says so. -/
  imports : List Import := []
  /-- Its memory, in pages, if it shares one. -/
  memory : Option Extent := some ⟨1, none⟩
  /-- Its table, in elements. -/
  table : Extent := ⟨0, none⟩
deriving DecidableEq, Repr

namespace Guest

/-- The function that is exported under a name, if it is one. -/
def function? (g : Guest) (name : String) : Option ExportKind :=
  match g.exports.lookup name with
  | some .noFunction => none
  | found => found

/-- A function is exported under a name. -/
def hasFunction (g : Guest) (name : String) : Bool := (g.function? name).isSome

/-- The entry points that are looked up when the guest is loaded, with the functions that are
found. -/
def entryPoints (g : Guest) : List (String × ExportKind) :=
  (requiredExports ++ optionalExports).filterMap fun name ↦ (g.function? name).map (name, ·)

/-- The features of the guest, as they are detected when it is loaded. -/
def features (g : Guest) : Features :=
  .detect fun name ↦ (g.entryPoints.lookup name).isSome

/-- The memory the guest starts with. -/
def initialMemory (g : Guest) : Memory := Memory.ofPages ((g.memory.map (·.initial)).getD 0)

end Guest

end SourceHost
