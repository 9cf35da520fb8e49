import Std.Data.ExtTreeMap
import SourceHost.Arena.Resource
import SourceHost.Wire.Wired

/-!
# The arena

A guest refers to what the host keeps for it by numbers, and the arena is the table behind them.
Handles count upwards from one, skip what is in use, and after the largest start over.  When the
last resource is gone counting starts over as well, so that a guest that gives back what it was
given sees small numbers only.

* `Arena.store` puts a resource under a handle that was free.
* `Arena.replace` puts one under a given handle, whatever was there.
* `Arena.remove` takes it away.
-/

set_option autoImplicit false

namespace SourceHost

/-- The numbers resources are known by. -/
abbrev Handle := Int

/-- The largest handle. -/
def Handle.largest : Handle := 2147483647

/-- The number that stands for no resource. -/
def Handle.absent : Handle := -1

/-- Why a handle does not lead to what was looked for. -/
inductive ArenaError where
  /-- There is nothing under it. -/
  | missing (handle : Handle)
  /-- There is something else under it. -/
  | wrongKind (handle : Handle) (expected found : ResourceKind)
deriving DecidableEq, Repr

/-- The wording of each reason. -/
def ArenaError.message : ArenaError → String
  | missing h => s!"no resource stored under handle {h}"
  | wrongKind h expected found => s!"handle {h} holds {found.name}, expected {expected.name}"

/-- The table of the resources that are kept. -/
structure Arena where
  /-- The resources under their handles. -/
  entries : Std.ExtTreeMap Handle Resource := ∅
  /-- Where the search for a free handle starts. -/
  next : Handle := 1
deriving DecidableEq, Inhabited

namespace Arena

/-- The handle after `h`. -/
def after (h : Handle) : Handle := if h < Handle.largest then h + 1 else 1

/-- The first handle from `h` on that is free, when at most `room` are in use. -/
def freeFrom (entries : Std.ExtTreeMap Handle Resource) : (room : Nat) → Handle → Handle
  | 0, h => h
  | room + 1, h => if h ∈ entries then freeFrom entries room (after h) else h

/-- The handle that the next resource will get. -/
def free (a : Arena) : Handle := freeFrom a.entries a.entries.size a.next

/-- How many resources are kept. -/
def size (a : Arena) : Nat := a.entries.size

/-- Nothing is kept. -/
def isEmpty (a : Arena) : Bool := a.entries.isEmpty

/-- The resource under a handle. -/
def fetch (a : Arena) (h : Handle) : Option Resource := a.entries[h]?

/-- The handle under which a resource is now kept, and the arena that keeps it. -/
def store (a : Arena) (r : Resource) : Handle × Arena :=
  (a.free, { entries := a.entries.insert a.free r, next := after a.free })

/-- The arena with a resource under a given handle. -/
def replace (a : Arena) (h : Handle) (r : Resource) : Arena :=
  { a with entries := a.entries.insert h r }

/-- The arena with nothing under a handle. -/
def remove (a : Arena) (h : Handle) : Arena :=
  let entries := a.entries.erase h
  { entries, next := if entries.isEmpty then 1 else a.next }

/-- The wire form of a value kept as bytes. -/
def storeEncoded {α : Type} [Wired α] (a : Arena) (v : α) : Except WireError (Handle × Arena) := do
  let bytes ← Wired.encode v
  return a.store (.bytes bytes)

/-- What is under a handle, if `look` makes out something of the expected kind. -/
def lookup {α : Type} (a : Arena) (expected : ResourceKind) (look : Resource → Option α)
    (h : Handle) : Except ArenaError α :=
  match a.fetch h with
  | none => .error (.missing h)
  | some r => match look r with
    | some v => .ok v
    | none => .error (.wrongKind h expected r.kind)

/-- The bytes under a handle; a text has bytes as well. -/
def bytes (a : Arena) (h : Handle) : Except ArenaError Bytes := a.lookup .bytes Resource.bytes? h

/-- The request under a handle. -/
def request (a : Arena) (h : Handle) : Except ArenaError Request :=
  a.lookup .request Resource.request? h

/-- The document under a handle. -/
def document (a : Arena) (h : Handle) : Except ArenaError Document :=
  a.lookup .document Resource.document? h

/-- The picture under a handle. -/
def image (a : Arena) (h : Handle) : Except ArenaError Image := a.lookup .image Resource.image? h

/-- The resources with their handles, in ascending order. -/
def toList (a : Arena) : List (Handle × Resource) := a.entries.toList

/-- The arena after several removals. -/
def removeAll (a : Arena) (handles : List Handle) : Arena := handles.foldl remove a

end Arena

end SourceHost
