import SourceHost.Source.Entry

/-!
# Loading a source

Before a guest runs for the first time it is checked: whether it is one, whether everything it
wants is there, whether it asks for too much, and whether it has what every guest has.  The first
check that fails is the one that is reported.  Then its start is run.
-/

set_option autoImplicit false

namespace SourceHost

namespace Guest

/-- The sizes a guest declares make sense. -/
def isValid (g : Guest) : Bool :=
  g.table.fits (capacity 32 - 1) && g.memory.all (·.fits Memory.pageLimit)

/-- Everything the guest wants is there, or may be missing. -/
def checkImports (g : Guest) (env : Environment) : Except HostError Unit :=
  match env.config.unknownImports with
  | .trap => .ok ()
  | .reject => match g.imports.find? fun i ↦ !env.provides i.name with
    | some i => .error (.link i.name .unknownImport)
    | none => .ok ()

/-- The guest can be started: it means the same functions as the host, and does not begin with
more than it may have. -/
def checkStart (g : Guest) (env : Environment) : Except HostError Unit :=
  let fits := g.imports.all fun i ↦ i.wellTyped || !env.provides i.name
  let small := g.memory.all fun m ↦ m.initial * Memory.pageSize ≤ env.config.maxMemory
  if fits ∧ small ∧ g.table.initial ≤ env.config.maxTableElements then .ok () else .error .trapped

/-- The guest has what every guest has. -/
def checkExports (g : Guest) : Except HostError Unit :=
  if g.memory.isNone then .error (.link "memory" .noMemory)
  else match requiredExports.find? fun name ↦ !g.hasFunction name with
    | some name => .error (.link name .missingExport)
    | none =>
      if g.exports.lookup "free_result" = some .function then .ok ()
      else .error (.link "free_result" .wrongSignature)

/-- All checks in order. -/
def check (g : Guest) (env : Environment) : Except HostError Unit := do
  if !g.isValid then .error .trapped
  g.checkImports env
  g.checkStart env
  g.checkExports

end Guest

namespace Session

/-- A guest is loaded: its features, or why it could not be loaded, and the session after its
start. -/
def load (env : Environment) (guest : Guest) (settings : Settings) (start : Script) :
    Except HostError Features × Session :=
  let s := initial guest settings
  match guest.check env with
  | .error e => (.error e, s)
  | .ok () => match s.call env guest "start" [] start with
    | (.error e, s) => (.error e, s)
    | (.ok _, s) => (.ok guest.features, s)

end Session

end SourceHost
