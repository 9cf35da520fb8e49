import SourceHost.Source.Error

/-!
# Work done for a guest

A guest calls a function and waits until it returns, while what has to be done takes time and is
done elsewhere.  A `Runtime` is who does it: it may be gone, and the work may break down.
-/

set_option autoImplicit false

namespace SourceHost

/-- Whether there is somebody to do the work. -/
inductive Runtime where
  | running
  | gone
deriving DecidableEq, Repr

/-- Some work: what comes of it, if it does not break down. -/
inductive Work (α : Type) where
  | done (value : α)
  | panic
deriving DecidableEq, Repr

/-- What is said about work that broke down. -/
def Work.panicMessage : String := "task join error"

/-- What comes of having work done. -/
def Runtime.run {α : Type} : Runtime → Work α → Except HostError α
  | gone, _ => .error .runtimeGone
  | running, .done value => .ok value
  | running, .panic => .error .workerLost

end SourceHost
