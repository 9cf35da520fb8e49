import SourceHost.Wire.Error

/-!
# Why a call fails

One constructor for each cause.  Some causes have a wording of their own; others are only known by
their kind, since what could be said about them depends on the machine that runs the guest.
-/

set_option autoImplicit false

namespace SourceHost

/-- Why a guest and the host do not fit together. -/
inductive LinkReason where
  /-- The guest lacks an entry point that every guest has. -/
  | missingExport
  /-- The guest wants a function that nobody provides. -/
  | unknownImport
  /-- The guest has no memory to share. -/
  | noMemory
  /-- An entry point does not take what it should take. -/
  | wrongSignature
deriving DecidableEq, Repr

/-- The wording of a reason, if it has one. -/
def LinkReason.message? : LinkReason → Option String
  | missingExport => some "missing required export"
  | unknownImport => some "no capability provides this import"
  | noMemory => some "guest exports no linear memory"
  | wrongSignature => none

/-- Why a call fails. -/
inductive HostError where
  /-- The guest has no such entry point, or says so. -/
  | unimplemented
  /-- The guest says that it could not reach the web. -/
  | transport
  /-- The guest has no result. -/
  | missingResult
  /-- The guest says why in its own words. -/
  | message (text : String)
  /-- What the guest has made cannot be read. -/
  | decode (cause : WireError)
  /-- What the guest is to be given cannot be written. -/
  | encode (cause : WireError)
  /-- The guest and the host do not fit together. -/
  | link (name : String) (reason : LinkReason)
  /-- There is no memory at the place. -/
  | outOfBounds (offset length size : Nat)
  /-- The guest broke down, or could not be started. -/
  | trapped
  /-- The guest took too long. -/
  | timedOut (milliseconds : Nat)
  /-- Work done for the guest broke down. -/
  | workerLost
  /-- There is nobody to do work for the guest. -/
  | runtimeGone
deriving DecidableEq, Repr

namespace HostError

/-- What a guest means by a negative result. -/
def ofSentinel (code : Int) : HostError :=
  if code = -2 then unimplemented else if code = -3 then transport else missingResult

/-- The wording of a failure, if it has one. -/
def message? : HostError → Option String
  | unimplemented => some "unimplemented"
  | transport => some "network error"
  | missingResult => some "missing result"
  | message text => some text
  | decode cause => some s!"decode error: {cause.message}"
  | encode cause => some s!"encode error: {cause.message}"
  | link name reason => reason.message?.map fun r ↦ s!"link error: {name}: {r}"
  | outOfBounds offset length size =>
    some s!"memory access out of bounds: offset {offset}, length {length}, memory size {size}"
  | trapped => none
  | timedOut milliseconds => some s!"call timed out after {milliseconds}ms"
  | workerLost => none
  | runtimeGone => some "async runtime unavailable"

end HostError

end SourceHost
