/-!
# Configuration

What is decided about a source before it is loaded.
-/

set_option autoImplicit false

namespace SourceHost

/-- What to do about functions that a guest wants and nobody provides. -/
inductive UnknownImports where
  /-- Refuse the guest. -/
  | reject
  /-- Have it break down when it calls one. -/
  | trap
deriving DecidableEq, Repr

/-- What is decided about a source. -/
structure SourceConfig where
  /-- The name of the source: its settings stand under it, and its entries bear it. -/
  sourceKey : String
  /-- How many bytes of memory the guest may have. -/
  maxMemory : Nat := 64 * 1024 * 1024
  /-- How many elements a table of the guest may have. -/
  maxTableElements : Nat := 10000
  /-- How many bytes the body of a response may have. -/
  maxResponseBytes : Nat := 16 * 1024 * 1024
  /-- What to do about unknown imports. -/
  unknownImports : UnknownImports := .reject
  /-- How many milliseconds a call may take; without a number it may take any time. -/
  callTimeout : Option Nat := none
  /-- How many microseconds lie between two looks at the clock. -/
  epochTick : Nat := 10000
deriving DecidableEq, Repr

/-- The configuration with a time between two looks at the clock, no less than a millisecond. -/
def SourceConfig.withEpochTick (c : SourceConfig) (microseconds : Nat) : SourceConfig :=
  { c with epochTick := max microseconds 1000 }

end SourceHost
