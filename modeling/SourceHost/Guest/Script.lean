import SourceHost.Bytes

/-!
# Scripts

What a guest does in one call, seen from the host: it changes its own memory, calls functions of
the host, and comes to an end.  What it makes of the results in between is its own business, except
that it can hand a result or one of its parameters on.
-/

set_option autoImplicit false

namespace SourceHost

/-- A number a guest uses. -/
inductive Operand where
  /-- A number of its own. -/
  | literal (value : Int)
  /-- A parameter of the call. -/
  | parameter (index : Nat)
  /-- The result of a function it has called, among those that are whole numbers. -/
  | result (index : Nat)
deriving DecidableEq, Repr

/-- The number itself; what there is not is zero. -/
def Operand.value (parameters results : List Int) : Operand → Int
  | literal value => value
  | parameter index => parameters.getD index 0
  | result index => results.getD index 0

/-- Something a guest does. -/
inductive Step where
  /-- Put bytes into its memory. -/
  | write (address : Operand) (data : Bytes)
  /-- Put numbers into its memory, each in four bytes. -/
  | writeIntegers (address : Operand) (values : List Operand)
  /-- Show a part of its memory. -/
  | read (address length : Operand)
  /-- Call a function of the host. -/
  | call (name : String) (arguments : List Operand)
  /-- Show the resource under a handle. -/
  | showResource (handle : Operand)
  /-- Show all resources. -/
  | showArena
  /-- Show what has been published of the call so far. -/
  | showUpdates
  /-- Ask for more pages of memory. -/
  | growMemory (pages : Operand)
  /-- Ask for more elements in its table. -/
  | growTable (elements : Operand)
  /-- Break down. -/
  | trap
  /-- Go on for ever. -/
  | spin
  /-- Return a number. -/
  | ret (value : Operand)
deriving DecidableEq, Repr

/-- What a guest does in one call, step by step. -/
abbrev Script := List Step

/-- The functions of the host that a script calls, in the order in which it calls them. -/
def Script.called (script : Script) : List String :=
  script.filterMap fun
    | .call name _ => some name
    | _ => none

/-- What a guest does in a call: the work, and what it does to take a result back. -/
structure Behaviour where
  /-- The work. -/
  work : Script := []
  /-- What it does when a result is given back; the parameter is where the result stands. -/
  release : Script := []
deriving DecidableEq, Repr

end SourceHost
