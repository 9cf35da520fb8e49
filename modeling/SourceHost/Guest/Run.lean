import SourceHost.Functions.Table
import SourceHost.Guest.Script

/-!
# Running a guest

A script runs step by step until it returns, breaks down, or turns out to go on for ever.  A
script that comes to its end without returning anything returns minus one.
-/

set_option autoImplicit false

namespace SourceHost

/-- How a call of a guest ends. -/
inductive Ending where
  /-- It returns a number. -/
  | returned (value : Int)
  /-- It breaks down. -/
  | trapped
  /-- It does not end by itself. -/
  | endless
deriving DecidableEq, Repr

/-- What comes of a step: the results so far if the script goes on, or its end. -/
inductive Progress where
  | next (results : List Int)
  | stop (ending : Ending)
deriving DecidableEq, Repr

/-- A number as an address or a size: the one with the same low bits that is not negative. -/
def address (i : Int) : Nat := (i % capacity 32).toNat

namespace Session

/-- The guest puts bytes into its own memory. -/
def poke (s : Session) (at_ : Int) (data : Bytes) : Option Session :=
  match s.memory.write (address at_) data with
  | .ok memory => some { s with memory }
  | .error _ => none

/-- The guest asks for more pages of memory: how many it had, or minus one if it does not get
them. -/
def growMemory (env : Environment) (s : Session) (pages : Nat) : Int × Session :=
  let before := s.memory.size / Memory.pageSize
  let size := (before + pages) * Memory.pageSize
  if before + pages ≤ s.maxPages ∧ before + pages ≤ Memory.pageLimit ∧ size ≤ env.config.maxMemory
  then (before, { s with memory := { s.memory with size } })
  else (-1, s)

/-- The guest asks for more elements in its table: how many it had, or minus one if it does not
get them. -/
def growTable (env : Environment) (s : Session) (elements : Nat) : Int × Session :=
  let table := s.table + elements
  if s.maxElements.all (table ≤ ·) ∧ table ≤ env.config.maxTableElements then
    (s.table, { s with table })
  else (-1, s)

end Session

/-- A step of a guest that has been called with some parameters and has got some results. -/
def Step.run (env : Environment) (parameters results : List Int) (s : Session) :
    Step → Progress × Session
  | .write at_ data => match s.poke (at_.value parameters results) data with
    | some s => (.next results, s)
    | none => (.stop .trapped, s)
  | .writeIntegers at_ values =>
    let data := values.flatMap fun v ↦ Memory.integerBytes (v.value parameters results)
    match s.poke (at_.value parameters results) data with
    | some s => (.next results, s)
    | none => (.stop .trapped, s)
  | .read at_ length =>
    match s.memory.read (address (at_.value parameters results))
        (address (length.value parameters results)) with
    | .ok data => (.next results, s.log (.read data))
    | .error _ => (.stop .trapped, s)
  | .call name arguments =>
    match env.callFunction name (arguments.map (·.value parameters results)) s with
    | (none, s) => (.stop .trapped, s)
    | (some value, s) =>
      let results := match value with
        | .word w => results ++ [w]
        | _ => results
      (.next results, s.log (.called name value))
  | .showResource h =>
    (.next results, s.log (.resource (s.arena.fetch (h.value parameters results))))
  | .showArena => (.next results, s.log (.arena s.arena.toList))
  | .showUpdates => (.next results, s.log (.updates s.mangaUpdate s.homeUpdate))
  | .growMemory pages =>
    let (before, s) := s.growMemory env (address (pages.value parameters results))
    (.next results, s.log (.memoryGrew before))
  | .growTable elements =>
    let (before, s) := s.growTable env (address (elements.value parameters results))
    (.next results, s.log (.tableGrew before))
  | .trap => (.stop .trapped, s)
  | .spin => (.stop .endless, s)
  | .ret value => (.stop (.returned (value.value parameters results)), s)

/-- A script is run from its first step on: how it ends, and the session then. -/
def Script.run (env : Environment) (parameters : List Int) : Script → (results : List Int) →
    Session → Ending × Session
  | [], _, s => (.returned (-1), s)
  | step :: rest, results, s =>
    match step.run env parameters results s with
    | (.next results, s) => Script.run env parameters rest results s
    | (.stop ending, s) => (ending, s)

/-- What a call that ended in some way returned, or why it returned nothing.  A call that does not
end by itself is ended when its time is up. -/
def Ending.result (env : Environment) : Ending → Except HostError Int
  | returned value => .ok value
  | trapped => .error .trapped
  | endless => match env.config.callTimeout with
    | some milliseconds => .error (.timedOut milliseconds)
    | none => .error .trapped

end SourceHost
