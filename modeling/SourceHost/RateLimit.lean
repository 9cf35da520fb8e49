/-!
# Rate limit

At most so many requests in so much time.  Time is cut into windows: the first request after the
end of a window opens the next one, and every window admits a given number of requests.  What
comes when a window is full has to try again when it ends.

Time is counted in whole seconds.  `Window.acquire` is a single request that waits until it is
admitted; `Window.race` is several requests that start waiting at the same moment, try in turn,
and try again together whenever a window ends.
-/

set_option autoImplicit false

namespace SourceHost

/-- The units in which a period can be given. -/
inductive TimeUnit where
  | seconds
  | minutes
  | hours
deriving DecidableEq, Repr

namespace TimeUnit

/-- The unit a guest names by a number; what is no name of another one stands for seconds. -/
def ofSelector : Int → TimeUnit
  | 1 => minutes
  | 2 => hours
  | _ => seconds

/-- The seconds in a unit. -/
def length : TimeUnit → Nat
  | seconds => 1
  | minutes => 60
  | hours => 3600

/-- The seconds in an amount of units; there are none in a negative one. -/
def period (u : TimeUnit) (amount : Int) : Nat := amount.toNat * u.length

end TimeUnit

/-- The window that was opened last, and what windows are like. -/
structure Window where
  /-- How many requests a window admits. -/
  permits : Nat := 0
  /-- How long a window lasts. -/
  period : Nat := 0
  /-- When the last one was opened. -/
  start : Option Nat := none
  /-- How many requests it has admitted. -/
  issued : Nat := 0
deriving DecidableEq, Inhabited, Repr

namespace Window

/-- There is a limit. -/
def isEnabled (w : Window) : Bool := 0 < w.permits && 0 < w.period

/-- Other windows from now on; without permits or without a period there is no limit. -/
def set (w : Window) (permits : Int) (period : Nat) : Window :=
  { w with permits := permits.toNat, period }

/-- The last window has not ended at a moment. -/
def inPeriod (w : Window) (now : Nat) : Bool :=
  match w.start with
  | some start => now - start < w.period
  | none => false

/-- The window that a moment falls into, a new one if the last one has ended. -/
def current (w : Window) (now : Nat) : Window :=
  if w.inPeriod now then w else { w with start := some now, issued := 0 }

/-- The window after a request has been admitted at a moment, or else the moment when it ends. -/
def tryAdmit (w : Window) (now : Nat) : Except Nat Window :=
  if !w.isEnabled then .ok w
  else
    let w := w.current now
    if w.issued < w.permits then .ok { w with issued := w.issued + 1 }
    else .error (w.start.getD now + w.period)

/-- A request that starts waiting at a moment: when it is admitted, and the window then.  A
request that is refused is admitted when the window ends that refused it. -/
def acquire (w : Window) (now : Nat) : Nat × Window :=
  match w.tryAdmit now with
  | .ok w => (now, w)
  | .error wake => match w.tryAdmit wake with
    | .ok w => (wake, w)
    | .error _ => (wake, w)

/-- Several requests one after the other, each of which starts waiting when the one before has
been admitted. -/
def acquireEach (w : Window) (now : Nat) : (count : Nat) → List Nat × Window
  | 0 => ([], w)
  | count + 1 =>
    let (at_, w) := w.acquire now
    let (later, w) := acquireEach w at_ count
    (at_ :: later, w)

/-- What comes of a number of requests that try at a moment one after the other: how many are
admitted, the window then, and the moments at which the others try again. -/
def round (w : Window) (now : Nat) : (count : Nat) → Nat × Window × List Nat
  | 0 => (0, w, [])
  | count + 1 =>
    match w.tryAdmit now with
    | .ok w =>
      let (admitted, w, wakes) := round w now count
      (admitted + 1, w, wakes)
    | .error wake =>
      let (admitted, w, wakes) := round w now count
      (admitted, w, wake :: wakes)

/-- The moments at which requests are admitted that all try at a moment, round by round. -/
def raceFrom (w : Window) : (rounds : Nat) → (now count : Nat) → List Nat × Window
  | 0, _, _ => ([], w)
  | rounds + 1, now, count =>
    let (admitted, w, wakes) := w.round now count
    match wakes with
    | [] => (List.replicate admitted now, w)
    | wake :: _ =>
      let (later, w) := raceFrom w rounds wake wakes.length
      (List.replicate admitted now ++ later, w)

/-- The moments at which several requests are admitted that start waiting at the same moment.  In
every round but the first, which may come to a full window, one of them is admitted at least. -/
def race (w : Window) (now count : Nat) : List Nat × Window := w.raceFrom (count + 1) now count

end Window

end SourceHost
