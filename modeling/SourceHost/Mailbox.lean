/-!
# Mailbox

While a call is running a guest can send what it has so far.  Whoever wants to see it registers a
handler; every delivery goes to all handlers that are registered, in the order in which they were.
A handler is a function that is given what it made of the deliveries before (nothing, at first)
and the new one, and makes something of both.  A delivery tells of every run of a handler.

A registration is held by whoever asked for it.  While it is held what the handler has made can be
looked at, also after the handler has been unregistered; it ends when its holder finishes it or
drops it.  No two registrations ever have the same number.
-/

set_option autoImplicit false

namespace SourceHost

variable {β σ : Type}

/-- A registration that is held. -/
structure Registration (β σ : Type) where
  /-- Its number. -/
  id : Nat
  /-- The handler. -/
  handler : Option σ → β → Option σ
  /-- What the handler has made so far. -/
  made : Option σ
  /-- The handler still gets deliveries. -/
  live : Bool

/-- The registrations, with the oldest first. -/
structure Mailbox (β σ : Type) where
  /-- The registrations that are held. -/
  registrations : List (Registration β σ) := []
  /-- The number of the next one. -/
  nextId : Nat := 0

/-- One run of a handler. -/
structure Mailbox.Run (σ : Type) where
  /-- The number of its registration. -/
  id : Nat
  /-- What it had made before. -/
  before : Option σ
  /-- What it has made now. -/
  made : Option σ
deriving DecidableEq

/-- The handler is run on a delivery. -/
def Registration.run (r : Registration β σ) (data : β) : Mailbox.Run σ :=
  ⟨r.id, r.made, r.handler r.made data⟩

/-- The registration after a delivery. -/
def Registration.deliver (r : Registration β σ) (data : β) : Registration β σ :=
  if r.live then { r with made := (r.run data).made } else r

namespace Mailbox

/-- A handler more, and the number of its registration. -/
def register (m : Mailbox β σ) (handler : Option σ → β → Option σ) : Nat × Mailbox β σ :=
  (m.nextId,
    { registrations := m.registrations ++ [⟨m.nextId, handler, none, true⟩]
      nextId := m.nextId + 1 })

/-- The handlers that are registered are run on a delivery, one after the other: their runs, and
the mailbox after them. -/
def deliver (m : Mailbox β σ) (data : β) : List (Run σ) × Mailbox β σ :=
  let (runs, registrations) := m.registrations.foldl (fun (runs, done) r ↦
    (if r.live then runs ++ [r.run data] else runs, done ++ [r.deliver data])) ([], [])
  (runs, { m with registrations })

/-- What a delivery comes to. -/
theorem deliver_eq (m : Mailbox β σ) (data : β) : m.deliver data =
    ((m.registrations.filter (·.live)).map (·.run data),
      { m with registrations := m.registrations.map (·.deliver data) }) := by
  have hloop (rs done : List (Registration β σ)) (runs : List (Run σ)) :
      rs.foldl (fun (runs, done) r ↦
          (if r.live then runs ++ [r.run data] else runs, done ++ [r.deliver data])) (runs, done) =
        (runs ++ (rs.filter (·.live)).map (·.run data), done ++ rs.map (·.deliver data)) := by
    induction rs generalizing runs done with
    | nil => simp
    | cons r rs ih =>
      rw [List.foldl_cons, ih]
      cases hlive : r.live <;> simp [hlive]
  rw [deliver, hloop]
  rfl

/-- The registration with a number, if it is held. -/
def find? (m : Mailbox β σ) (id : Nat) : Option (Registration β σ) :=
  m.registrations.find? (·.id = id)

/-- The numbers of the handlers that get deliveries, in the order in which they get them. -/
def live (m : Mailbox β σ) : List Nat := (m.registrations.filter (·.live)).map (·.id)

/-- How many handlers get deliveries. -/
def length (m : Mailbox β σ) : Nat := m.registrations.countP (·.live)

/-- No handler gets deliveries. -/
def isEmpty (m : Mailbox β σ) : Bool := m.length == 0

/-- A handler is unregistered: whether it had been registered, and the mailbox afterwards. -/
def unregister (m : Mailbox β σ) (id : Nat) : Bool × Mailbox β σ :=
  (m.registrations.any fun r ↦ r.id = id && r.live,
    { m with registrations :=
        m.registrations.map fun r ↦ if r.id = id then { r with live := false } else r })

/-- What a handler has made so far. -/
def snapshot (m : Mailbox β σ) (id : Nat) : Option σ := (m.find? id).bind (·.made)

/-- The mailbox after the end of a registration. -/
def drop (m : Mailbox β σ) (id : Nat) : Mailbox β σ :=
  { m with registrations := m.registrations.filter (·.id ≠ id) }

/-- A registration ends: what its handler has made, and the mailbox afterwards. -/
def finish (m : Mailbox β σ) (id : Nat) : Option σ × Mailbox β σ := (m.snapshot id, m.drop id)

end Mailbox

end SourceHost
