import Mathlib.Data.List.Basic
import Mathlib.Data.List.Induction
import Mathlib.Data.List.TakeWhile
import SourceHost.Mailbox

/-!
# A mailbox is a number of independent folds

Registrations come and go while pieces are delivered, and all of them are kept in one list.  What a
handler has made may depend on none of the others: it is the fold of the handler over the pieces
delivered since it was registered and before it was taken away.  The holder can look at it as long
as the registration is held, also when the handler gets nothing any more.

* `Op`, `run`, `answer` — what can be done with a mailbox, the mailbox after it has been done, and
  what is answered.
* `account` — a registration as its own history has it: the handler and what has been done since.
* `registrations_run` — a mailbox is the list of these accounts, so nothing else is in it.
* `mem_runs_deliver` — a delivery is one run of every handler that is registered.
* `independentFolds` — what this says of every answer that is ever given.
-/

set_option autoImplicit false

namespace SourceHost

/-- What is done to what a handler has made when a piece comes in. -/
abbrev Handler (β σ : Type) := Option σ → β → Option σ

variable {β σ : Type}

/-- A registration after a handler has been unregistered, which may be its own. -/
def Registration.unregister (id : Nat) (r : Registration β σ) : Registration β σ :=
  if r.id = id then { r with live := false } else r

@[simp] theorem Registration.id_deliver (r : Registration β σ) (data : β) :
    (r.deliver data).id = r.id := by
  rw [deliver]
  split <;> rfl

@[simp] theorem Registration.id_unregister (id : Nat) (r : Registration β σ) :
    (r.unregister id).id = r.id := by
  rw [unregister]
  split <;> rfl

@[simp] theorem Registration.made_unregister (id : Nat) (r : Registration β σ) :
    (r.unregister id).made = r.made := by
  rw [unregister]
  split <;> rfl

@[simp] theorem Registration.live_unregister (id : Nat) (r : Registration β σ) :
    (r.unregister id).live = (decide (r.id ≠ id) && r.live) := by
  rw [unregister]
  split <;> simp [*]

namespace Mailbox

theorem unregister_eq (m : Mailbox β σ) (id : Nat) : (m.unregister id).2 =
    { m with registrations := m.registrations.map (·.unregister id) } := rfl

/-! ## What can be done with a mailbox -/

/-- Something that is done with a mailbox. -/
inductive Op (β σ : Type) where
  /-- A handler is registered. -/
  | register (handler : Handler β σ)
  /-- A piece is delivered. -/
  | deliver (data : β)
  /-- A handler is unregistered. -/
  | unregister (id : Nat)
  /-- The holder looks at what a handler has made. -/
  | snapshot (id : Nat)
  /-- The holder takes what a handler has made, and the registration ends. -/
  | finish (id : Nat)
  /-- A registration ends. -/
  | drop (id : Nat)

namespace Op

/-- What is answered. -/
inductive Outcome (σ : Type) where
  /-- The number of a registration. -/
  | number (id : Nat)
  /-- The runs of handlers, in their order. -/
  | runs (runs : List (Run σ))
  /-- Whether a handler had been registered. -/
  | registered (was : Bool)
  /-- What a handler has made. -/
  | made (made : Option σ)
  /-- Nothing. -/
  | nothing

/-- It is done: what is answered, and the mailbox afterwards. -/
def perform (m : Mailbox β σ) : Op β σ → Outcome σ × Mailbox β σ
  | register handler => let (id, m) := m.register handler; (.number id, m)
  | deliver data => let (runs, m) := m.deliver data; (.runs runs, m)
  | unregister id => let (was, m) := m.unregister id; (.registered was, m)
  | snapshot id => (.made (m.snapshot id), m)
  | finish id => let (made, m) := m.finish id; (.made made, m)
  | drop id => (.nothing, m.drop id)

/-- The handler that is registered. -/
def handler? : Op β σ → Option (Handler β σ)
  | register handler => some handler
  | _ => none

/-- The piece that is delivered. -/
def data? : Op β σ → Option β
  | deliver data => some data
  | _ => none

/-- The holder of a registration gives it up. -/
def ends (id : Nat) : Op β σ → Bool
  | finish i | drop i => id = i
  | _ => false

/-- A handler is taken away. -/
def removes (id : Nat) : Op β σ → Bool
  | unregister i | finish i | drop i => id = i
  | _ => false

/-- What becomes of one registration. -/
def apply (r : Registration β σ) : Op β σ → Option (Registration β σ)
  | deliver data => some (r.deliver data)
  | unregister id => some (r.unregister id)
  | finish id | drop id => if r.id = id then none else some r
  | _ => some r

end Op

/-- The mailbox after several things have been done in turn. -/
def run (m : Mailbox β σ) (ops : List (Op β σ)) : Mailbox β σ :=
  ops.foldl (fun m op ↦ (op.perform m).2) m

theorem run_append_singleton (m : Mailbox β σ) (ops : List (Op β σ)) (op : Op β σ) :
    m.run (ops ++ [op]) = (op.perform (m.run ops)).2 := List.foldl_append

/-- What is answered to one thing more, after several things have been done with a new mailbox. -/
def answer (ops : List (Op β σ)) (op : Op β σ) : Op.Outcome σ := (op.perform (run {} ops)).1

/-- Everything that is done is done to each registration by itself, and a new one comes last. -/
theorem registrations_perform (m : Mailbox β σ) (op : Op β σ) :
    (op.perform m).2.registrations = m.registrations.filterMap op.apply ++
      (op.handler?.map fun handler ↦ ⟨m.nextId, handler, none, true⟩).toList := by
  cases op with
  | register handler => simp [Op.perform, Op.apply, Op.handler?, register]
  | deliver data => simp [Op.perform, Op.apply, Op.handler?, deliver_eq]
  | unregister id => simp [Op.perform, Op.apply, Op.handler?, unregister_eq]
  | snapshot id => simp [Op.perform, Op.apply, Op.handler?]
  | finish id | drop id =>
    have hguard : (fun r : Registration β σ ↦ if r.id = id then none else some r) =
        Option.guard fun r ↦ decide (r.id ≠ id) := by
      funext r
      by_cases hr : r.id = id <;> simp [Option.guard, hr]
    simp [Op.perform, Op.apply, Op.handler?, finish, drop, hguard, List.filterMap_eq_filter]

/-! ## The history of a registration -/

/-- How many handlers have been registered. -/
def registered (ops : List (Op β σ)) : Nat := (ops.filterMap Op.handler?).length

/-- The handlers that have been registered, each with what has been done since. -/
def opened : List (Op β σ) → List (Handler β σ × List (Op β σ))
  | [] => []
  | op :: ops => (op.handler?.map fun handler ↦ (handler, ops)).toList ++ opened ops

/-- The handler with a number, and what has been done since it was registered. -/
def since (id : Nat) (ops : List (Op β σ)) : Option (Handler β σ × List (Op β σ)) :=
  (opened ops)[id]?

/-- The pieces that come to a handler: those before it is taken away. -/
def received (id : Nat) (after : List (Op β σ)) : List β :=
  (after.takeWhile fun op ↦ !op.removes id).filterMap Op.data?

/-- The registration that is held of a handler when something has been done since. -/
def account (id : Nat) (handler : Handler β σ) (after : List (Op β σ)) :
    Option (Registration β σ) :=
  if after.any (Op.ends id) then none
  else some ⟨id, handler, (received id after).foldl handler none, !after.any (Op.removes id)⟩

theorem length_opened (ops : List (Op β σ)) : (opened ops).length = registered ops := by
  induction ops with
  | nil => rfl
  | cons op ops ih =>
    rw [opened, List.length_append, ih, registered, registered, List.filterMap_cons]
    cases op.handler? <;> simp [Nat.add_comm]

theorem opened_append_singleton (ops : List (Op β σ)) (op : Op β σ) :
    opened (ops ++ [op]) = (opened ops).map (fun x ↦ (x.1, x.2 ++ [op])) ++
      (op.handler?.map fun handler ↦ (handler, [])).toList := by
  induction ops with
  | nil => simp [opened]
  | cons first ops ih => cases first <;> simp [opened, Op.handler?, ih]

/-- What has been done since is what comes after. -/
theorem since_append (before after : List (Op β σ)) (handler : Handler β σ) :
    since (registered before) (before ++ .register handler :: after) = some (handler, after) := by
  rw [since, ← length_opened]
  induction before with
  | nil => rfl
  | cons op before ih => cases op <;> simp [opened, Op.handler?, ih]

theorem since_append_singleton (id : Nat) (ops : List (Op β σ)) (op : Op β σ) :
    since id (ops ++ [op]) = if id < registered ops
      then (since id ops).map fun x ↦ (x.1, x.2 ++ [op])
      else if id = registered ops then op.handler?.map fun handler ↦ (handler, []) else none := by
  rw [since, since, opened_append_singleton, List.getElem?_append, List.length_map, length_opened]
  split
  · rw [List.getElem?_map]
  · rename_i hlt
    by_cases hid : id = registered ops
    · cases op.handler? <;> simp [hid]
    · have hsub : id - registered ops ≠ 0 := by lia
      cases op.handler? <;> simp [hid, hsub]

/-- A piece more comes to a handler unless it has been taken away. -/
theorem received_append_singleton (id : Nat) (after : List (Op β σ)) (op : Op β σ) :
    received id (after ++ [op]) =
      received id after ++ if after.any (Op.removes id) then [] else op.data?.toList := by
  rw [received, received, List.takeWhile_append]
  by_cases hremoved : after.any (Op.removes id)
  · have hshort : (after.takeWhile fun op ↦ !op.removes id).length ≠ after.length := by
      intro hlength
      obtain ⟨x, hx, hremoves⟩ := List.any_eq_true.1 hremoved
      rw [← List.IsPrefix.eq_of_length (List.takeWhile_prefix _) hlength] at hx
      simpa [hremoves] using List.mem_takeWhile_imp hx
    rw [if_neg hshort, if_pos hremoved, List.append_nil]
  · have hall : (after.takeWhile fun op ↦ !op.removes id) = after := by
      rw [List.takeWhile_eq_self_iff]
      intro x hx
      simpa using fun h ↦ hremoved (List.any_eq_true.2 ⟨x, hx, h⟩)
    rw [if_neg hremoved, hall, if_pos rfl, List.filterMap_append]
    cases op <;> simp [List.takeWhile_cons, Op.removes, Op.data?]

/-- One thing more is done to a registration. -/
theorem account_append_singleton (id : Nat) (handler : Handler β σ) (after : List (Op β σ))
    (op : Op β σ) : account id handler (after ++ [op]) =
      (account id handler after).bind op.apply := by
  have hends : (after ++ [op]).any (Op.ends id) = (after.any (Op.ends id) || op.ends id) := by simp
  have hremoves : (after ++ [op]).any (Op.removes id) =
      (after.any (Op.removes id) || op.removes id) := by simp
  rw [account, account, hends, hremoves, received_append_singleton]
  -- of what has been done before only this matters: is it held, and does it get pieces
  generalize after.any (Op.ends id) = ended
  generalize after.any (Op.removes id) = removed
  cases ended with
  | true => simp
  | false =>
    cases op with
    | register | snapshot => simp [Op.ends, Op.removes, Op.apply, Op.data?]
    | deliver data =>
      cases removed <;>
        simp [Op.ends, Op.removes, Op.apply, Op.data?, Registration.deliver, Registration.run]
    | unregister i =>
      by_cases hi : id = i <;>
        simp [hi, Op.ends, Op.removes, Op.apply, Op.data?, Registration.unregister]
    | finish i | drop i =>
      by_cases hi : id = i <;> simp [hi, Op.ends, Op.removes, Op.apply, Op.data?]

/-! ## A mailbox is the list of its accounts -/

/-- The registration that is held under a number, as its own history has it. -/
def accountOf (ops : List (Op β σ)) (id : Nat) : Option (Registration β σ) :=
  (since id ops).bind fun x ↦ account id x.1 x.2

theorem accountOf_append_singleton (ops : List (Op β σ)) (op : Op β σ) (id : Nat) :
    accountOf (ops ++ [op]) id = if id < registered ops then (accountOf ops id).bind op.apply
      else if id = registered ops then op.handler?.map fun handler ↦ ⟨id, handler, none, true⟩
      else none := by
  rw [accountOf, accountOf, since_append_singleton]
  split
  · cases since id ops with
    | none => rfl
    | some x => exact account_append_singleton id x.1 x.2 op
  · split
    · cases op.handler? <;> rfl
    · rfl

theorem id_of_accountOf {ops : List (Op β σ)} {id : Nat} {r : Registration β σ}
    (h : accountOf ops id = some r) : r.id = id := by
  obtain ⟨x, -, hx⟩ := Option.bind_eq_some_iff.1 h
  rw [account] at hx
  split at hx
  · cases hx
  · cases hx
    rfl

theorem registered_append_singleton (ops : List (Op β σ)) (op : Op β σ) :
    registered (ops ++ [op]) = registered ops + op.handler?.toList.length := by
  rw [registered, registered, List.filterMap_append, List.length_append]
  cases h : op.handler? <;> simp [h]

/-- The numbers are given out in order. -/
theorem nextId_run (ops : List (Op β σ)) : (run {} ops).nextId = registered ops := by
  induction ops using List.reverseRecOn with
  | nil => rfl
  | append_singleton ops op ih =>
    rw [run_append_singleton, registered_append_singleton, ← ih]
    cases op <;> rfl

/-- **A mailbox is the list of the accounts of its registrations.** -/
theorem registrations_run (ops : List (Op β σ)) :
    (run {} ops).registrations = (List.range (registered ops)).filterMap (accountOf ops) := by
  -- a history grows at its end: what is done last is done to all accounts there are
  induction ops using List.reverseRecOn with
  | nil => rfl
  | append_singleton ops op ih =>
    have hbefore : (List.range (registered ops)).filterMap (accountOf (ops ++ [op])) =
        (run {} ops).registrations.filterMap op.apply := by
      rw [ih, List.filterMap_filterMap]
      refine List.filterMap_congr fun id hid ↦ ?_
      rw [accountOf_append_singleton, if_pos (List.mem_range.1 hid)]
    have hnew : accountOf (ops ++ [op]) (registered ops) =
        op.handler?.map fun handler ↦ ⟨registered ops, handler, none, true⟩ := by
      rw [accountOf_append_singleton, if_neg (Nat.lt_irrefl _), if_pos rfl]
    rw [run_append_singleton, registrations_perform, nextId_run, registered_append_singleton]
    cases hhandler : op.handler? with
    | none => simpa using hbefore.symm
    | some handler =>
      rw [hhandler] at hnew
      simp [List.range_succ, List.filterMap_append, hbefore, hnew]

theorem lt_registered_of_accountOf {ops : List (Op β σ)} {id : Nat} {r : Registration β σ}
    (h : accountOf ops id = some r) : id < registered ops := by
  obtain ⟨x, hx, -⟩ := Option.bind_eq_some_iff.1 h
  rw [← length_opened]
  exact (List.getElem?_eq_some_iff.1 hx).1

theorem mem_registrations_run {ops : List (Op β σ)} {r : Registration β σ} :
    r ∈ (run {} ops).registrations ↔ accountOf ops r.id = some r := by
  rw [registrations_run, List.mem_filterMap]
  constructor
  · rintro ⟨id, -, hr⟩
    rwa [id_of_accountOf hr]
  · exact fun hr ↦ ⟨r.id, List.mem_range.2 (lt_registered_of_accountOf hr), hr⟩

/-- What stands under a number is its account. -/
theorem find?_run (ops : List (Op β σ)) (id : Nat) : (run {} ops).find? id = accountOf ops id := by
  rcases hfound : (run {} ops).find? id with _ | r
  · rcases haccount : accountOf ops id with _ | r
    · rfl
    · have hid : r.id = id := id_of_accountOf haccount
      have hmem : r ∈ (run {} ops).registrations := mem_registrations_run.2 (hid ▸ haccount)
      rw [find?, List.find?_eq_none] at hfound
      exact absurd (decide_eq_true hid) (hfound r hmem)
  · rw [find?] at hfound
    have hid : r.id = id := by simpa using List.find?_some hfound
    rw [← hid, mem_registrations_run.1 (List.mem_of_find?_eq_some hfound)]

/-- Unregistering a handler answers whether it gets deliveries. -/
theorem unregister_run (ops : List (Op β σ)) (id : Nat) :
    ((run {} ops).unregister id).1 = (accountOf ops id).any (·.live) := by
  rw [unregister, Bool.eq_iff_iff, List.any_eq_true, Option.any_eq_true]
  simp only [mem_registrations_run, Bool.and_eq_true, decide_eq_true_eq]
  constructor
  · rintro ⟨r, hr, rfl, hlive⟩
    exact ⟨r, hr, hlive⟩
  · rintro ⟨r, hr, hlive⟩
    obtain rfl := id_of_accountOf hr
    exact ⟨r, hr, rfl, hlive⟩

/-! ## Who is left -/

theorem mem_live_iff {m : Mailbox β σ} {id : Nat} : id ∈ m.live ↔ (m.unregister id).1 = true := by
  simp only [live, unregister, List.mem_map, List.mem_filter, List.any_eq_true, Bool.and_eq_true,
    decide_eq_true_eq]
  constructor
  · rintro ⟨r, ⟨hr, hlive⟩, hid⟩
    exact ⟨r, hr, hid, hlive⟩
  · rintro ⟨r, hr, hid, hlive⟩
    exact ⟨r, ⟨hr, hlive⟩, hid⟩

/-- The handlers that are left stand in the order in which they were registered. -/
theorem live_run (ops : List (Op β σ)) : (run {} ops).live =
    (List.range (registered ops)).filter fun id ↦ ((run {} ops).unregister id).1 := by
  rw [live, registrations_run, List.filter_filterMap, List.map_filterMap,
    ← List.filterMap_eq_filter]
  refine List.filterMap_congr fun id _ ↦ ?_
  rw [Option.guard, unregister_run]
  cases haccount : accountOf ops id with
  | none => rfl
  | some r =>
    cases hlive : r.live <;> simp [hlive, id_of_accountOf haccount]

theorem pairwise_live_run (ops : List (Op β σ)) : (run {} ops).live.Pairwise (· < ·) := by
  rw [live_run]
  exact List.pairwise_lt_range.filter _

theorem length_eq (m : Mailbox β σ) : m.length = m.live.length := by
  rw [length, live, List.length_map, List.countP_eq_length_filter]

theorem isEmpty_iff {m : Mailbox β σ} : m.isEmpty = true ↔ m.live = [] := by
  rw [isEmpty, beq_iff_eq, length_eq, List.length_eq_zero_iff]

theorem live_unregister (m : Mailbox β σ) (id : Nat) :
    (m.unregister id).2.live = m.live.filter (· ≠ id) := by
  simp only [live, unregister_eq, List.filter_map, List.map_map, List.filter_filter,
    Function.comp_def, Registration.live_unregister, Registration.id_unregister]

theorem live_drop (m : Mailbox β σ) (id : Nat) : (m.drop id).live = m.live.filter (· ≠ id) := by
  simp only [live, drop, List.filter_map, List.filter_filter, Function.comp_def, Bool.and_comm]

/-- Who takes a handler away takes no other one away. -/
theorem live_perform_of_removes {id : Nat} {op : Op β σ} (h : op.removes id) (m : Mailbox β σ) :
    (op.perform m).2.live = m.live.filter (· ≠ id) := by
  cases op with
  | register | deliver | snapshot => cases h
  | unregister i =>
    obtain rfl : id = i := by simpa [Op.removes] using h
    exact live_unregister m id
  | finish i | drop i =>
    obtain rfl : id = i := by simpa [Op.removes] using h
    exact live_drop m id

/-! ## What handlers have made -/

/-- What an unregistered handler has made can still be looked at, as what any other has made. -/
theorem snapshot_unregister (m : Mailbox β σ) (id other : Nat) :
    (m.unregister id).2.snapshot other = m.snapshot other := by
  simp only [snapshot, find?, unregister_eq, List.find?_map, Function.comp_def, Option.bind_map,
    Registration.id_unregister, Registration.made_unregister]

theorem snapshot_drop (m : Mailbox β σ) {id other : Nat} (h : other ≠ id) :
    (m.drop id).snapshot other = m.snapshot other := by
  rw [snapshot, snapshot, find?, find?, drop, List.find?_filter]
  congr 2
  funext r
  by_cases hr : r.id = other <;> simp [hr, h]

/-- What a handler has made is as it was when another one is taken away. -/
theorem snapshot_perform_of_removes {id other : Nat} {op : Op β σ} (h : op.removes id)
    (hother : other ≠ id) (m : Mailbox β σ) :
    (op.perform m).2.snapshot other = m.snapshot other := by
  cases op with
  | register | deliver | snapshot => cases h
  | unregister i => exact snapshot_unregister m i other
  | finish i | drop i =>
    obtain rfl : id = i := by simpa [Op.removes] using h
    exact snapshot_drop m hother

/-! ## Deliveries -/

/-- The numbers of the handlers that are run are those that are registered, in order. -/
theorem map_id_runs (m : Mailbox β σ) (data : β) :
    (m.deliver data).1.map (·.id) = m.live := by
  rw [deliver_eq, List.map_map]
  rfl

/-- A run of a handler is that of a registration by its own history: it is given what it has made
of the pieces before. -/
theorem mem_runs_deliver {ops : List (Op β σ)} {data : β} {r : Run σ}
    (h : r ∈ ((run {} ops).deliver data).1) :
    ∃ handler after, since r.id ops = some (handler, after) ∧
      r.before = (received r.id after).foldl handler none ∧
      r.made = handler r.before data ∧
      (run {} ops).snapshot r.id = r.before ∧
      (run {} (ops ++ [.deliver data])).snapshot r.id = r.made := by
  rw [deliver_eq] at h
  obtain ⟨held, hmem, rfl⟩ := List.mem_map.1 h
  obtain ⟨hmem, hlive⟩ := List.mem_filter.1 hmem
  have haccount : accountOf ops held.id = some held := mem_registrations_run.1 hmem
  obtain ⟨⟨handler, after⟩, hsince, hheld⟩ := Option.bind_eq_some_iff.1 haccount
  have hnext : accountOf (ops ++ [.deliver data]) held.id = some (held.deliver data) := by
    rw [accountOf_append_singleton, if_pos (lt_registered_of_accountOf haccount), haccount]
    rfl
  have hmade : held.made = (received held.id after).foldl handler none ∧
      held.handler = handler := by
    rw [account] at hheld
    split at hheld
    · cases hheld
    · have heq := (Option.some_inj.1 hheld).symm
      exact ⟨congrArg Registration.made heq, congrArg Registration.handler heq⟩
  refine ⟨handler, after, hsince, hmade.1, congrFun (congrFun hmade.2 _) _, ?_, ?_⟩
  · rw [snapshot, find?_run]
    exact congrArg (·.bind (·.made)) haccount
  · rw [snapshot, find?_run]
    refine (congrArg (·.bind (·.made)) hnext).trans ?_
    rw [Option.bind_some, Registration.deliver, if_pos hlive]

/-! ## Independent folds -/

theorem registered_append_register (before after : List (Op β σ)) (handler : Handler β σ) :
    registered (before ++ .register handler :: after) =
      registered before + registered after + 1 := by
  simp [registered, Op.handler?, Nat.add_assoc]

theorem accountOf_append_register (before after : List (Op β σ)) (handler : Handler β σ) :
    accountOf (before ++ .register handler :: after) (registered before) =
      account (registered before) handler after := by
  rw [accountOf, since_append, Option.bind_some]

/-- Whoever gives a registration up takes the handler away. -/
theorem Op.removes_of_ends {id : Nat} {op : Op β σ} (h : op.ends id) : op.removes id := by
  cases op <;> first | exact h | cases h

/-- The number of a new registration is the number of handlers there were before. -/
theorem answer_register (ops : List (Op β σ)) (handler : Handler β σ) :
    answer ops (.register handler) = .number (registered ops) :=
  congrArg Op.Outcome.number (nextId_run ops)

/-- What has been made can be read in two ways, and both read the fold. -/
theorem snapshot_run {before after : List (Op β σ)} {handler : Handler β σ}
    (h : ¬after.any (Op.ends (registered before))) :
    (run {} (before ++ .register handler :: after)).snapshot (registered before) =
      (received (registered before) after).foldl handler none := by
  rw [snapshot, find?_run, accountOf_append_register, account, if_neg h, Option.bind_some]

theorem unregister_run_register (before after : List (Op β σ)) (handler : Handler β σ) :
    ((run {} (before ++ .register handler :: after)).unregister (registered before)).1 =
      !after.any (Op.removes (registered before)) := by
  rw [unregister_run, accountOf_append_register, account]
  split
  · rename_i hended
    obtain ⟨op, hop, hends⟩ := List.any_eq_true.1 hended
    rw [List.any_eq_true.2 ⟨op, hop, Op.removes_of_ends hends⟩]
    rfl
  · rfl

/-- **A mailbox is a number of independent folds.**  Whatever has been done with a mailbox, this is
what is answered next:

1. A handler is given the number of handlers there were before, and every later one a greater
   number.  As long as its registration is held, who looks at what it has made and who takes it
   both get the fold of the handler over the pieces that came before it was taken away.  Who
   unregisters it is told that it had been registered, unless it has been taken away.  None of this
   depends on any other registration.
2. Nothing is registered under a number that has not been given.
3. Those who are registered stand in the order in which they came, each once, and so many are
   counted.
4. A delivery is one run of each of them in this order.  The handler of a run is given what it has
   made so far, which is the fold over the pieces before, and what it makes can be looked at
   afterwards.
5. Whoever takes a handler away takes no other one away, and what the others have made can be
   looked at as before; if it has been unregistered only, so can what it has made itself. -/
theorem independentFolds (ops : List (Op β σ)) :
    (∀ before handler after, ops = before ++ .register handler :: after →
      answer before (.register handler) = .number (registered before) ∧
      (∀ next, ∃ later, answer ops (.register next) = .number later ∧
        registered before < later) ∧
      (¬after.any (Op.ends (registered before)) →
        answer ops (.snapshot (registered before)) =
          .made ((received (registered before) after).foldl handler none) ∧
        answer ops (.finish (registered before)) =
          .made ((received (registered before) after).foldl handler none)) ∧
      answer ops (.unregister (registered before)) =
        .registered !after.any (Op.removes (registered before))) ∧
    (∀ id, registered ops ≤ id → answer ops (.unregister id) = .registered false) ∧
    ((run {} ops).live.Pairwise (· < ·) ∧
      (∀ id, id ∈ (run {} ops).live ↔ answer ops (.unregister id) = .registered true) ∧
      (run {} ops).length = (run {} ops).live.length ∧
      ((run {} ops).isEmpty = true ↔ (run {} ops).live = [])) ∧
    (∀ data, ∃ runs, answer ops (.deliver data) = .runs runs ∧
      runs.map (·.id) = (run {} ops).live ∧
      ∀ r ∈ runs, ∃ handler after, since r.id ops = some (handler, after) ∧
        r.before = (received r.id after).foldl handler none ∧
        r.made = handler r.before data ∧
        answer ops (.snapshot r.id) = .made r.before ∧
        answer (ops ++ [.deliver data]) (.snapshot r.id) = .made r.made) ∧
    ∀ id (op : Op β σ), op.removes id →
      (run {} (ops ++ [op])).live = (run {} ops).live.filter (· ≠ id) ∧
      ∀ other, (other ≠ id ∨ op = .unregister id) →
        answer (ops ++ [op]) (.snapshot other) = answer ops (.snapshot other) := by
  refine ⟨?registration, fun id hid ↦ ?unknown,
    ⟨pairwise_live_run ops, fun id ↦ ?mem, length_eq _, isEmpty_iff⟩, fun data ↦ ?delivery,
    fun id op hremoves ↦ ⟨?left, fun other hother ↦ ?others⟩⟩
  case registration =>
    rintro before handler after rfl
    have hnumber := registered_append_register before after handler
    refine ⟨answer_register before handler, fun next ↦ ⟨_, answer_register _ next, by lia⟩,
      fun hheld ↦ ?_, congrArg Op.Outcome.registered (unregister_run_register before after handler)⟩
    have hmade := congrArg Op.Outcome.made (@snapshot_run β σ before after handler hheld)
    exact ⟨hmade, hmade⟩
  case unknown =>
    refine congrArg Op.Outcome.registered ((unregister_run ops id).trans ?_)
    cases haccount : accountOf ops id with
    | none => rfl
    | some r => exact absurd (lt_registered_of_accountOf haccount) (Nat.not_lt.2 hid)
  case mem => exact mem_live_iff.trans ⟨congrArg Op.Outcome.registered, Op.Outcome.registered.inj⟩
  case delivery =>
    refine ⟨_, rfl, map_id_runs _ data, fun r hrun ↦ ?_⟩
    obtain ⟨handler, after, hsince, hbefore, hmade, hold, hnew⟩ := mem_runs_deliver hrun
    exact ⟨handler, after, hsince, hbefore, hmade, congrArg Op.Outcome.made hold,
      congrArg Op.Outcome.made hnew⟩
  case left => rw [run_append_singleton, live_perform_of_removes hremoves]
  case others =>
    refine congrArg Op.Outcome.made ?_
    rw [run_append_singleton]
    rcases hother with hne | rfl
    · exact snapshot_perform_of_removes hremoves hne _
    · exact snapshot_unregister _ id other

/-- What has been made can be looked at after the handler has been unregistered, and the pieces that
come then do not change it; the other handler still gets them. -/
theorem independentFolds_unregistered :
    let keep : Handler Nat (List Nat) := fun made piece ↦ some (made.getD [] ++ [piece])
    let ops : List (Op Nat (List Nat)) := [.register keep, .deliver 5, .register keep, .deliver 6,
      .unregister 0, .deliver 7, .finish 3]
    answer ops (.snapshot 0) = .made (some [5, 6]) ∧ answer ops (.finish 1) = .made (some [6, 7]) ∧
      answer ops (.unregister 0) = .registered false ∧
      answer (ops ++ [.drop 1]) (.snapshot 0) = .made (some [5, 6]) := by
  intro keep ops
  have hfirst := (independentFolds ops).1 [] keep _ rfl
  have hsecond := (independentFolds ops).1 [.register keep, .deliver 5] keep _ rfl
  have hzero : answer ops (.snapshot 0) = .made (some [5, 6]) := (hfirst.2.2.1 (by decide)).1
  have hone : answer ops (.finish 1) = .made (some [6, 7]) := (hsecond.2.2.1 (by decide)).2
  have hother := ((independentFolds ops).2.2.2.2 1 (.drop 1) rfl).2 0 (.inl (by decide))
  exact ⟨hzero, hone, hfirst.2.2.2, hother.trans hzero⟩

end Mailbox

end SourceHost
