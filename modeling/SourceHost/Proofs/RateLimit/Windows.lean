import Mathlib.Algebra.Order.Floor.Div
import Mathlib.Data.List.Basic
import SourceHost.RateLimit

/-!
# What a rate limit keeps

Requests come when they come, and the limit may be changed between any two of them, in the middle of
a window as well.  This file says what holds all the same.

* `Outcome`, `outcome_tryAdmit` — what can come of an attempt.
* `Move`, `run`, `moments` — what can be done with a limit, and when something happens meanwhile.
* `LastWindow`, `exists_lastWindow` — the count of the last window is that of the requests admitted
  since it was opened.
* `length_admissions_le`, `pairwise_openings` — under one limit there are only so many requests for
  each window, and windows are a period apart.
* `limitKept` — so there are only so many requests in any stretch of time.

Nothing here depends on what the unit of time is.
-/

set_option autoImplicit false

namespace SourceHost.Window

variable {w w' : Window} {t : Nat}

/-! ## Attempts -/

/-- What can come of an attempt at a moment. -/
inductive Outcome (w : Window) (t : Nat) : Except Nat Window → Prop
  /-- Without a limit the request is admitted and not counted. -/
  | unlimited (h : w.isEnabled = false) : Outcome w t (.ok w)
  /-- The last window has ended, if there has been one, and the request opens another. -/
  | opened (h : w.isEnabled = true) (hended : w.inPeriod t = false) :
      Outcome w t (.ok { w with start := some t, issued := 1 })
  /-- The request is one more in the last window. -/
  | counted {s : Nat} (h : w.isEnabled = true) (hs : w.start = some s) (hin : t - s < w.period)
      (hroom : w.issued < w.permits) : Outcome w t (.ok { w with issued := w.issued + 1 })
  /-- The last window is full, and the request is to come back when it ends. -/
  | refused {s : Nat} (h : w.isEnabled = true) (hs : w.start = some s) (hin : t - s < w.period)
      (hfull : w.permits ≤ w.issued) : Outcome w t (.error (s + w.period))

theorem isEnabled_iff : w.isEnabled = true ↔ 0 < w.permits ∧ 0 < w.period := by
  simp [isEnabled]

theorem inPeriod_iff : w.inPeriod t = true ↔ ∃ s, w.start = some s ∧ t - s < w.period := by
  rw [inPeriod]
  cases w.start <;> simp

theorem outcome_tryAdmit (w : Window) (t : Nat) : Outcome w t (w.tryAdmit t) := by
  rw [tryAdmit]
  cases h : w.isEnabled with
  | false => exact .unlimited h
  | true =>
    have hpermits := (isEnabled_iff.1 h).1
    cases hin : w.inPeriod t with
    | false =>
      simp only [Bool.not_true, Bool.false_eq_true, if_false, current, hin, hpermits, if_true]
      exact .opened h hin
    | true =>
      obtain ⟨s, hs, hlt⟩ := inPeriod_iff.1 hin
      simp only [Bool.not_true, Bool.false_eq_true, if_false, current, hin, if_true, hs,
        Option.getD_some]
      split
      · rename_i hroom
        have hcounted := Outcome.counted h hs hlt hroom
        rwa [hs] at hcounted
      · rename_i hfull
        exact .refused h hs hlt (Nat.le_of_not_lt hfull)

/-! ## Runs -/

/-- Something that is done with a limit. -/
inductive Move where
  /-- It is changed. -/
  | set (permits : Int) (period : Nat)
  /-- A request tries to be admitted. -/
  | attempt
deriving DecidableEq

namespace Move

/-- The window when it has been done at a moment.  A request that is refused leaves it alone. -/
def run (w : Window) (now : Nat) : Move → Window
  | set permits period => w.set permits period
  | attempt => match w.tryAdmit now with
    | .ok w => w
    | .error _ => w

/-- A request is admitted under a limit. -/
def admits (w : Window) (now : Nat) : Move → Bool
  | set .. => false
  | attempt => w.isEnabled && (w.tryAdmit now).isOk

/-- A window is opened. -/
def opens (w : Window) (now : Nat) : Move → Bool
  | set .. => false
  | attempt => w.isEnabled && !w.inPeriod now

/-- The limit stays what it is. -/
def Keeps (w : Window) : Move → Prop
  | set permits period => permits.toNat = w.permits ∧ period = w.period
  | attempt => True

end Move

/-- The window when several things have been done, each at a moment. -/
def run (w : Window) (moves : List (Nat × Move)) : Window :=
  moves.foldl (fun w m ↦ m.2.run w m.1) w

/-- The moments of a run at which something happens. -/
def moments (happens : Window → Nat → Move → Bool) (w : Window) : List (Nat × Move) → List Nat
  | [] => []
  | (now, move) :: later =>
    (if happens w now move then [now] else []) ++ moments happens (move.run w now) later

/-- The moments at which requests are admitted under a limit. -/
def admissions : Window → List (Nat × Move) → List Nat := moments Move.admits

/-- The moments at which windows are opened. -/
def openings : Window → List (Nat × Move) → List Nat := moments Move.opens

/-- What something comes to that is done at a moment: the window then, whether a request is admitted
under a limit, and whether a window is opened. -/
inductive Effect (w : Window) (t : Nat) : Move → Window → Bool → Bool → Prop
  /-- The limit is changed. -/
  | changed (permits : Int) (period : Nat) :
      Effect w t (.set permits period) (w.set permits period) false false
  /-- A request is refused, or admitted without a limit. -/
  | idle : Effect w t .attempt w false false
  /-- A request opens a window. -/
  | opened (h : w.isEnabled = true) (hended : w.inPeriod t = false) :
      Effect w t .attempt { w with start := some t, issued := 1 } true true
  /-- A request is one more in the last window. -/
  | counted (h : w.isEnabled = true) (hin : w.inPeriod t = true) (hroom : w.issued < w.permits) :
      Effect w t .attempt { w with issued := w.issued + 1 } true false

theorem Move.effect (move : Move) (w : Window) (t : Nat) :
    Effect w t move (move.run w t) (move.admits w t) (move.opens w t) := by
  cases move with
  | set permits period => exact .changed permits period
  | attempt =>
    have houtcome := outcome_tryAdmit w t
    rw [run, admits, opens]
    generalize w.tryAdmit t = outcome at houtcome
    cases houtcome with
    | unlimited h =>
      rw [h]
      exact .idle
    | opened h hended =>
      rw [h, hended]
      exact .opened h hended
    | counted h hs hin hroom =>
      have hin' := inPeriod_iff.2 ⟨_, hs, hin⟩
      rw [h, hin']
      exact .counted h hin' hroom
    | refused h hs hin hfull =>
      rw [h, inPeriod_iff.2 ⟨_, hs, hin⟩]
      exact .idle

theorem run_append (w : Window) (earlier later : List (Nat × Move)) :
    run w (earlier ++ later) = run (run w earlier) later :=
  List.foldl_append

section Moments

variable {happens : Window → Nat → Move → Bool}

theorem moments_append (w : Window) (earlier later : List (Nat × Move)) :
    moments happens w (earlier ++ later)
      = moments happens w earlier ++ moments happens (run w earlier) later := by
  induction earlier generalizing w with
  | nil => rfl
  | cons m earlier ih => rw [List.cons_append, moments, moments, ih, List.append_assoc]; rfl

theorem moments_append_singleton (w : Window) (earlier : List (Nat × Move)) (t : Nat)
    (move : Move) :
    moments happens w (earlier ++ [(t, move)])
      = moments happens w earlier ++ if happens (run w earlier) t move then [t] else [] := by
  rw [moments_append, moments, moments, List.append_nil]

/-- What happens at a moment is done then. -/
theorem exists_of_mem_moments {moves : List (Nat × Move)} (ht : t ∈ moments happens w moves) :
    ∃ before move later, moves = before ++ (t, move) :: later ∧
      happens (run w before) t move = true := by
  induction moves generalizing w with
  | nil => cases ht
  | cons m moves ih =>
    rcases List.mem_append.1 ht with hfirst | hlater
    · split at hfirst
      · rename_i hhappens
        obtain rfl := List.mem_singleton.1 hfirst
        exact ⟨[], m.2, moves, rfl, hhappens⟩
      · cases hfirst
    · obtain ⟨before, move, later, rfl, hhappens⟩ := ih hlater
      exact ⟨m :: before, move, later, rfl, hhappens⟩

theorem mem_of_mem_moments {moves : List (Nat × Move)} (ht : t ∈ moments happens w moves) :
    t ∈ moves.map Prod.fst := by
  obtain ⟨before, move, later, rfl, -⟩ := exists_of_mem_moments ht
  simp

end Moments

/-! ## The last window -/

/-- In a run a window has been opened by an attempt at a moment, and no other one since. -/
structure LastWindow (moves earlier : List (Nat × Move)) (s : Nat) (since : List (Nat × Move)) :
    Prop where
  /-- The attempt stands between what has been done before and since. -/
  moves_eq : moves = earlier ++ (s, .attempt) :: since
  /-- It has opened a window. -/
  opens : Move.attempt.opens (run {} earlier) s = true
  /-- No other window has been opened since. -/
  last : openings (Move.attempt.run (run {} earlier) s) since = []

/-- The moments at which requests have been admitted from an attempt on, with this one. -/
def admittedSince (earlier : List (Nat × Move)) (s : Nat) (since : List (Nat × Move)) : List Nat :=
  admissions (run {} earlier) ((s, .attempt) :: since)

section LastWindow

variable {moves earlier since : List (Nat × Move)} {s : Nat} {move : Move}

theorem LastWindow.run_eq (h : LastWindow moves earlier s since) :
    run {} moves = run (run {} earlier) ((s, .attempt) :: since) := by
  rw [h.moves_eq, run_append]

/-- As long as no window is opened it is the last one. -/
theorem LastWindow.append (h : LastWindow moves earlier s since)
    (hopens : move.opens (run {} moves) t = false) :
    LastWindow (moves ++ [(t, move)]) earlier s (since ++ [(t, move)]) := by
  refine ⟨by rw [h.moves_eq, List.append_assoc]; rfl, h.opens, ?_⟩
  have hrun : run (Move.attempt.run (run {} earlier) s) since = run {} moves := h.run_eq.symm
  rw [openings, moments_append_singleton, hrun, hopens, ← openings, h.last]
  rfl

theorem LastWindow.length_append (h : LastWindow moves earlier s since) (t : Nat) (move : Move) :
    (admittedSince earlier s (since ++ [(t, move)])).length
      = (admittedSince earlier s since).length
        + if move.admits (run {} moves) t then 1 else 0 := by
  rw [admittedSince, ← List.cons_append, admissions, moments_append_singleton, ← h.run_eq,
    List.length_append, ← admissions, ← admittedSince]
  split <;> rfl

/-- **The count of the last window is that of the requests admitted since it was opened.** -/
theorem exists_lastWindow (hs : (run {} moves).start = some s) :
    ∃ earlier since, LastWindow moves earlier s since ∧
      (run {} moves).issued = (admittedSince earlier s since).length := by
  induction moves using List.reverseRecOn with
  | nil => cases hs
  | append_singleton moves m ih =>
    obtain ⟨t, move⟩ := m
    have hrun : run {} (moves ++ [(t, move)]) = move.run (run {} moves) t := run_append ..
    rw [hrun] at hs ⊢
    -- unless a window is opened there is one more thing that has been done since
    have hmore (hstart : (run {} moves).start = some s)
        (hopens : move.opens (run {} moves) t = false)
        (hissued : (move.run (run {} moves) t).issued
          = (run {} moves).issued + if move.admits (run {} moves) t then 1 else 0) :
        ∃ earlier since, LastWindow (moves ++ [(t, move)]) earlier s since ∧
          (move.run (run {} moves) t).issued = (admittedSince earlier s since).length := by
      obtain ⟨earlier, since, hlast, hcount⟩ := ih hstart
      refine ⟨earlier, since ++ [(t, move)], hlast.append hopens, ?_⟩
      rw [hissued, hcount, hlast.length_append]
    have heffect := move.effect (run {} moves) t
    generalize hw : move.run (run {} moves) t = w, ha : move.admits (run {} moves) t = admitted,
      ho : move.opens (run {} moves) t = opened at *
    cases heffect with
    | changed permits period => exact hmore hs rfl rfl
    | idle => exact hmore hs rfl rfl
    | counted h hin hroom => exact hmore hs rfl rfl
    | opened h hended =>
      obtain rfl : t = s := Option.some.inj hs
      refine ⟨moves, [], ⟨rfl, ho, rfl⟩, ?_⟩
      rw [admittedSince, admissions, moments, ha]
      rfl

end LastWindow

/-! ## Time -/

/-- A window opens when the one before it has run its full period. -/
theorem add_period_le {s : Nat} (h : w.isEnabled = true) (hended : w.inPeriod t = false)
    (hs : w.start = some s) : s + w.period ≤ t := by
  have hperiod := (isEnabled_iff.1 h).2
  have hlt : ¬t - s < w.period := fun hlt ↦
    Bool.false_ne_true (hended ▸ inPeriod_iff.2 ⟨s, hs, hlt⟩)
  omega

/-- The moments of a run do not go back. -/
def InOrder (moves : List (Nat × Move)) : Prop := (moves.map Prod.fst).Pairwise (· ≤ ·)

instance : DecidablePred InOrder := fun moves ↦
  inferInstanceAs (Decidable ((moves.map Prod.fst).Pairwise (· ≤ ·)))

theorem InOrder.append {earlier later : List (Nat × Move)} (h : InOrder (earlier ++ later)) :
    InOrder earlier ∧ InOrder later ∧ ∀ m ∈ earlier, ∀ n ∈ later, m.1 ≤ n.1 := by
  rw [InOrder, List.map_append, List.pairwise_append] at h
  exact ⟨h.1, h.2.1, fun m hm n hn ↦
    h.2.2 m.1 (List.mem_map_of_mem hm) n.1 (List.mem_map_of_mem hn)⟩

theorem inPeriod_of_admits {move : Move} (hadmits : move.admits w t = true) :
    (move.run w t).inPeriod t = true := by
  have heffect := move.effect w t
  rw [hadmits] at heffect
  generalize move.run w t = w', move.opens w t = opened at *
  cases heffect with
  | opened h hended => exact inPeriod_iff.2 ⟨t, rfl, by simpa using (isEnabled_iff.1 h).2⟩
  | counted h hin hroom => exact hin

theorem inPeriod_run_of_attempts {moves : List (Nat × Move)} (hw : w.inPeriod t = true)
    (hmoves : ∀ m ∈ moves, m = (t, .attempt)) : (run w moves).inPeriod t = true := by
  induction moves generalizing w with
  | nil => exact hw
  | cons m moves ih =>
    obtain ⟨hm, hmoves⟩ := List.forall_mem_cons.1 hmoves
    refine ih ?_ hmoves
    rw [hm]
    change (Move.attempt.run w t).inPeriod t = true
    have heffect := Move.attempt.effect w t
    generalize Move.attempt.run w t = w', Move.attempt.admits w t = admitted,
      Move.attempt.opens w t = opened at *
    cases heffect with
    | idle => exact hw
    | opened h hended => exact absurd hw (Bool.eq_false_iff.1 hended)
    | counted h hin hroom => exact hin

/-- Unless the limit is changed at the same moment all requests that have been admitted before a
window is opened have been admitted at moments before. -/
theorem InOrder.lt_of_mem_admissions {earlier : List (Nat × Move)} {s : Nat}
    (h : InOrder (earlier ++ [(s, .attempt)]))
    (hopens : Move.attempt.opens (run {} earlier) s = true)
    (hset : ∀ permits period, (s, .set permits period) ∉ earlier) (ht : t ∈ admissions {} earlier) :
    t < s := by
  obtain ⟨before, move, later, rfl, hadmits⟩ := exists_of_mem_moments ht
  obtain ⟨hbefore, -, hle⟩ := h.append
  refine Nat.lt_of_le_of_ne (hle (t, move) (by simp) _ List.mem_cons_self) ?_
  rintro rfl
  -- all that has been done since is attempts at this moment, which end no window
  have hlater : ∀ m ∈ later, m = (t, .attempt) := by
    rintro ⟨n, move'⟩ hm
    have htn : t ≤ n := (List.pairwise_cons.1 hbefore.append.2.1).1 n (List.mem_map_of_mem hm)
    have hnt : n ≤ t := hle (n, move') (by simp [hm]) _ List.mem_cons_self
    obtain rfl := Nat.le_antisymm htn hnt
    cases move' with
    | set permits period => exact absurd (by simp [hm]) (hset permits period)
    | attempt => rfl
  have hin := inPeriod_run_of_attempts (inPeriod_of_admits hadmits) hlater
  rw [run_append] at hopens
  change (_ && !(run (move.run (run {} before) t) later).inPeriod t) = true at hopens
  rw [hin, Bool.not_true, Bool.and_false] at hopens
  cases hopens

/-! ## One limit -/

theorem Move.set_of_keeps {permits : Int} {period : Nat} (h : (set permits period).Keeps w) :
    w.set permits period = w := by
  rw [Window.set, h.1, h.2]

theorem Move.limit_run {move : Move} (h : move.Keeps w) :
    (move.run w t).permits = w.permits ∧ (move.run w t).period = w.period := by
  have heffect := move.effect w t
  generalize move.run w t = w', move.admits w t = admitted, move.opens w t = opened at *
  cases heffect with
  | changed permits period => exact h
  | idle | opened | counted => exact ⟨rfl, rfl⟩

theorem Move.Keeps.congr {move : Move} (h : move.Keeps w)
    (hlimit : w'.permits = w.permits ∧ w'.period = w.period) : move.Keeps w' := by
  cases move with
  | set permits period => exact ⟨h.1.trans hlimit.1.symm, h.2.trans hlimit.2.symm⟩
  | attempt => trivial

theorem limit_run {moves : List (Nat × Move)} (hkeeps : ∀ m ∈ moves, m.2.Keeps w) :
    (run w moves).permits = w.permits ∧ (run w moves).period = w.period := by
  induction moves generalizing w with
  | nil => exact ⟨rfl, rfl⟩
  | cons m moves ih =>
    obtain ⟨hm, hmoves⟩ := List.forall_mem_cons.1 hkeeps
    have hlimit := Move.limit_run (t := m.1) hm
    obtain ⟨hpermits, hperiod⟩ := ih fun n hn ↦ (hmoves n hn).congr hlimit
    exact ⟨hpermits.trans hlimit.1, hperiod.trans hlimit.2⟩

/-- Under one limit there are only so many requests for each window. -/
theorem length_admissions_le {segment : List (Nat × Move)} (hkeeps : ∀ m ∈ segment, m.2.Keeps w) :
    (admissions w segment).length
      ≤ w.permits - w.issued + w.permits * (openings w segment).length := by
  induction segment generalizing w with
  | nil => exact Nat.zero_le _
  | cons m segment ih =>
    obtain ⟨t, move⟩ := m
    obtain ⟨hmove, hsegment⟩ := List.forall_mem_cons.1 hkeeps
    have hle := ih (w := move.run w t) fun m hm ↦ (hsegment m hm).congr (Move.limit_run hmove)
    rw [admissions, openings, moments, moments, ← admissions, ← openings] at *
    have heffect := move.effect w t
    generalize move.run w t = w', move.admits w t = admitted, move.opens w t = opened at *
    cases heffect with
    | changed permits period =>
      rw [Move.set_of_keeps hmove] at hle ⊢
      exact hle
    | idle => exact hle
    | opened h hended =>
      have hpermits := (isEnabled_iff.1 h).1
      simp only [if_true, List.length_append, List.length_singleton, Nat.mul_add] at hle ⊢
      omega
    | counted h hin hroom =>
      simp only [if_true, List.length_append, List.length_singleton, Bool.false_eq_true, if_false,
        List.nil_append] at hle ⊢
      omega

/-- Under one limit windows are a period apart, and apart from the last one before. -/
theorem pairwise_openings {segment : List (Nat × Move)} (hkeeps : ∀ m ∈ segment, m.2.Keeps w) :
    (openings w segment).Pairwise (fun s t ↦ s + w.period ≤ t) ∧
      ∀ t ∈ openings w segment, 0 < w.period ∧ ∀ s, w.start = some s → s + w.period ≤ t := by
  induction segment generalizing w with
  | nil => exact ⟨List.Pairwise.nil, fun _ ht ↦ nomatch ht⟩
  | cons m segment ih =>
    obtain ⟨t, move⟩ := m
    obtain ⟨hmove, hsegment⟩ := List.forall_mem_cons.1 hkeeps
    have hlater := ih (w := move.run w t) fun m hm ↦ (hsegment m hm).congr (Move.limit_run hmove)
    rw [openings, moments, ← openings] at *
    have heffect := move.effect w t
    generalize move.run w t = w', move.admits w t = admitted, move.opens w t = opened at *
    cases heffect with
    | changed permits period =>
      rw [Move.set_of_keeps hmove] at hlater ⊢
      exact hlater
    | idle => exact hlater
    | opened h hended =>
      obtain ⟨hspaced, hfirst⟩ := hlater
      have hnext : ∀ u ∈ _, t + w.period ≤ u := fun u hu ↦ (hfirst u hu).2 t rfl
      refine ⟨List.pairwise_cons.2 ⟨hnext, hspaced⟩, fun u hu ↦ ?_⟩
      refine ⟨(isEnabled_iff.1 h).2, fun s hs ↦ ?_⟩
      have hst := add_period_le h hended hs
      rcases List.mem_cons.1 hu with rfl | hu
      · exact hst
      · exact Nat.le_trans hst (Nat.le_trans (Nat.le_add_right ..) (hnext u hu))
    | counted h hin hroom => exact hlater

/-- From the first of some moments that are a period apart to the last there are all periods but
one. -/
theorem length_mul_add_lt {period s e : Nat} {moments : List Nat}
    (hspaced : (s :: moments).Pairwise fun s t ↦ s + period ≤ t)
    (hend : ∀ t ∈ s :: moments, t < e) :
    moments.length * period + s < e := by
  induction moments generalizing s with
  | nil =>
    rw [List.length_nil, Nat.zero_mul, Nat.zero_add]
    exact hend s List.mem_cons_self
  | cons u moments ih =>
    obtain ⟨hfirst, hrest⟩ := List.pairwise_cons.1 hspaced
    have hsu := hfirst u List.mem_cons_self
    have hlt := ih hrest (List.forall_mem_cons.1 hend).2
    rw [List.length_cons, Nat.succ_mul]
    omega

/-- Moments that are a period apart are no more than periods fit in. -/
theorem length_le_ceilDiv {period length : Nat} {moments : List Nat}
    (hspaced : moments.Pairwise fun s t ↦ s + period ≤ t) (hperiod : ∀ _ ∈ moments, 0 < period)
    (hwithin : ∀ s ∈ moments, t ≤ s ∧ s < t + length) : moments.length ≤ length ⌈/⌉ period := by
  cases moments with
  | nil => exact Nat.zero_le _
  | cons s moments =>
    have hpos := hperiod s List.mem_cons_self
    have hts := (hwithin s List.mem_cons_self).1
    have hlt := length_mul_add_lt hspaced fun u hu ↦ (hwithin u hu).2
    rw [Nat.ceilDiv_eq_add_pred_div, List.length_cons, Nat.le_div_iff_mul_le hpos, Nat.succ_mul]
    omega

theorem InOrder.exists_split {moves : List (Nat × Move)} (h : InOrder moves) (t : Nat) :
    ∃ earlier later,
      moves = earlier ++ later ∧ (∀ m ∈ earlier, m.1 < t) ∧ ∀ m ∈ later, t ≤ m.1 := by
  induction moves with
  | nil => exact ⟨[], [], rfl, nofun, nofun⟩
  | cons m moves ih =>
    obtain ⟨hfirst, hmoves⟩ := List.pairwise_cons.1 h
    by_cases ht : m.1 < t
    · obtain ⟨earlier, later, rfl, hearlier, hlater⟩ := ih hmoves
      exact ⟨m :: earlier, later, rfl, List.forall_mem_cons.2 ⟨ht, hearlier⟩, hlater⟩
    · have hle : t ≤ m.1 := Nat.le_of_not_lt ht
      exact ⟨[], m :: moves, rfl, nofun, List.forall_mem_cons.2
        ⟨hle, fun n hn ↦ Nat.le_trans hle (hfirst n.1 (List.mem_map_of_mem hn))⟩⟩

theorem countP_moments_eq_zero {happens : Window → Nat → Move → Bool} {moves : List (Nat × Move)}
    {counts : Nat → Bool} (h : ∀ m ∈ moves, counts m.1 = false) :
    (moments happens w moves).countP counts = 0 := by
  rw [List.countP_eq_zero]
  intro t ht
  obtain ⟨m, hm, rfl⟩ := List.mem_map.1 (mem_of_mem_moments ht)
  rw [h m hm]
  exact Bool.false_ne_true

/-- **Under one limit there are only so many requests in any stretch of time.** -/
theorem countP_admissions_le {segment : List (Nat × Move)} (h : InOrder segment)
    (hkeeps : ∀ m ∈ segment, m.2.Keeps w) (t length : Nat) :
    (admissions w segment).countP (fun s ↦ t ≤ s ∧ s < t + length)
      ≤ w.permits * (length ⌈/⌉ w.period + 1) := by
  obtain ⟨earlier, rest, rfl, hearlier, hrest⟩ := h.exists_split t
  obtain ⟨within, later, rfl, hwithin, hlater⟩ := h.append.2.1.exists_split (t + length)
  obtain ⟨hkeeps₁, hkeeps₂⟩ := List.forall_mem_append.1 hkeeps
  obtain ⟨hpermits, hperiod⟩ := limit_run hkeeps₁
  have hkeeps' : ∀ m ∈ within, m.2.Keeps (run w earlier) := fun m hm ↦
    (hkeeps₂ m (List.mem_append_left _ hm)).congr ⟨hpermits, hperiod⟩
  -- what is done before and after does not count
  have hbefore : (admissions w earlier).countP (fun s ↦ t ≤ s ∧ s < t + length) = 0 :=
    countP_moments_eq_zero fun m hm ↦ by simp [Nat.not_le.2 (hearlier m hm)]
  have hafter : (admissions (run (run w earlier) within) later).countP
      (fun s ↦ t ≤ s ∧ s < t + length) = 0 :=
    countP_moments_eq_zero fun m hm ↦ by simp [Nat.not_lt.2 (hlater m hm)]
  have hopenings : (openings (run w earlier) within).length ≤ length ⌈/⌉ w.period := by
    obtain ⟨hspaced, hpos⟩ := pairwise_openings hkeeps'
    rw [hperiod] at hspaced hpos
    refine length_le_ceilDiv (t := t) hspaced (fun s hs ↦ (hpos s hs).1) fun s hs ↦ ?_
    obtain ⟨m, hm, rfl⟩ := List.mem_map.1 (mem_of_mem_moments hs)
    exact ⟨hrest m (List.mem_append_left _ hm), hwithin m hm⟩
  have hle := length_admissions_le hkeeps'
  rw [hpermits] at hle
  calc (admissions w (earlier ++ (within ++ later))).countP (fun s ↦ t ≤ s ∧ s < t + length)
    _ = (admissions (run w earlier) within).countP (fun s ↦ t ≤ s ∧ s < t + length) := by
      rw [admissions, moments_append, moments_append, List.countP_append, List.countP_append,
        ← admissions, hbefore, hafter, Nat.zero_add, Nat.add_zero]
    _ ≤ (admissions (run w earlier) within).length := List.countP_le_length
    _ ≤ w.permits + w.permits * (openings (run w earlier) within).length := by omega
    _ ≤ w.permits + w.permits * (length ⌈/⌉ w.period) :=
      Nat.add_le_add_left (Nat.mul_le_mul_left _ hopenings) _
    _ = w.permits * (length ⌈/⌉ w.period + 1) := by rw [Nat.mul_succ, Nat.add_comm]

/-! ## The limit is kept -/

section LastWindow

variable {moves earlier since : List (Nat × Move)} {s : Nat}

theorem LastWindow.le (h : LastWindow moves earlier s since) (ht : ∀ m ∈ moves, m.1 ≤ t) :
    s ≤ t := by
  refine ht (s, .attempt) ?_
  rw [h.moves_eq]
  exact List.mem_append_right _ List.mem_cons_self

/-- Unless the limit is changed at the moment when the last window is opened, the requests admitted
since are those admitted from this moment on. -/
theorem LastWindow.countP_le (h : LastWindow moves earlier s since) (hmoves : InOrder moves)
    (hset : ∀ permits period, (s, .set permits period) ∉ moves) :
    (admissions {} moves).countP (s ≤ ·) ≤ (admittedSince earlier s since).length := by
  have horder : InOrder (earlier ++ [(s, .attempt)]) := by
    rw [h.moves_eq, List.append_cons] at hmoves
    exact hmoves.append.1
  have hearlier : (admissions {} earlier).countP (s ≤ ·) = 0 := by
    rw [List.countP_eq_zero]
    intro t ht
    have hlt := horder.lt_of_mem_admissions h.opens (fun permits period hmem ↦
      hset permits period (h.moves_eq ▸ List.mem_append_left _ hmem)) ht
    simpa using hlt
  calc (admissions {} moves).countP (s ≤ ·)
    _ = (admittedSince earlier s since).countP (s ≤ ·) := by
      rw [h.moves_eq, admissions, moments_append, List.countP_append, ← admissions, hearlier,
        Nat.zero_add]
      rfl
    _ ≤ (admittedSince earlier s since).length := List.countP_le_length

end LastWindow

/-- A request that is admitted under a limit is admitted in a window with room for it. -/
theorem start_of_tryAdmit (h : w.isEnabled = true) (hadmitted : w.tryAdmit t = .ok w') :
    ∃ s, w'.start = some s ∧ t < s + w.period ∧ w'.issued ≤ w.permits := by
  obtain ⟨hpermits, hperiod⟩ := isEnabled_iff.1 h
  have houtcome := outcome_tryAdmit w t
  rw [hadmitted] at houtcome
  cases houtcome with
  | unlimited hdisabled => rw [h] at hdisabled; cases hdisabled
  | opened _ hended => exact ⟨t, rfl, by omega, hpermits⟩
  | counted _ hs hin hroom => exact ⟨_, hs, by omega, hroom⟩

/-- **The limit is kept.**  In every run, the limit being changed as one likes meanwhile:

1. A request that is admitted under a limit is admitted in a window `s ≤ t < s + period`.  With it
   there have been at most `permits` requests admitted since the window was opened; and, unless the
   limit was changed at the very moment `s`, at most so many from this moment on.
2. A request that is refused is refused because as many have been admitted in its window, and is
   told a moment that is still to come, when the window ends.
3. The start of the window changes only when a window is opened, and the one before has then run the
   full period that is in force.
4. As long as the limit stays what it is there are at most `permits * (⌈length / period⌉ + 1)`
   requests in a stretch of time of any length. -/
theorem limitKept (moves : List (Nat × Move)) (hmoves : InOrder moves) :
    (∀ before t later, moves = before ++ (t, .attempt) :: later →
      let w := run {} before
      (∀ w', w.isEnabled = true → w.tryAdmit t = .ok w' → ∃ earlier s since,
        LastWindow (before ++ [(t, .attempt)]) earlier s since ∧
        w'.start = some s ∧ s ≤ t ∧ t < s + w.period ∧
        (admittedSince earlier s since).length ≤ w.permits ∧
        ((∀ permits period, (s, .set permits period) ∉ before) →
          (admissions {} (before ++ [(t, .attempt)])).countP (s ≤ ·) ≤ w.permits)) ∧
      (∀ wake, w.tryAdmit t = .error wake → ∃ earlier s since,
        LastWindow before earlier s since ∧
        s ≤ t ∧ wake = s + w.period ∧ t < wake ∧
        w.permits ≤ (admittedSince earlier s since).length)) ∧
    (∀ before t move later, moves = before ++ (t, move) :: later →
      let w := run {} before
      (move.run w t).start = (if move.opens w t then some t else w.start) ∧
      (move.opens w t = true → ∀ s, w.start = some s → s + w.period ≤ t)) ∧
    ∀ before segment later, moves = before ++ segment ++ later →
      let w := run {} before
      (∀ m ∈ segment, m.2.Keeps w) → ∀ t length, 0 < length →
        (admissions w segment).countP (fun s ↦ t ≤ s ∧ s < t + length)
          ≤ w.permits * (length ⌈/⌉ w.period + 1) := by
  refine ⟨fun before t later hsplit ↦ ⟨fun w' henabled hadmitted ↦ ?admitted,
    fun wake hrefused ↦ ?refused⟩, fun before t move later _ ↦ ⟨?start, fun hopens s hs ↦ ?full⟩,
    fun before segment later hsplit hkeeps t length _ ↦ ?stretch⟩
  case admitted =>
    have horder : InOrder (before ++ [(t, .attempt)]) := by
      rw [hsplit, List.append_cons] at hmoves
      exact hmoves.append.1
    have hrun : run {} (before ++ [(t, .attempt)]) = w' := by
      rw [run_append]
      change Move.attempt.run (run {} before) t = w'
      rw [Move.run, hadmitted]
    obtain ⟨s, hs, hlt, hissued⟩ := start_of_tryAdmit henabled hadmitted
    rw [← hrun] at hs hissued
    obtain ⟨earlier, since, hlast, hcount⟩ := exists_lastWindow hs
    rw [hcount] at hissued
    refine ⟨earlier, s, since, hlast, hrun ▸ hs, hlast.le fun m hm ↦ ?_, hlt, hissued,
      fun hset ↦ Nat.le_trans (hlast.countP_le horder fun permits period hmem ↦ ?_) hissued⟩
    · rcases List.mem_append.1 hm with hm | hm
      · exact horder.append.2.2 m hm _ List.mem_cons_self
      · rw [List.mem_singleton.1 hm]
    · rcases List.mem_append.1 hmem with hmem | hmem
      · exact hset permits period hmem
      · cases List.mem_singleton.1 hmem
  case refused =>
    have houtcome := outcome_tryAdmit (run {} before) t
    rw [hrefused] at houtcome
    cases houtcome with
    | refused henabled hs hin hfull =>
      obtain ⟨earlier, since, hlast, hcount⟩ := exists_lastWindow hs
      rw [hsplit] at hmoves
      refine ⟨earlier, _, since, hlast, hlast.le fun m hm ↦ ?_, rfl, by omega, hcount ▸ hfull⟩
      exact hmoves.append.2.2 m hm _ List.mem_cons_self
  case start =>
    have heffect := move.effect (run {} before) t
    generalize move.run (run {} before) t = w', move.admits (run {} before) t = admitted,
      move.opens (run {} before) t = opened at *
    cases heffect with
    | changed | idle | counted => rfl
    | opened => rfl
  case full =>
    cases move with
    | set permits period => cases hopens
    | attempt =>
      obtain ⟨henabled, hended⟩ := Bool.and_eq_true_iff.1 hopens
      exact add_period_le henabled (by simpa using hended) hs
  case stretch =>
    rw [hsplit] at hmoves
    exact countP_admissions_le hmoves.append.1.append.2.1 hkeeps t length

/-- A run in which the limit is raised in a full window, and then lowered so that this window has
ended. -/
def changing : List (Nat × Move) :=
  [(0, .set 2 10), (0, .attempt), (3, .attempt), (4, .attempt), (5, .set 3 10), (6, .attempt),
    (7, .set 1 4), (7, .attempt), (8, .attempt), (11, .attempt)]

/-- The request at 6 is the third one of its window, and the one at 8 is refused in another one. -/
theorem limitKept_changing :
    InOrder changing ∧
    (∃ earlier s since, LastWindow (changing.take 6) earlier s since ∧ s ≤ 6 ∧ 6 < s + 10 ∧
      (admittedSince earlier s since).length ≤ 3) ∧
    (run {} (changing.take 8)).tryAdmit 8 = .error 11 ∧
    (∃ earlier s since, LastWindow (changing.take 8) earlier s since ∧ s ≤ 8 ∧ 11 = s + 4 ∧
      1 ≤ (admittedSince earlier s since).length) ∧
    (∀ s, (run {} (changing.take 7)).start = some s → s + 4 ≤ 7) ∧
    (admissions (run {} (changing.take 7)) (changing.drop 7)).countP (fun s ↦ 5 ≤ s ∧ s < 5 + 6)
      ≤ 1 * (6 ⌈/⌉ 4 + 1) := by
  have horder : InOrder changing := by decide
  obtain ⟨hattempts, hstarts, hstretch⟩ := limitKept changing horder
  obtain ⟨earlier, s, since, hlast, -, hs, hlt, hcount, -⟩ :=
    (hattempts (changing.take 5) 6 (changing.drop 6) rfl).1 ⟨3, 10, some 0, 3⟩ rfl rfl
  obtain ⟨earlier', s', since', hlast', hs', hwake, -, hfull⟩ :=
    (hattempts (changing.take 8) 8 (changing.drop 9) rfl).2 11 rfl
  exact ⟨horder, ⟨earlier, s, since, hlast, hs, hlt, hcount⟩, rfl,
    ⟨earlier', s', since', hlast', hs', hwake, hfull⟩,
    (hstarts (changing.take 7) 7 .attempt (changing.drop 8) rfl).2 rfl,
    hstretch (changing.take 7) (changing.drop 7) [] rfl (by simp [changing, Move.Keeps]) 5 6
      (by decide)⟩

end SourceHost.Window
