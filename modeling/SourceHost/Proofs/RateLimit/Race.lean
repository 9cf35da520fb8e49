import Mathlib.Data.List.MinMax
import Mathlib.Tactic.Ring
import SourceHost.Proofs.RateLimit.Windows

/-!
# Requests that wait together

Requests that come to a full window wait until it ends, and then all try again at once.  Which of
them is faster is a matter of chance, and what it comes to is not: the window admits as many of them
as it would if they came in single file.

* `Crowd`, `Crowd.Step`, `Crowd.Run` — requests that wait together, each of which may be the next
  to try when it is due.
* `Crowd.Run.add_weight_le`, `Crowd.exists_step` — they are all admitted in the end, and there is no
  way to go on for ever.
* `Queued` — requests one after the other, each of which waits on its own.
* `Crowd.Step.outcome_eq` — no attempt changes what the crowd comes to.
* `acquireEach_fst` — the moments at which requests are admitted, one by one.
* `raceAsQueue` — so in every order the requests are admitted at these moments.
-/

set_option autoImplicit false

namespace SourceHost.Window

/-- Requests that share a limit. -/
structure Crowd (ι : Type) where
  /-- The window of the limit. -/
  window : Window
  /-- Those that have not been admitted, each with the moment at which it tries next. -/
  waiting : List (ι × Nat)
  /-- Those that have been admitted, each with the moment at which it was. -/
  admitted : List (ι × Nat) := []

variable {ι : Type} {w w' : Window} {t : Nat}

namespace Crowd

variable {c d e : Crowd ι}

/-- One of the requests that are due first tries.  It is admitted, or waits until the moment that it
is told. -/
inductive Step : Crowd ι → Crowd ι → Prop
  | accept {w w' : Window} {front back admitted : List (ι × Nat)} {i : ι} {t : Nat}
      (hdue : ∀ q ∈ front ++ back, t ≤ q.2) (h : w.tryAdmit t = .ok w') :
      Step ⟨w, front ++ (i, t) :: back, admitted⟩ ⟨w', front ++ back, admitted ++ [(i, t)]⟩
  | refuse {w : Window} {front back admitted : List (ι × Nat)} {i : ι} {t wake : Nat}
      (hdue : ∀ q ∈ front ++ back, t ≤ q.2) (h : w.tryAdmit t = .error wake) :
      Step ⟨w, front ++ (i, t) :: back, admitted⟩ ⟨w, front ++ (i, wake) :: back, admitted⟩

/-- Several requests have tried, in some order. -/
inductive Run : Crowd ι → Nat → Crowd ι → Prop
  | done (c : Crowd ι) : Run c 0 c
  | step {c d e : Crowd ι} {n : Nat} (h : Step c d) (hrest : Run d n e) : Run c (n + 1) e

/-- All requests come at the same moment. -/
def start (w : Window) (requests : List ι) (t : Nat) : Crowd ι := ⟨w, requests.map (·, t), []⟩

end Crowd

/-- Requests come one after the other, each when the one before has been admitted. -/
inductive Queued : Window → Nat → List ι → List (ι × Nat) → Window → Prop
  | done (w : Window) (t : Nat) : Queued w t [] [] w
  | next {w w' w'' : Window} {i : ι} {requests : List ι} {t t' n : Nat} {admitted : List (ι × Nat)}
      (hfirst : (Crowd.start w [i] t).Run n ⟨w', [], [(i, t')]⟩)
      (hrest : Queued w' t' requests admitted w'') :
      Queued w t (i :: requests) ((i, t') :: admitted) w''

/-! ## One after the other -/

/-- A request that is refused is admitted at the moment that it is told. -/
theorem exists_tryAdmit_of_error {wake : Nat} (h : w.tryAdmit t = .error wake) :
    t < wake ∧ ∃ w', w.tryAdmit wake = .ok w' := by
  have houtcome := outcome_tryAdmit w t
  rw [h] at houtcome
  cases houtcome with
  | @refused s henabled hs hin hfull =>
    refine ⟨by omega, ?_⟩
    have hlater := outcome_tryAdmit w (s + w.period)
    generalize w.tryAdmit (s + w.period) = outcome at hlater
    cases hlater with
    | unlimited | opened | counted => exact ⟨_, rfl⟩
    | refused henabled' hs' hin' hfull' =>
      obtain rfl := Option.some.inj (hs.symm.trans hs')
      omega

theorem acquireEach_succ (w : Window) (t n : Nat) :
    w.acquireEach t (n + 1) = ((w.acquire t).1 :: ((w.acquire t).2.acquireEach (w.acquire t).1 n).1,
      ((w.acquire t).2.acquireEach (w.acquire t).1 n).2) :=
  rfl

theorem acquireEach_of_ok (h : w.tryAdmit t = .ok w') (n : Nat) :
    w.acquireEach t (n + 1) = (t :: (w'.acquireEach t n).1, (w'.acquireEach t n).2) := by
  rw [acquireEach_succ, acquire, h]

theorem acquireEach_of_error {wake : Nat} (h : w.tryAdmit t = .error wake) (n : Nat) :
    w.acquireEach t (n + 1) = w.acquireEach wake (n + 1) := by
  obtain ⟨-, w', h'⟩ := exists_tryAdmit_of_error h
  rw [acquireEach_succ, acquireEach_succ, acquire, acquire, h]
  simp only [h']

theorem pairwise_acquireEach (w : Window) (t n : Nat) :
    (w.acquireEach t n).1.Pairwise (· ≤ ·) ∧ ∀ u ∈ (w.acquireEach t n).1, t ≤ u := by
  induction n generalizing w t with
  | zero => exact ⟨List.Pairwise.nil, nofun⟩
  | succ n ih =>
    have hok {w w' : Window} {t : Nat} (h : w.tryAdmit t = .ok w') :
        (w.acquireEach t (n + 1)).1.Pairwise (· ≤ ·) ∧
          ∀ u ∈ (w.acquireEach t (n + 1)).1, t ≤ u := by
      obtain ⟨hsorted, hle⟩ := ih w' t
      rw [acquireEach_of_ok h]
      exact ⟨List.pairwise_cons.2 ⟨hle, hsorted⟩, List.forall_mem_cons.2 ⟨Nat.le_refl t, hle⟩⟩
    cases h : w.tryAdmit t with
    | ok w' => exact hok h
    | error wake =>
      obtain ⟨hlt, w', h'⟩ := exists_tryAdmit_of_error h
      obtain ⟨hsorted, hle⟩ := hok h'
      rw [acquireEach_of_error h]
      exact ⟨hsorted, fun u hu ↦ Nat.le_trans (Nat.le_of_lt hlt) (hle u hu)⟩

/-! ## The moments at which requests are admitted -/

/-- How many more requests the window admits that a moment falls into. -/
def room (w : Window) (t : Nat) : Nat := if w.inPeriod t then w.permits - w.issued else w.permits

/-- When this window was opened, or is. -/
def opening (w : Window) (t : Nat) : Nat := if w.inPeriod t then w.start.getD t else t

/-- The moment at which the request is admitted that `k` others come before. -/
def slot (w : Window) (t k : Nat) : Nat :=
  if k < w.room t then t else w.opening t + w.period * (1 + (k - w.room t) / w.permits)

theorem slot_of_ok (henabled : w.isEnabled = true) (h : w.tryAdmit t = .ok w') :
    w'.isEnabled = true ∧ w.slot t 0 = t ∧ ∀ k, w.slot t (k + 1) = w'.slot t k := by
  obtain ⟨hpermits, hperiod⟩ := isEnabled_iff.1 henabled
  have houtcome := outcome_tryAdmit w t
  rw [h] at houtcome
  cases houtcome with
  | unlimited hdisabled => rw [henabled] at hdisabled; cases hdisabled
  | opened _ hended =>
    have hin : Window.inPeriod { w with start := some t, issued := 1 } t = true :=
      inPeriod_iff.2 ⟨t, rfl, by simpa using hperiod⟩
    refine ⟨henabled, by simp [slot, room, hended, hpermits], fun k ↦ ?_⟩
    have hsub : k + 1 - w.permits = k - (w.permits - 1) := by omega
    simp only [slot, room, opening, hended, hin, Bool.false_eq_true, if_false, if_true,
      Option.getD_some, hsub, Nat.lt_sub_iff_add_lt]
  | @counted s _ hs hin hroom =>
    have hin' := inPeriod_iff.2 ⟨s, hs, hin⟩
    have hnow : w.room t = w.permits - w.issued := if_pos hin'
    have hthen : Window.room { w with issued := w.issued + 1 } t = w.permits - (w.issued + 1) :=
      if_pos hin'
    have hopening : Window.opening { w with issued := w.issued + 1 } t = w.opening t := rfl
    refine ⟨henabled, by simp [slot, hnow, hroom], fun k ↦ ?_⟩
    have hsub : k + 1 - (w.permits - w.issued) = k - (w.permits - (w.issued + 1)) := by omega
    have hlt : k + 1 < w.permits - w.issued ↔ k < w.permits - (w.issued + 1) := by omega
    simp only [slot, hnow, hthen, hopening, hsub, hlt]

theorem slot_of_error {wake : Nat} (h : w.tryAdmit t = .error wake) (k : Nat) :
    w.slot t k = w.slot wake k := by
  have houtcome := outcome_tryAdmit w t
  rw [h] at houtcome
  cases houtcome with
  | @refused s henabled hs hin hfull =>
    have hpermits := (isEnabled_iff.1 henabled).1
    have hin' := inPeriod_iff.2 ⟨s, hs, hin⟩
    have hended : w.inPeriod (s + w.period) = false := by
      rw [inPeriod, hs]
      simp
    simp only [slot, room, opening, hin', hended, if_true, Bool.false_eq_true, if_false, hs,
      Option.getD_some, Nat.sub_eq_zero_of_le hfull, Nat.not_lt_zero, Nat.sub_zero]
    split
    · rename_i hlt
      rw [Nat.div_eq_of_lt hlt, Nat.add_zero, Nat.mul_one]
    · rename_i hle
      rw [Nat.div_eq_sub_div hpermits (Nat.le_of_not_lt hle)]
      ring

/-- Under a limit the requests are admitted at these moments. -/
theorem acquireEach_fst (henabled : w.isEnabled = true) (t n : Nat) :
    (w.acquireEach t n).1 = (List.range n).map (w.slot t) := by
  induction n generalizing w t with
  | zero => rfl
  | succ n ih =>
    have hok {w w' : Window} {t : Nat} (henabled : w.isEnabled = true) (h : w.tryAdmit t = .ok w') :
        (w.acquireEach t (n + 1)).1 = (List.range (n + 1)).map (w.slot t) := by
      obtain ⟨henabled', hzero, hsucc⟩ := slot_of_ok henabled h
      rw [acquireEach_of_ok h, List.range_succ_eq_map, List.map_cons, List.map_map, hzero,
        ih henabled' t]
      exact congrArg (t :: ·) (List.map_congr_left fun k _ ↦ (hsucc k).symm)
    cases h : w.tryAdmit t with
    | ok w' => exact hok henabled h
    | error wake =>
      obtain ⟨-, w', h'⟩ := exists_tryAdmit_of_error h
      rw [acquireEach_of_error h, hok henabled h']
      exact List.map_congr_left fun k _ ↦ (slot_of_error h k).symm

/-- Without a limit nobody waits. -/
theorem acquireEach_of_disabled (h : w.isEnabled = false) (t n : Nat) :
    w.acquireEach t n = (List.replicate n t, w) := by
  induction n with
  | zero => rfl
  | succ n ih =>
    have hok : w.tryAdmit t = .ok w := by
      rw [tryAdmit, h]
      rfl
    rw [acquireEach_of_ok hok, ih]
    rfl

/-! ## Round by round -/

theorem round_of_error {wake : Nat} (h : w.tryAdmit t = .error wake) (n : Nat) :
    w.round t n = (0, w, List.replicate n wake) := by
  induction n with
  | zero => rfl
  | succ n ih =>
    rw [round, h]
    simp only [ih]
    rfl

/-- In a round all requests are admitted, or some of them, and the others are told the same moment.
Either way it is as if they had come one after the other. -/
theorem round_cases (w : Window) (t n : Nat) :
    (∃ w', w.round t n = (n, w', []) ∧ w.acquireEach t n = (List.replicate n t, w')) ∨
      ∃ k m wake w', k + (m + 1) = n ∧ (∀ w₁, w.tryAdmit t = .ok w₁ → 0 < k) ∧
        w.round t n = (k, w', List.replicate (m + 1) wake) ∧ w'.tryAdmit t = .error wake ∧
        w.acquireEach t n = (List.replicate k t ++ (w'.acquireEach t (m + 1)).1,
          (w'.acquireEach t (m + 1)).2) := by
  induction n generalizing w with
  | zero => exact .inl ⟨w, rfl, rfl⟩
  | succ n ih =>
    cases h : w.tryAdmit t with
    | error wake =>
      refine .inr ⟨0, n, wake, w, Nat.zero_add _, nofun, round_of_error h _, h, ?_⟩
      rw [List.replicate_zero, List.nil_append]
    | ok w₁ =>
      rw [round, h, acquireEach_of_ok h]
      rcases ih w₁ with ⟨w', hround, hqueue⟩ | ⟨k, m, wake, w', hn, -, hround, herror, hqueue⟩
      · exact .inl ⟨w', by simp only [hround], by rw [hqueue]; rfl⟩
      · exact .inr ⟨k + 1, m, wake, w', by omega, fun _ _ ↦ Nat.succ_pos k, by simp only [hround],
          herror, by rw [hqueue]; rfl⟩

theorem raceFrom_eq {rounds n : Nat}
    (h : n < rounds ∨ n ≤ rounds ∧ ∃ w', w.tryAdmit t = .ok w') :
    w.raceFrom rounds t n = w.acquireEach t n := by
  induction rounds generalizing w t n with
  | zero =>
    obtain rfl : n = 0 := by omega
    rfl
  | succ rounds ih =>
    rw [raceFrom]
    rcases round_cases w t n with ⟨w', hround, hqueue⟩ |
      ⟨k, m, wake, w', hn, hpos, hround, herror, hqueue⟩
    · simp only [hround, hqueue]
    · have hrounds : m + 1 ≤ rounds := by
        rcases h with hlt | ⟨hle, w₁, hok⟩
        · omega
        · have := hpos w₁ hok
          omega
      have hrest := ih (w := w') (t := wake) (.inr ⟨hrounds, (exists_tryAdmit_of_error herror).2⟩)
      simp only [hround, List.replicate_succ, List.length_cons, List.length_replicate, hrest,
        hqueue, acquireEach_of_error herror]

/-! ## No one waits for ever -/

namespace Crowd

variable {c d e : Crowd ι}

/-- How many of the requests that wait are due before the last window ends. -/
def early (c : Crowd ι) : Nat :=
  c.waiting.countP fun q ↦ q.2 < c.window.start.getD 0 + c.window.period

/-- How often requests can try at most until all of them have been admitted. -/
def weight (c : Crowd ι) : Nat := c.waiting.length * (c.waiting.length + 1) + c.early

theorem early_le (c : Crowd ι) : c.early ≤ c.waiting.length := List.countP_le_length

/-- A request that is refused is not due any more before the window ends; one that is admitted does
not wait any more. -/
theorem Step.weight_lt (h : c.Step d) : d.weight < c.weight := by
  cases h with
  | @accept w w' front back admitted i t hdue h =>
    have hearly := early_le ⟨w', front ++ back, admitted ++ [(i, t)]⟩
    simp only [weight, List.length_append, List.length_cons, ← Nat.add_assoc] at hearly ⊢
    generalize front.length + back.length = n at *
    have hsquare : (n + 1) * (n + 1 + 1) = n * (n + 1) + (n + 1) + (n + 1) := by
      rw [Nat.mul_succ, Nat.succ_mul]
    omega
  | @refuse w front back admitted i t wake hdue h =>
    have houtcome := outcome_tryAdmit w t
    rw [h] at houtcome
    cases houtcome with
    | @refused s henabled hs hin hfull =>
      have hlt : t < s + w.period := by omega
      simp only [weight, early, List.length_append, List.length_cons, List.countP_append,
        List.countP_cons, hs, Option.getD_some]
      simp [hlt]

theorem Run.add_weight_le {n : Nat} (h : c.Run n d) : n + d.weight ≤ c.weight := by
  induction h with
  | done c => exact Nat.le_of_eq (Nat.zero_add _)
  | step h hrest ih =>
    have := h.weight_lt
    omega

/-- As long as someone waits someone can try. -/
theorem exists_step (h : c.waiting ≠ []) : ∃ d, c.Step d := by
  obtain ⟨w, waiting, admitted⟩ := c
  obtain ⟨⟨i, t⟩, hq⟩ := Option.ne_none_iff_exists'.1 (mt (List.argmin_eq_none (f := Prod.snd)).1 h)
  obtain ⟨front, back, rfl⟩ := List.append_of_mem (List.argmin_mem hq)
  have hdue : ∀ q ∈ front ++ back, t ≤ q.2 := by
    intro q hmem
    refine List.le_of_mem_argmin (f := Prod.snd) ?_ hq
    rcases List.mem_append.1 hmem with hmem | hmem
    · exact List.mem_append_left _ hmem
    · exact List.mem_append_right _ (List.mem_cons_of_mem _ hmem)
  cases htry : w.tryAdmit t with
  | ok w' => exact ⟨_, .accept hdue htry⟩
  | error wake => exact ⟨_, .refuse hdue htry⟩

/-- So they can all be admitted. -/
theorem exists_run (c : Crowd ι) : ∃ n d, c.Run n d ∧ d.waiting = [] := by
  induction hweight : c.weight using Nat.strong_induction_on generalizing c with
  | h weight ih =>
    by_cases hdone : c.waiting = []
    · exact ⟨0, c, .done c, hdone⟩
    · obtain ⟨d, hstep⟩ := exists_step hdone
      obtain ⟨n, e, hrun, hend⟩ := ih d.weight (hweight ▸ hstep.weight_lt) d rfl
      exact ⟨n + 1, e, .step hstep hrun, hend⟩

/-! ## What a crowd comes to -/

/-- Nobody is lost, and nobody is admitted twice. -/
theorem Step.perm (h : c.Step d) :
    (d.waiting.map Prod.fst ++ d.admitted.map Prod.fst).Perm
      (c.waiting.map Prod.fst ++ c.admitted.map Prod.fst) := by
  cases h with
  | @accept w w' front back admitted i t hdue h =>
    simp only [List.map_append, List.map_cons, List.map_nil, List.append_assoc, List.cons_append]
    refine List.Perm.append_left _ ?_
    rw [← List.append_assoc]
    exact List.perm_append_singleton i _
  | refuse hdue h => simp

/-- All that wait are due at a moment, or have been told then when the window ends. -/
def Gathered (c : Crowd ι) (t : Nat) : Prop :=
  (∀ q ∈ c.waiting, q.2 = t) ∨
    ∃ wake, c.window.tryAdmit t = .error wake ∧ ∀ q ∈ c.waiting, q.2 = t ∨ q.2 = wake

/-- The moments at which requests have been admitted, those at which the others would be if they
came one after the other from a moment on, and the window then. -/
def outcome (c : Crowd ι) (t : Nat) : List Nat × Window :=
  let later := c.window.acquireEach t c.waiting.length
  (c.admitted.map Prod.snd ++ later.1, later.2)

/-- Those that have been told a moment may as well be gathered there. -/
theorem Gathered.of_due {front back : List (ι × Nat)} {i : ι} {u : Nat}
    (hc : c.Gathered t) (hwaiting : c.waiting = front ++ (i, u) :: back)
    (hdue : ∀ q ∈ front ++ back, u ≤ q.2) : c.Gathered u ∧ c.outcome u = c.outcome t := by
  have hmem : (i, u) ∈ c.waiting := by simp [hwaiting]
  rcases hc with hall | ⟨wake, herror, hall⟩
  · obtain rfl : u = t := hall _ hmem
    exact ⟨.inl hall, rfl⟩
  · rcases hall _ hmem with hu | hu
    · obtain rfl : u = t := hu
      exact ⟨.inr ⟨wake, herror, hall⟩, rfl⟩
    · obtain rfl : u = wake := hu
      have hlt := (exists_tryAdmit_of_error herror).1
      refine ⟨.inl fun q hq ↦ (hall q hq).resolve_left fun hqt ↦ ?_, ?_⟩
      · rw [hwaiting, List.mem_append, List.mem_cons] at hq
        rcases hq with hq | rfl | hq
        · have := hdue q (List.mem_append_left _ hq)
          omega
        · omega
        · have := hdue q (List.mem_append_right _ hq)
          omega
      · have hlength : c.waiting.length = (front ++ back).length + 1 := by
          rw [hwaiting, List.length_append, List.length_append, List.length_cons, Nat.add_assoc]
        rw [outcome, outcome, hlength, acquireEach_of_error herror]

/-- **No attempt changes what the crowd comes to.** -/
theorem Step.outcome_eq (h : c.Step d) (hc : c.Gathered t) :
    ∃ u, d.Gathered u ∧ d.outcome u = c.outcome t := by
  cases h with
  | @accept w w' front back admitted i u hdue h =>
    obtain ⟨hgathered, houtcome⟩ := hc.of_due rfl hdue
    rcases hgathered with hall | ⟨wake, herror, -⟩
    · refine ⟨u, .inl fun q hq ↦ hall q ?_, ?_⟩
      · rcases List.mem_append.1 hq with hq | hq
        · exact List.mem_append_left _ hq
        · exact List.mem_append_right _ (List.mem_cons_of_mem _ hq)
      · rw [← houtcome]
        simp only [outcome, List.length_append, List.length_cons, ← Nat.add_assoc,
          acquireEach_of_ok h, List.map_append, List.map_cons, List.map_nil, List.append_assoc,
          List.singleton_append]
    · rw [h] at herror
      cases herror
  | @refuse w front back admitted i u wake hdue h =>
    obtain ⟨hgathered, houtcome⟩ := hc.of_due rfl hdue
    have hall : ∀ q ∈ front ++ (i, u) :: back, q.2 = u ∨ q.2 = wake := by
      rcases hgathered with hall | ⟨wake', herror, hall⟩
      · exact fun q hq ↦ .inl (hall q hq)
      · rw [h] at herror
        cases herror
        exact hall
    refine ⟨u, .inr ⟨wake, h, fun q hq ↦ ?_⟩, ?_⟩
    · rcases List.mem_append.1 hq with hq | hq
      · exact hall q (List.mem_append_left _ hq)
      · rcases List.mem_cons.1 hq with rfl | hq
        · exact .inr rfl
        · exact hall q (List.mem_append_right _ (List.mem_cons_of_mem _ hq))
    · rw [← houtcome]
      simp only [outcome, List.length_append, List.length_cons]

theorem Run.outcome_eq {n : Nat} (h : c.Run n d) (hc : c.Gathered t) (hend : d.waiting = []) :
    (d.admitted.map Prod.snd, d.window) = c.outcome t := by
  induction h generalizing t with
  | done c => rw [outcome, hend, List.length_nil, acquireEach, List.append_nil]
  | step h hrest ih =>
    obtain ⟨u, hgathered, houtcome⟩ := h.outcome_eq hc
    rw [← houtcome]
    exact ih hgathered hend

theorem Run.perm {n : Nat} (h : c.Run n d) :
    (d.waiting.map Prod.fst ++ d.admitted.map Prod.fst).Perm
      (c.waiting.map Prod.fst ++ c.admitted.map Prod.fst) := by
  induction h with
  | done c => exact List.Perm.refl _
  | step h hrest ih => exact ih.trans h.perm

theorem gathered_start (w : Window) (requests : List ι) (t : Nat) :
    (start w requests t).Gathered t := by
  refine .inl fun q hq ↦ ?_
  obtain ⟨i, -, rfl⟩ := List.mem_map.1 hq
  rfl

theorem outcome_start (w : Window) (requests : List ι) (t : Nat) :
    (start w requests t).outcome t = w.acquireEach t requests.length := by
  rw [outcome, start, List.length_map, List.map_nil, List.nil_append]

/-- However the requests try, in the end each of them has been admitted, at the moments of the
queue, and the window is the one that the queue leaves. -/
theorem Run.eq_acquireEach {requests : List ι} {n : Nat} (h : (start w requests t).Run n d)
    (hend : d.waiting = []) :
    (d.admitted.map Prod.fst).Perm requests ∧
      d.admitted.map Prod.snd = (w.acquireEach t requests.length).1 ∧
      d.window = (w.acquireEach t requests.length).2 := by
  have hperm := h.perm
  have houtcome := h.outcome_eq (gathered_start w requests t) hend
  rw [outcome_start] at houtcome
  refine ⟨?_, congrArg Prod.fst houtcome, congrArg Prod.snd houtcome⟩
  simpa [hend, start, Function.comp_def] using hperm

end Crowd

/-- A request on its own is admitted when the queue says. -/
theorem Queued.eq_acquireEach {requests : List ι} {admitted : List (ι × Nat)}
    (h : Queued w t requests admitted w') :
    admitted.map Prod.fst = requests ∧
      (admitted.map Prod.snd, w') = w.acquireEach t requests.length := by
  induction h with
  | done w t => exact ⟨rfl, rfl⟩
  | @next w w' w'' i requests t t' n admitted hfirst hrest ih =>
    obtain ⟨-, htime, hwindow⟩ := hfirst.eq_acquireEach rfl
    obtain ⟨hnames, hqueue⟩ := ih
    obtain rfl : t' = (w.acquire t).1 := List.singleton_inj.1 htime
    obtain rfl : w' = (w.acquire t).2 := hwindow
    refine ⟨congrArg (i :: ·) hnames, ?_⟩
    rw [List.length_cons, acquireEach_succ, ← hqueue]
    rfl

theorem exists_queued (w : Window) (t : Nat) (requests : List ι) :
    ∃ admitted w', Queued w t requests admitted w' := by
  induction requests generalizing w t with
  | nil => exact ⟨[], w, .done w t⟩
  | cons i requests ih =>
    obtain ⟨n, ⟨w', waiting, admitted⟩, hrun, hend⟩ := (Crowd.start w [i] t).exists_run
    obtain ⟨hnames, htimes, -⟩ := hrun.eq_acquireEach hend
    obtain ⟨⟨j, t'⟩, rfl⟩ := List.length_eq_one_iff.1 (by simpa using hnames.length_eq)
    obtain rfl : j = i := by simpa using hnames
    obtain rfl : waiting = [] := hend
    obtain ⟨admitted, w'', hrest⟩ := ih w' t'
    exact ⟨_, w'', .next hrun hrest⟩

/-- **Requests that wait together are admitted like requests in a queue.**  Let some requests come
at a moment `t`, to whatever window.

1. If they come together they try no more than so often, and as long as one of them waits one can
   try.  So each of them is admitted after it has waited a number of times.
2. In whatever order they try that are due at the same moment, in the end each of them has been
   admitted once, in the order of the moments `acquireEach` lists, and the window is the one it
   leaves.
3. If they come one after the other and each of them tries until it is admitted, it is at the same
   moments, and the same window is left.
4. So it is when they try round by round.
5. Without a limit these moments are all `t`.
6. Under a limit let `s` be the start of the window that `t` falls into and `a` the number of
   requests it still admits; when there is none let `s` be `t` and `a` all permits.  Then the first
   `a` requests are admitted at `t`, and each window that follows admits as many as it can. -/
theorem raceAsQueue (w : Window) (t : Nat) (requests : List ι) :
    let n := requests.length
    let queue := w.acquireEach t n
    (∀ k c, (Crowd.start w requests t).Run k c →
      k ≤ n * (n + 2) ∧ (c.waiting ≠ [] → ∃ d, c.Step d)) ∧
    (∀ k c, (Crowd.start w requests t).Run k c → c.waiting = [] →
      (c.admitted.map Prod.fst).Perm requests ∧ c.admitted.map Prod.snd = queue.1 ∧
        c.window = queue.2) ∧
    ((∃ admitted w', Queued w t requests admitted w') ∧
      ∀ admitted w', Queued w t requests admitted w' → (admitted.map Prod.snd, w') = queue) ∧
    w.race t n = queue ∧ queue.1.Pairwise (· ≤ ·) ∧
    (w.isEnabled = false → queue.1 = List.replicate n t) ∧
    (w.isEnabled = true →
      let s := if w.inPeriod t then w.start.getD t else t
      let a := if w.inPeriod t then w.permits - w.issued else w.permits
      queue.1 = (List.range n).map fun k ↦
        if k < a then t else s + w.period * (1 + (k - a) / w.permits)) := by
  intro n queue
  refine ⟨fun k c hrun ↦ ⟨?bound, Crowd.exists_step⟩, fun k c hrun hend ↦ hrun.eq_acquireEach hend,
    ⟨exists_queued w t requests, fun admitted w' h ↦ h.eq_acquireEach.2⟩,
    raceFrom_eq (.inl (Nat.lt_succ_self n)), (pairwise_acquireEach w t n).1, fun h ↦ ?disabled,
    fun h ↦ acquireEach_fst h t n⟩
  case bound =>
    have hweight := hrun.add_weight_le
    have hearly := (Crowd.start w requests t).early_le
    have hlength : (Crowd.start w requests t).waiting.length = n := List.length_map _
    have hsquare : n * (n + 2) = n * (n + 1) + n := Nat.mul_succ ..
    have hstart : (Crowd.start w requests t).weight
        = n * (n + 1) + (Crowd.start w requests t).early := by rw [Crowd.weight, hlength]
    omega
  case disabled => rw [show queue = _ from acquireEach_of_disabled h t n]

/-- The limit has been lowered below what the window has admitted.  Two requests are admitted in
each window that follows, whichever they are. -/
theorem raceAsQueue_lowered :
    let w : Window := ⟨2, 10, some 3, 4⟩
    w.race 5 5 = ([13, 13, 23, 23, 33], ⟨2, 10, some 33, 1⟩) ∧
    (∃ k c, (Crowd.start w "abcde".toList 5).Run k c ∧ k ≤ 35 ∧
      c.admitted.map Prod.snd = [13, 13, 23, 23, 33]) ∧
    (w.acquireEach 5 5).1 =
      (List.range 5).map fun k ↦ if k < 0 then 5 else 3 + 10 * (1 + k / 2) := by
  intro w
  obtain ⟨hbound, hruns, -, hrace, -, -, hslots⟩ := raceAsQueue w 5 "abcde".toList
  obtain ⟨k, c, hrun, hend⟩ := (Crowd.start w "abcde".toList 5).exists_run
  obtain ⟨-, htimes, -⟩ := hruns k c hrun hend
  exact ⟨by decide +kernel, ⟨k, c, hrun, (hbound k c hrun).1, htimes.trans (by decide +kernel)⟩,
    hslots rfl⟩

end SourceHost.Window
