import Mathlib.Data.List.Basic
import Mathlib.Logic.Function.Basic
import SourceHost.Functions.Settings

/-!
# Whose settings are whose

All sources share one store.  A setting stands under the key of its source, a dot, and the key that
the guest has chosen.  Both can have dots of their own, so that a source comes upon the settings of
another if the key of the one is that of the other with a dot and something more.  It is the only
way in which it can.

* `fullKey_eq_fullKey` — when two settings stand under the same key.
* `Settings.Apart` — two sources never name the same key.
* `SettingsCall.act_cases` — a call looks at no key of the store, or at one, or changes one.
* `SeesAlike`, `SeesAlike.run` — what a source has seen, and what it can see, after a run in which
  others use the store too.
* `settingsIsolation` — what a source sees depends on what it has done itself and on nothing else,
  if all the others are apart from it.
* `settings_mixed_up` — otherwise a source may be given what another has stored.
-/

set_option autoImplicit false

namespace SourceHost

/-! ## Keys -/

/-- Two lists are parted by a letter; they are the same when they are parted at the same place, or
when one has the letter at the place of the other, too. -/
theorem append_cons_eq_append_cons {α : Type} (c : α) (s k t l : List α) :
    s ++ c :: k = t ++ c :: l ↔ (s = t ∧ k = l) ∨ (∃ m, t = s ++ c :: m ∧ k = m ++ c :: l) ∨
      ∃ m, s = t ++ c :: m ∧ l = m ++ c :: k := by
  rw [List.append_eq_append_iff]
  constructor
  · rintro (⟨m, rfl, hk⟩ | ⟨m, rfl, hl⟩)
    · cases m with
      | nil => exact .inl ⟨(List.append_nil s).symm, (List.cons.inj hk).2⟩
      | cons x m =>
        obtain ⟨rfl, rfl⟩ := List.cons.inj hk
        exact .inr (.inl ⟨m, rfl, rfl⟩)
    · cases m with
      | nil => exact .inl ⟨List.append_nil t, (List.cons.inj hl).2.symm⟩
      | cons x m =>
        obtain ⟨rfl, rfl⟩ := List.cons.inj hl
        exact .inr (.inr ⟨m, rfl, rfl⟩)
  · rintro (⟨rfl, rfl⟩ | ⟨m, rfl, rfl⟩ | ⟨m, rfl, rfl⟩)
    · exact .inl ⟨[], by simp⟩
    · exact .inl ⟨c :: m, by simp⟩
    · exact .inr ⟨c :: m, by simp⟩

namespace Settings

theorem toList_fullKey (s k : String) : (fullKey s k).toList = s.toList ++ '.' :: k.toList := by
  simp [fullKey]

/-- A key is another one with a dot and something more. -/
theorem eq_fullKey_iff (t s k : String) :
    t = fullKey s k ↔ t.toList = s.toList ++ '.' :: k.toList := by
  rw [← toList_fullKey, String.toList_inj]

theorem exists_eq_fullKey (t s k l : String) :
    (∃ m, t = fullKey s m ∧ k = fullKey m l) ↔
      ∃ m, t.toList = s.toList ++ '.' :: m ∧ k.toList = m ++ '.' :: l.toList := by
  simp only [eq_fullKey_iff]
  constructor
  · rintro ⟨m, hm⟩
    exact ⟨m.toList, hm⟩
  · rintro ⟨m, hm⟩
    exact ⟨String.ofList m, by simpa using hm⟩

/-- **When two settings stand under the same key.** -/
theorem fullKey_eq_fullKey (s k t l : String) : fullKey s k = fullKey t l ↔
    (s = t ∧ k = l) ∨ (∃ m, t = fullKey s m ∧ k = fullKey m l) ∨
      ∃ m, s = fullKey t m ∧ l = fullKey m k := by
  rw [← String.toList_inj, toList_fullKey, toList_fullKey, append_cons_eq_append_cons,
    exists_eq_fullKey, exists_eq_fullKey, String.toList_inj, String.toList_inj]

/-- Two sources are apart: neither has the key of the other, nor that with a dot and more. -/
def Apart (s t : String) : Prop := s ≠ t ∧ (∀ m, t ≠ fullKey s m) ∧ ∀ m, s ≠ fullKey t m

theorem exists_fullKey_iff (s t : String) :
    (∃ m, t = fullKey s m) ↔ s.toList ++ ['.'] <+: t.toList := by
  simp only [eq_fullKey_iff]
  constructor
  · rintro ⟨m, hm⟩
    exact ⟨m.toList, by simp [hm]⟩
  · rintro ⟨m, hm⟩
    exact ⟨String.ofList m, by simp [← hm]⟩

instance (s t : String) : Decidable (Apart s t) :=
  decidable_of_iff (s ≠ t ∧ ¬s.toList ++ ['.'] <+: t.toList ∧ ¬t.toList ++ ['.'] <+: s.toList) <| by
    rw [Apart, ← exists_fullKey_iff, ← exists_fullKey_iff, not_exists, not_exists]

/-- Sources are apart when no setting of the one stands under the key of a setting of the other. -/
theorem apart_iff (s t : String) : Apart s t ↔ ∀ k l, fullKey s k ≠ fullKey t l := by
  constructor
  · rintro ⟨hne, hright, hleft⟩ k l heq
    rcases (fullKey_eq_fullKey s k t l).1 heq with ⟨h, -⟩ | ⟨m, h, -⟩ | ⟨m, h, -⟩
    · exact hne h
    · exact hright m h
    · exact hleft m h
  · refine fun h ↦ ⟨?_, fun m hm ↦ ?_, fun m hm ↦ ?_⟩
    · rintro rfl
      exact h "" "" rfl
    · exact h (fullKey m "") "" ((fullKey_eq_fullKey s _ t _).2 (.inr (.inl ⟨m, hm, rfl⟩)))
    · exact h "" (fullKey m "") ((fullKey_eq_fullKey s _ t _).2 (.inr (.inr ⟨m, hm, rfl⟩)))

theorem fullKey_inj {s k l : String} : fullKey s k = fullKey s l ↔ k = l := by
  rw [← String.toList_inj, toList_fullKey, toList_fullKey, List.append_cancel_left_eq,
    List.cons.injEq, String.toList_inj]
  exact and_iff_right rfl

theorem get_set (store : Settings) (key other : String) (setting : Option Setting) :
    (store.set key setting).get other = if other = key then setting else store.get other := by
  cases setting <;> by_cases h : other = key <;>
    simp [set, get, h, Std.ExtTreeMap.getElem?_insert, Std.ExtTreeMap.getElem?_erase, Ne.symm]

/-- Two stores hold the same settings of a source. -/
def Agree (sourceKey : String) (a b : Settings) : Prop :=
  ∀ key, a.get (fullKey sourceKey key) = b.get (fullKey sourceKey key)

end Settings

/-! ## Calls -/

namespace Session

/-- A session with a store. -/
def withSettings (s : Session) (store : Settings) : Session := { s with settings := store }

theorem settings_withSettings (s : Session) (store : Settings) :
    (s.withSettings store).settings = store := rfl

theorem textAt_withSettings (s : Session) (store : Settings) (ptr length : Int) :
    (s.withSettings store).textAt ptr length = s.textAt ptr length := rfl

theorem settingAt_withSettings (s : Session) (store : Settings) (kind : SettingKind) (ptr : Int) :
    (s.withSettings store).settingAt kind ptr = s.settingAt kind ptr := rfl

end Session

/-- A call to one of the two functions for settings. -/
inductive SettingsCall where
  /-- A setting is looked up. -/
  | get (keyPtr keyLength : Int)
  /-- A setting is stored, or removed. -/
  | set (keyPtr keyLength kind valuePtr : Int)

namespace SettingsCall

/-- What is returned, and the session afterwards. -/
def run (env : Environment) (s : Session) : SettingsCall → Int × Session
  | get keyPtr keyLength => s.getSetting env keyPtr keyLength
  | set keyPtr keyLength kind valuePtr => s.setSetting env keyPtr keyLength kind valuePtr

/-- What a source sees of a call, which is what is returned and its own session, and the store. -/
def part (r : Int × Session) : (Int × Session) × Settings :=
  ((r.1, r.2.withSettings ∅), r.2.settings)

/-- A call of a source that shares a store. -/
def act (env : Environment) (s : Session) (call : SettingsCall) (store : Settings) :
    (Int × Session) × Settings :=
  part (call.run env (s.withSettings store))

/-- What a source sees when it has looked a setting up. -/
def shown (s : Session) : Option Setting → Int × Session
  | none => (SettingStatus.invalidValue.code, s.withSettings ∅)
  | some setting => match setting.encode with
    | .error _ => (SettingStatus.failedEncoding.code, s.withSettings ∅)
    | .ok data =>
      let (h, arena) := s.arena.store (.bytes data)
      (h, { s.withSettings ∅ with arena })

variable {env : Environment} {s : Session} {call : SettingsCall}

/-- All that a call can do: it does not look at the store, or looks at one setting of its source and
changes nothing, or changes one. -/
theorem act_cases (env : Environment) (s : Session) (call : SettingsCall) :
    (∃ code, ∀ store, call.act env s store = ((code, s.withSettings ∅), store)) ∨
    (∃ key, ∀ store, call.act env s store =
      (shown s (store.get (Settings.fullKey env.config.sourceKey key)), store)) ∨
    ∃ key setting, ∀ store, call.act env s store =
      ((0, s.withSettings ∅), store.set (Settings.fullKey env.config.sourceKey key) setting) := by
  cases call with
  | get keyPtr keyLength =>
    by_cases hnegative : keyPtr < 0 ∨ keyLength < 0
    · refine .inl ⟨SettingStatus.invalidKey.code, fun store ↦ ?_⟩
      rw [act, run, Session.getSetting, if_pos hnegative]
      rfl
    · rcases htext : s.textAt keyPtr keyLength with _ | key
      · refine .inl ⟨SettingStatus.failedEncoding.code, fun store ↦ ?_⟩
        rw [act, run, Session.getSetting, if_neg hnegative, Session.textAt_withSettings, htext]
        rfl
      · refine .inr (.inl ⟨key, fun store ↦ ?_⟩)
        simp only [act, run, Session.getSetting, if_neg hnegative, Session.textAt_withSettings,
          htext, Session.settings_withSettings]
        rcases store.get (Settings.fullKey env.config.sourceKey key) with _ | setting
        · rfl
        · simp only [shown]
          rcases setting.encode with _ | data <;> rfl
  | set keyPtr keyLength kind valuePtr =>
    by_cases hnegative : keyPtr < 0 ∨ keyLength < 0
    · refine .inl ⟨SettingStatus.invalidKey.code, fun store ↦ ?_⟩
      rw [act, run, Session.setSetting, if_pos hnegative]
      rfl
    · rcases htext : s.textAt keyPtr keyLength with _ | key
      · refine .inl ⟨SettingStatus.failedDecoding.code, fun store ↦ ?_⟩
        rw [act, run, Session.setSetting, if_neg hnegative, Session.textAt_withSettings, htext]
        rfl
      · rcases hkind : SettingKind.ofSelector kind with _ | kind
        · refine .inl ⟨SettingStatus.invalidValue.code, fun store ↦ ?_⟩
          simp only [act, run, Session.setSetting, if_neg hnegative, Session.textAt_withSettings,
            htext, hkind]
          rfl
        · rcases hsetting : s.settingAt kind valuePtr with _ | setting
          · refine .inl ⟨SettingStatus.failedDecoding.code, fun store ↦ ?_⟩
            simp only [act, run, Session.setSetting, if_neg hnegative, Session.textAt_withSettings,
              htext, hkind, Session.settingAt_withSettings, hsetting]
            rfl
          · refine .inr (.inr ⟨key, setting, fun store ↦ ?_⟩)
            simp only [act, run, Session.setSetting, if_neg hnegative, Session.textAt_withSettings,
              htext, hkind, Session.settingAt_withSettings, hsetting]
            rfl

/-- A source sees of a store nothing but its own settings. -/
theorem act_congr {a b : Settings} (h : Settings.Agree env.config.sourceKey a b) :
    (call.act env s a).1 = (call.act env s b).1 ∧
      Settings.Agree env.config.sourceKey (call.act env s a).2 (call.act env s b).2 := by
  rcases act_cases env s call with ⟨code, hact⟩ | ⟨key, hact⟩ | ⟨key, setting, hact⟩
  · rw [hact, hact]
    exact ⟨rfl, h⟩
  · rw [hact, hact, h key]
    exact ⟨rfl, h⟩
  · rw [hact, hact]
    refine ⟨rfl, fun other ↦ ?_⟩
    rw [Settings.get_set, Settings.get_set, h other]

/-- The settings of sources that are apart from it are left as they are. -/
theorem agree_act {other : String} (h : Settings.Apart other env.config.sourceKey)
    (store : Settings) : Settings.Agree other store (call.act env s store).2 := by
  rcases act_cases env s call with ⟨code, hact⟩ | ⟨key, hact⟩ | ⟨key, setting, hact⟩
  · rw [hact]
    exact fun _ ↦ rfl
  · rw [hact]
    exact fun _ ↦ rfl
  · rw [hact]
    intro k
    rw [Settings.get_set, if_neg ((Settings.apart_iff _ _).1 h k key)]

end SettingsCall

/-! ## Sources that share a store -/

/-- A source that uses the store.  Which call it makes next, and what it has in its session then,
may depend on all that it has seen. -/
structure Client where
  /-- What has been decided about the source. -/
  env : Environment
  /-- What it does after it has seen something. -/
  next : (seen : List (Int × Session)) → Session × SettingsCall

/-- A store in use. -/
structure Usage (ι : Type) where
  /-- The store. -/
  store : Settings := ∅
  /-- What each source has seen. -/
  seen : ι → List (Int × Session) := fun _ ↦ []

namespace Usage

variable {ι : Type}

/-- A source has seen the same, and what it can see is the same. -/
structure SeesAlike (sourceKey : String) (i : ι) (u u' : Usage ι) : Prop where
  /-- What it has seen. -/
  seen : u.seen i = u'.seen i
  /-- What it can see. -/
  store : Settings.Agree sourceKey u.store u'.store

variable {u u' : Usage ι} {i : ι}

theorem SeesAlike.refl (sourceKey : String) (i : ι) (u : Usage ι) : SeesAlike sourceKey i u u :=
  ⟨rfl, fun _ ↦ rfl⟩

theorem SeesAlike.symm {sourceKey : String} (h : SeesAlike sourceKey i u u') :
    SeesAlike sourceKey i u' u := ⟨h.seen.symm, fun key ↦ (h.store key).symm⟩

theorem SeesAlike.trans {sourceKey : String} {u'' : Usage ι} (h : SeesAlike sourceKey i u u')
    (h' : SeesAlike sourceKey i u' u'') : SeesAlike sourceKey i u u'' :=
  ⟨h.seen.trans h'.seen, fun key ↦ (h.store key).trans (h'.store key)⟩

variable [DecidableEq ι] {clients clients' : ι → Client}

/-- One of the sources makes a call. -/
def turn (clients : ι → Client) (u : Usage ι) (i : ι) : Usage ι :=
  let (s, call) := (clients i).next (u.seen i)
  let (seen, store) := call.act (clients i).env s u.store
  { store, seen := Function.update u.seen i (u.seen i ++ [seen]) }

/-- The sources make calls, in some order. -/
def run (clients : ι → Client) (u : Usage ι) (schedule : List ι) : Usage ι :=
  schedule.foldl (turn clients) u

/-- A source that makes a call makes the same call and sees the same. -/
theorem SeesAlike.turn (hi : clients i = clients' i)
    (h : SeesAlike (clients i).env.config.sourceKey i u u') :
    SeesAlike (clients i).env.config.sourceKey i (u.turn clients i) (u'.turn clients' i) := by
  obtain ⟨hact, hstore⟩ := @SettingsCall.act_congr (clients i).env ((clients i).next (u.seen i)).1
    ((clients i).next (u.seen i)).2 _ _ h.store
  refine ⟨?_, ?_⟩
  · simp only [Usage.turn, Function.update_self, ← hi, ← h.seen, hact]
  · simpa only [Usage.turn, ← hi, ← h.seen] using hstore

/-- A source does not see the calls of those that are apart from it. -/
theorem seesAlike_turn {j : ι} (hj : j ≠ i) {sourceKey : String}
    (hapart : Settings.Apart sourceKey (clients j).env.config.sourceKey) (u : Usage ι) :
    SeesAlike sourceKey i u (u.turn clients j) :=
  ⟨(Function.update_of_ne hj.symm _ _).symm, SettingsCall.agree_act hapart u.store⟩

/-- What a source sees in a run it sees as well if nobody makes a call but the source itself. -/
theorem SeesAlike.run (hi : clients i = clients' i)
    (hapart : ∀ j ≠ i, Settings.Apart (clients i).env.config.sourceKey
      (clients j).env.config.sourceKey)
    (h : SeesAlike (clients i).env.config.sourceKey i u u') (schedule : List ι) :
    SeesAlike (clients i).env.config.sourceKey i (u.run clients schedule)
      (u'.run clients' (List.replicate (schedule.count i) i)) := by
  induction schedule generalizing u u' with
  | nil => exact h
  | cons j schedule ih =>
    by_cases hj : j = i
    · subst hj
      rw [List.count_cons_self, List.replicate_succ]
      exact ih (h.turn hi)
    · rw [List.count_cons_of_ne hj]
      exact ih ((seesAlike_turn hj (hapart j hj) u).symm.trans h)

end Usage

/-- **Whose settings are whose.**

1. Two settings stand under the same key when both the sources and their keys are the same, and when
   the key of one source is that of the other with a dot and something more, which then is missing
   from the key of the setting.
2. So sources are apart exactly when they never name the same key; a setting that is stored is found
   under its own key, and no other setting of the source or of one apart from it has changed.
3. What a source has seen, and what it can see, are the same in any two runs in which it is apart
   from all the others and makes as many calls: whoever they are, whatever they do, and whenever it
   is their turn. -/
theorem settingsIsolation {ι : Type} [DecidableEq ι] :
    (∀ s k t l, Settings.fullKey s k = Settings.fullKey t l ↔ (s = t ∧ k = l) ∨
      (∃ m, t = Settings.fullKey s m ∧ k = Settings.fullKey m l) ∨
      ∃ m, s = Settings.fullKey t m ∧ l = Settings.fullKey m k) ∧
    (∀ s t, (Settings.Apart s t ↔ ∀ k l, Settings.fullKey s k ≠ Settings.fullKey t l) ∧
      ∀ (store : Settings) (setting : Option Setting) (k l : String), s = t ∨ Settings.Apart s t →
        (store.set (Settings.fullKey s k) setting).get (Settings.fullKey t l) =
          if s = t ∧ k = l then setting else store.get (Settings.fullKey t l)) ∧
    ∀ (i : ι) (clients clients' : ι → Client) (u u' : Usage ι) (schedule schedule' : List ι),
      clients i = clients' i →
      (∀ j ≠ i, Settings.Apart (clients i).env.config.sourceKey
        (clients j).env.config.sourceKey) →
      (∀ j ≠ i, Settings.Apart (clients' i).env.config.sourceKey
        (clients' j).env.config.sourceKey) →
      u.SeesAlike (clients i).env.config.sourceKey i u' →
      schedule.count i = schedule'.count i →
      (u.run clients schedule).SeesAlike (clients i).env.config.sourceKey i
        (u'.run clients' schedule') := by
  refine ⟨Settings.fullKey_eq_fullKey, fun s t ↦ ⟨Settings.apart_iff s t, ?_⟩, ?_⟩
  · intro store setting k l hst
    rw [Settings.get_set]
    rcases hst with rfl | hapart
    · simp [Settings.fullKey_inj, eq_comm]
    · rw [if_neg ((Settings.apart_iff s t).1 hapart k l).symm, if_neg fun h ↦ hapart.1 h.1]
  · intro i clients clients' u u' schedule schedule' hi hapart hapart' halike hcount
    -- both runs are compared with the one in which the source is alone
    have hleft := Usage.SeesAlike.run hi hapart halike schedule
    have hright := Usage.SeesAlike.run rfl hapart' (.refl _ i u') schedule'
    rw [hcount] at hleft
    rw [← hi] at hright
    exact hleft.trans hright.symm

/-- A source that looks up one setting all the time, after it has stored the text `de` there or
not. -/
def Client.looking (sourceKey key : String) (stores : Bool) : Client where
  env :=
    { config := { sourceKey }, web := fun _ _ ↦ .refusal "nobody is there", zones := fun _ ↦ none }
  next seen :=
    let memory := (Memory.ofPages 1).put 0 (Utf8.encode key)
    ({ memory := memory.put 64 (Memory.payloadFrame [2, 100, 101]) },
      if stores && seen.isEmpty then .set 0 (Utf8.encode key).length 4 64
      else .get 0 (Utf8.encode key).length)

/-- A source is given what it has stored, though another one uses the same key. -/
theorem settingsIsolation_apart :
    let clients : Bool → Client
      | true => .looking "en.here" "lang" true
      | false => .looking "en.there" "lang" true
    ((Usage.run clients {} [true, false, true, false]).seen true).map (·.1) = [0, 1] := by
  intro clients
  have hapart : ∀ j ≠ true, Settings.Apart (clients true).env.config.sourceKey
      (clients j).env.config.sourceKey := by decide +kernel
  have halike := settingsIsolation.2.2 true clients clients {} {} [true, false, true, false]
    [true, true] rfl hapart hapart (.refl _ _ _) rfl
  rw [halike.seen]
  decide +kernel

/-- **A source may be given what another has stored.**  The source `en.example` stores a text under
`lang`, and `en` looks up `example.lang`, where it has stored nothing: it is told that there is
nothing if it is alone, and is given the text if the other one has been there before. -/
theorem settings_mixed_up :
    let clients : Bool → Client
      | true => .looking "en" "example.lang" false
      | false => .looking "en.example" "lang" true
    (clients true).env.config.sourceKey ≠ (clients false).env.config.sourceKey ∧
      Settings.fullKey "en" "example.lang" = Settings.fullKey "en.example" "lang" ∧
      ((Usage.run clients {} [true]).seen true).map (·.1) = [-2] ∧
      ((Usage.run clients {} [false, true]).seen true).map (·.1) = [1] := by
  decide +kernel

end SourceHost
