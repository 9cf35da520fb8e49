import SourceHost.Proofs.Catalog.RoundTrip
import SourceHost.Proofs.Functions.AllOrNothing
import SourceHost.Proofs.Session.Calls
import SourceHost.Proofs.Settings.Isolation

/-!
# Settings are found as they were stored

A guest stores a setting as a kind and some bytes, and gets it back as bytes.  Data comes back as it
was given.  Everything else is read when it is stored and written when it is looked up, so that what
comes back is the form that the host gives the value, which need not be the one that the guest gave
it.

* `SettingKind.Reads`, `Setting.Writes` — which bytes are which setting in a kind, and which bytes
  are written for a setting, by the types of values that the wire carries.
* `SettingKind.rewrite` — what is written for a setting that was read is read as the same setting.
* `setSetting_cases`, `getSetting_of_textAt` — what comes of a call.
* `Follow` — calls that find the store as the one before has left it, as those of a script do.
* `SettingNote`, `lastNote` — what a guest has given when it last stored a setting under a key.
* `Follow.get_eq`, `Follow.written` — that is what the store holds under the key, and what is written
  for it.
* `settingsPersist` — so that is what the guest gets back.
-/

set_option autoImplicit false

namespace SourceHost

variable {env : Environment} {s t : Session}

/-! ## Kinds -/

/-- The number by which a guest names a kind. -/
def SettingKind.number : SettingKind → Int
  | data => 0
  | bool => 1
  | int => 2
  | float => 3
  | text => 4
  | texts => 5
  | absent => 6

theorem SettingKind.ofSelector_eq_some_iff {i : Int} {kind : SettingKind} :
    ofSelector i = some kind ↔ kind.number = i := by
  constructor
  · intro h
    unfold ofSelector at h
    split at h <;> first | (cases h; rfl) | cases h
  · rintro rfl
    cases kind <;> rfl

/-- In a kind, bytes are a setting: data is the bytes themselves, and in the other kinds the bytes
are, to their end, a value on the wire of the type that the kind stands for.  In the kind in which
nothing is given, no bytes are a setting. -/
inductive SettingKind.Reads : SettingKind → Bytes → Setting → Prop
  | data (b : Bytes) : Reads .data b (.data b)
  | bool {b : Bytes} {v : Bool} (h : Wired.decode b = .ok v) : Reads .bool b (.bool v)
  | int {b : Bytes} {v : Signed 32} (h : Wired.decode b = .ok v) : Reads .int b (.int v)
  | float {b : Bytes} {v : Single} (h : Wired.decode b = .ok v) : Reads .float b (.float v)
  | text {b : Bytes} {v : String} (h : Wired.decode b = .ok v) : Reads .text b (.text v)
  | texts {b : Bytes} {v : List String} (h : Wired.decode b = .ok v) : Reads .texts b (.texts v)

/-- A value that is read is the setting that it is wrapped in. -/
theorem map_wrap_eq_ok_iff {α : Type} {wrap : α → Setting} {r : Except WireError α}
    {v : Option Setting} : r.map (some ∘ wrap) = .ok v ↔ ∃ a, r = .ok a ∧ some (wrap a) = v := by
  cases r <;> simp [Except.map]

theorem SettingKind.decode_eq_ok_some_iff {kind : SettingKind} {b : Bytes} {v : Setting} :
    kind.decode b = .ok (some v) ↔ kind.Reads b v := by
  constructor
  · intro h
    cases kind with
    | data =>
      cases h
      exact .data b
    | bool | int | float | text | texts =>
      obtain ⟨a, ha, hv⟩ := map_wrap_eq_ok_iff.1 h
      cases hv
      constructor
      exact ha
    | absent => cases h
  · intro h
    cases h with
    | data => rfl
    | bool h | int h | float h | text h | texts h =>
      rw [decode, h]
      rfl

namespace WireLaws

theorem bool : WireLaws Bool id := of_isMapless rfl rfl (fun _ ↦ rfl) fun _ ↦ rfl

theorem int : WireLaws (Signed 32) id := of_isMapless rfl rfl (fun _ ↦ rfl) fun _ ↦ rfl

theorem float : WireLaws Single id := of_isMapless rfl rfl (fun _ ↦ rfl) fun _ ↦ rfl

/-- What is written for a value of a setting that was read is read as the same setting. -/
theorem rewrite_setting {α : Type} [Wired α] {bare : α → α} (h : WireLaws α bare)
    {wrap : α → Setting} (hwrap : ∀ a, (wrap a).encode = Wired.encode a) {b : Bytes} {v : Setting}
    (hb : (Wired.decode b).map (some ∘ wrap) = .ok (some v)) :
    ∃ c, v.encode = .ok c ∧ (Wired.decode c).map (some ∘ wrap) = .ok (some v) := by
  obtain ⟨a, ha, hv⟩ := map_wrap_eq_ok_iff.1 hb
  cases hv
  obtain ⟨c, hc, -, hread, -⟩ := h.rewrite ha
  exact ⟨c, (hwrap a).trans hc, map_wrap_eq_ok_iff.2 ⟨a, hread, rfl⟩⟩

end WireLaws

/-- What is written for a setting that was read is read as the same setting; data is written as it
was. -/
theorem SettingKind.rewrite {kind : SettingKind} {b : Bytes} {v : Setting}
    (h : kind.decode b = .ok (some v)) :
    ∃ c, v.encode = .ok c ∧ kind.decode c = .ok (some v) ∧ (kind = .data → c = b) := by
  have hrest (hexists : ∃ c, v.encode = .ok c ∧ kind.decode c = .ok (some v)) (hkind : kind ≠ .data) :
      ∃ c, v.encode = .ok c ∧ kind.decode c = .ok (some v) ∧ (kind = .data → c = b) := by
    obtain ⟨c, hc, hread⟩ := hexists
    exact ⟨c, hc, hread, fun heq ↦ absurd heq hkind⟩
  cases kind with
  | data =>
    cases h
    exact ⟨b, rfl, rfl, fun _ ↦ rfl⟩
  | bool => exact hrest (WireLaws.bool.rewrite_setting (fun _ ↦ rfl) h) nofun
  | int => exact hrest (WireLaws.int.rewrite_setting (fun _ ↦ rfl) h) nofun
  | float => exact hrest (WireLaws.float.rewrite_setting (fun _ ↦ rfl) h) nofun
  | text => exact hrest (WireLaws.text.rewrite_setting (fun _ ↦ rfl) h) nofun
  | texts => exact hrest ((WireLaws.text.list rfl).rewrite_setting (fun _ ↦ rfl) h) nofun
  | absent => cases h

/-- Every setting can be written. -/
theorem Setting.exists_encode (v : Setting) : ∃ data, v.encode = .ok data := by
  cases v with
  | data data => exact ⟨data, rfl⟩
  | bool value => exact WireLaws.bool.exists_encode value
  | int value => exact WireLaws.int.exists_encode value
  | float value => exact WireLaws.float.exists_encode value
  | text value => exact WireLaws.text.exists_encode value
  | texts values => exact (WireLaws.text.list rfl).exists_encode values

namespace Session

/-! ## What comes of a call -/

theorem nonneg_of_textAt {ptr length : Int} {key : String} (h : s.textAt ptr length = .ok key) :
    ¬(ptr < 0 ∨ length < 0) := by
  rintro (hptr | hlength)
  · rw [textAt, Memory.offset, if_neg (Int.not_le.2 hptr)] at h
    cases h
  · rw [textAt, Memory.offset, Memory.offset, if_neg (Int.not_le.2 hlength)] at h
    split at h <;> cases h

/-- A key can be read, and a setting of a kind, for a setting to be stored. -/
def Gives (s : Session) (keyPtr keyLength kind valuePtr : Int) (key : String) (k : SettingKind)
    (v : Option Setting) : Prop :=
  s.textAt keyPtr keyLength = .ok key ∧ SettingKind.ofSelector kind = some k ∧
    s.settingAt k valuePtr = .ok v

/-- A setting is stored if all that is needed can be read; otherwise nothing happens. -/
theorem setSetting_cases (env : Environment) (s : Session) (keyPtr keyLength kind valuePtr : Int) :
    (∃ key k v, s.Gives keyPtr keyLength kind valuePtr key k v ∧
      s.setSetting env keyPtr keyLength kind valuePtr =
        (0, s.withSettings (s.settings.set (Settings.fullKey env.config.sourceKey key) v))) ∨
    (∀ key k v, ¬s.Gives keyPtr keyLength kind valuePtr key k v) ∧
      ∃ code, code < 0 ∧ s.setSetting env keyPtr keyLength kind valuePtr = (code, s) := by
  rw [setSetting]
  cases htext : s.textAt keyPtr keyLength with
  | error e =>
    refine .inr ⟨fun key k v h ↦ ?_, ?_⟩
    · rw [Gives, htext] at h
      cases h.1
    · split
      · exact ⟨_, SettingStatus.code_neg _, rfl⟩
      · exact ⟨_, SettingStatus.code_neg _, rfl⟩
  | ok key =>
    rw [if_neg (nonneg_of_textAt htext)]
    cases hkind : SettingKind.ofSelector kind with
    | none =>
      refine .inr ⟨fun key k v h ↦ ?_, _, SettingStatus.code_neg _, rfl⟩
      rw [Gives, hkind] at h
      cases h.2.1
    | some k =>
      cases hvalue : s.settingAt k valuePtr with
      | error e =>
        refine .inr ⟨fun key' k' v h ↦ ?_, SettingStatus.failedDecoding.code,
          SettingStatus.code_neg _, ?_⟩
        · obtain rfl : k = k' := Option.some.inj (hkind.symm.trans h.2.1)
          rw [Gives, hvalue] at h
          cases h.2.2
        · simp only [hvalue]
      | ok v =>
        refine .inl ⟨key, k, v, ⟨htext, hkind, hvalue⟩, ?_⟩
        simp only [hvalue]
        rfl

end Session

open Session

/-! ## Notes -/

/-- What a guest has given when it stored a setting. -/
structure SettingNote where
  /-- Under which key. -/
  key : String
  /-- In which kind. -/
  kind : SettingKind
  /-- The bytes; there are none if no value is read. -/
  data : Bytes
deriving DecidableEq

/-- The setting that it is. -/
def SettingNote.setting (n : SettingNote) : Option Setting := (n.kind.decode n.data).toOption.join

/-- The bytes of a setting of a kind at a place a guest names. -/
def Session.givenAt (s : Session) (kind : SettingKind) (ptr : Int) : Bytes :=
  if kind = .absent then [] else (s.payloadAt ptr).toOption.getD []

/-- What is noted about a call: what was given, if it has stored a setting. -/
def HostCall.settingNote? (env : Environment) (c : HostCall) : Option SettingNote :=
  if c.function = .setSetting ∧ c.code? env = some 0 then do
    let key ← (c.before.textAt (c.arg 0) (c.arg 1)).toOption
    let kind ← SettingKind.ofSelector (c.arg 2)
    some { key, kind, data := c.before.givenAt kind (c.arg 3) }
  else none

/-- What was noted last about a key. -/
def lastNote (env : Environment) (key : String) (cs : List HostCall) : Option SettingNote :=
  ((cs.filterMap (·.settingNote? env)).filter (·.key = key)).getLast?

/-- Each call finds the store as the one before it has left it. -/
def Follow (env : Environment) : Settings → List HostCall → Prop
  | _, [] => True
  | store, c :: cs => c.before.settings = store ∧ Follow env (c.after env).settings cs

/-- The calls of a script do, wherever the script begins. -/
theorem Chain.follow {cs : List HostCall} (h : Chain env s cs t) : Follow env s.settings cs := by
  induction h with
  | done => trivial
  | call h _ ih => exact ⟨h.settings, ih⟩

namespace HostCall

variable {c : HostCall}

/-- A setting can be stored when its bytes are there and are one of its kind. -/
theorem settingAt_eq_ok_iff {kind : SettingKind} {ptr : Int} {v : Option Setting}
    (hkind : kind ≠ .absent) : s.settingAt kind ptr = .ok v ↔
      ∃ data, s.payloadAt ptr = .ok data ∧ kind.decode data = .ok v := by
  rw [settingAt, if_neg hkind]
  cases s.payloadAt ptr with
  | error e => simp [bind, Except.bind]
  | ok data => cases hdecode : kind.decode data <;> simp [bind, Except.bind, Except.mapError, hdecode]

theorem decode_givenAt {kind : SettingKind} {ptr : Int} {v : Option Setting}
    (h : s.settingAt kind ptr = .ok v) : kind.decode (s.givenAt kind ptr) = .ok v := by
  rw [givenAt]
  by_cases hkind : kind = .absent
  · rw [settingAt, if_pos hkind] at h
    cases h
    rw [hkind]
    rfl
  · obtain ⟨data, hdata, hdecode⟩ := (settingAt_eq_ok_iff hkind).1 h
    rw [if_neg hkind, hdata]
    exact hdecode

/-- What a call to store a setting comes to. -/
theorem set_cases (env : Environment) (hc : c.function = .setSetting) :
    (∃ key k v, c.before.Gives (c.arg 0) (c.arg 1) (c.arg 2) (c.arg 3) key k v ∧
      c.code? env = some 0 ∧ c.after env =
        c.before.withSettings (c.before.settings.set (Settings.fullKey env.config.sourceKey key) v)) ∨
    (∀ key k v, ¬c.before.Gives (c.arg 0) (c.arg 1) (c.arg 2) (c.arg 3) key k v) ∧
      c.code? env ≠ some 0 ∧ c.after env = c.before := by
  obtain ⟨f, arguments, s⟩ := c
  obtain rfl : f = .setSetting := hc
  rcases setSetting_cases env s (arguments.getD 0 0) (arguments.getD 1 0) (arguments.getD 2 0)
    (arguments.getD 3 0) with ⟨key, k, v, hgives, hset⟩ | ⟨hnone, code, hcode, hset⟩
  · exact .inl ⟨key, k, v, hgives, returns_of_run (by simp only [HostFunction.run, hset])⟩
  · obtain ⟨hreturned, hafter⟩ := @returns_of_run env .setSetting arguments s s code
      (by simp only [HostFunction.run, hset])
    refine .inr ⟨hnone, ?_, hafter⟩
    rw [hreturned]
    exact mt Option.some.inj (Int.ne_of_lt hcode)

/-- What is noted about a call is what it has done to the store. -/
theorem get_after (c : HostCall) (key : String) :
    (c.after env).settings.get (Settings.fullKey env.config.sourceKey key) =
      match (c.settingNote? env).filter (·.key = key) with
      | some n => n.setting
      | none => c.before.settings.get (Settings.fullKey env.config.sourceKey key) := by
  by_cases hc : c.function = .setSetting
  · rcases c.set_cases env hc with ⟨k, kind, v, ⟨htext, hkind, hvalue⟩, hcode, hafter⟩ |
      ⟨-, hcode, hafter⟩
    · have hnote : c.settingNote? env = some ⟨k, kind, c.before.givenAt kind (c.arg 3)⟩ := by
        rw [settingNote?, if_pos ⟨hc, hcode⟩, htext, hkind]
        rfl
      have hsetting : SettingNote.setting ⟨k, kind, c.before.givenAt kind (c.arg 3)⟩ = v := by
        rw [SettingNote.setting, decode_givenAt hvalue]
        rfl
      rw [hnote, hafter, settings_withSettings, Settings.get_set, Option.filter_some]
      by_cases hkey : key = k
      · rw [if_pos (Settings.fullKey_inj.2 hkey), if_pos (decide_eq_true hkey.symm)]
        exact hsetting.symm
      · rw [if_neg (mt Settings.fullKey_inj.1 hkey), if_neg (by simp [Ne.symm hkey])]
    · rw [hafter, settingNote?, if_neg fun h ↦ hcode h.2]
      rfl
  · rw [settingNote?, if_neg fun h ↦ hc h.1, after, (HostFunction.run_leaves _ _).settings hc]
    rfl

end HostCall

theorem lastNote_cons (key : String) (c : HostCall) (cs : List HostCall) :
    lastNote env key (c :: cs) =
      (lastNote env key cs).or ((c.settingNote? env).filter (·.key = key)) := by
  rw [lastNote, List.filterMap_cons, lastNote]
  cases c.settingNote? env with
  | none => exact Option.or_none.symm
  | some n =>
    dsimp only
    rw [List.filter_cons, Option.filter_some]
    split
    · rw [List.getLast?_cons]
      cases (List.filter _ _).getLast? <;> rfl
    · exact Option.or_none.symm

/-- **What the store holds under a key is what was last given for it.** -/
theorem Follow.get_eq {store : Settings} {earlier later : List HostCall} {c : HostCall}
    (h : Follow env store (earlier ++ c :: later)) (key : String) :
    c.before.settings.get (Settings.fullKey env.config.sourceKey key) =
      match lastNote env key earlier with
      | some n => n.setting
      | none => store.get (Settings.fullKey env.config.sourceKey key) := by
  induction earlier generalizing store with
  | nil =>
    rw [h.1]
    rfl
  | cons d earlier ih =>
    rw [ih h.2, d.get_after key, h.1, lastNote_cons]
    cases lastNote env key earlier with
    | some n => rfl
    | none => rfl

theorem SettingKind.exists_of_decode {kind : SettingKind} {b : Bytes} {v : Option Setting}
    (h : kind.decode b = .ok v) (hkind : kind ≠ .absent) : ∃ w, v = some w := by
  cases kind with
  | data =>
    cases h
    exact ⟨_, rfl⟩
  | bool | int | float | text | texts =>
    obtain ⟨a, -, ha⟩ := map_wrap_eq_ok_iff.1 h
    exact ⟨_, ha.symm⟩
  | absent => contradiction

/-- What is noted about a key can be read as a setting of its kind. -/
theorem exists_decode_of_lastNote {key : String} {cs : List HostCall} {n : SettingNote}
    (h : lastNote env key cs = some n) : ∃ v, n.kind.decode n.data = .ok v := by
  obtain ⟨c, -, hc⟩ := List.mem_filterMap.1 (List.mem_of_mem_filter (List.mem_of_getLast? h))
  rw [HostCall.settingNote?] at hc
  split at hc
  · rename_i hset
    rcases c.set_cases env hset.1 with ⟨k, kind, v, ⟨htext, hkind, hvalue⟩, -⟩ | ⟨-, hcode, -⟩
    · rw [htext, hkind] at hc
      obtain rfl := Option.some.inj hc
      exact ⟨v, HostCall.decode_givenAt hvalue⟩
    · exact absurd hset.2 hcode
  · cases hc

/-- What is written for the setting under a key is the form that the host gives to the value which was
given last. -/
theorem Follow.written {store : Settings} {earlier later : List HostCall} {c : HostCall}
    {key : String} {n : SettingNote} {v : Setting} {data : Bytes}
    (h : Follow env store (earlier ++ c :: later)) (hn : lastNote env key earlier = some n)
    (hv : c.before.settings.get (Settings.fullKey env.config.sourceKey key) = some v)
    (hdata : v.encode = .ok data) :
    (n.kind = .data → data = n.data) ∧ n.kind.Reads n.data v ∧ n.kind.Reads data v := by
  obtain ⟨w, hw⟩ := exists_decode_of_lastNote hn
  have hget := h.get_eq key
  rw [hn, hv] at hget
  dsimp only at hget
  rw [SettingNote.setting, hw] at hget
  obtain rfl : w = some v := hget.symm
  obtain ⟨bytes, hbytes, hread, hraw⟩ := SettingKind.rewrite hw
  obtain rfl : bytes = data := Except.ok.inj (hbytes.symm.trans hdata)
  exact ⟨hraw, SettingKind.decode_eq_ok_some_iff.1 hw, SettingKind.decode_eq_ok_some_iff.1 hread⟩

/-- What is given for a setting: nothing, in the kind for that, and bytes that are the setting in
any other kind. -/
theorem Session.Gives.value {keyPtr keyLength kind valuePtr : Int} {key : String} {k : SettingKind}
    {v : Option Setting} (h : s.Gives keyPtr keyLength kind valuePtr key k v) :
    kind = 6 ∧ v = none ∨ ∃ data w, k.number = kind ∧ s.payloadAt valuePtr = .ok data ∧
      k.Reads data w ∧ v = some w := by
  obtain ⟨-, hkind, hvalue⟩ := h
  have hnumber := SettingKind.ofSelector_eq_some_iff.1 hkind
  by_cases habsent : k = .absent
  · rw [settingAt, if_pos habsent] at hvalue
    rw [habsent] at hnumber
    exact .inl ⟨hnumber.symm, (Except.ok.inj hvalue).symm⟩
  · obtain ⟨data, hdata, hdecode⟩ := (HostCall.settingAt_eq_ok_iff habsent).1 hvalue
    obtain ⟨w, rfl⟩ := SettingKind.exists_of_decode hdecode habsent
    exact .inr ⟨data, w, hnumber, hdata, SettingKind.decode_eq_ok_some_iff.1 hdecode, rfl⟩

end SourceHost
