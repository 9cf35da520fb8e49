import SourceHost.Session.Basic

/-!
# Functions: settings

A guest remembers things between calls.  It names them by keys of its own, and sees only what is
stored for its source.
-/

set_option autoImplicit false

namespace SourceHost

/-- Why a setting is not to be had or cannot be stored. -/
inductive SettingStatus where
  | invalidKey
  | invalidValue
  | failedEncoding
  | failedDecoding
deriving DecidableEq, Repr

/-- The number for a reason. -/
def SettingStatus.code : SettingStatus → Int
  | invalidKey => -1
  | invalidValue => -2
  | failedEncoding => -3
  | failedDecoding => -4

namespace Session

/-- A setting is put into the arena, and its handle returned. -/
def getSetting (env : Environment) (s : Session) (keyPtr keyLength : Int) : Int × Session :=
  if keyPtr < 0 ∨ keyLength < 0 then (SettingStatus.invalidKey.code, s)
  else match s.textAt keyPtr keyLength with
    | .error _ => (SettingStatus.failedEncoding.code, s)
    | .ok key => match s.settings.get (Settings.fullKey env.config.sourceKey key) with
      | none => (SettingStatus.invalidValue.code, s)
      | some setting => match setting.encode with
        | .error _ => (SettingStatus.failedEncoding.code, s)
        | .ok data =>
          let (h, arena) := s.arena.store (.bytes data)
          (h, { s with arena })

/-- The setting of a kind at a place a guest names, or that there is to be none. -/
def settingAt (s : Session) (kind : SettingKind) (ptr : Int) : Except HostError (Option Setting) :=
  if kind = .absent then .ok none
  else do
    let data ← s.payloadAt ptr
    (kind.decode data).mapError .decode

/-- A setting is stored, or removed. -/
def setSetting (env : Environment) (s : Session) (keyPtr keyLength kind valuePtr : Int) :
    Int × Session :=
  if keyPtr < 0 ∨ keyLength < 0 then (SettingStatus.invalidKey.code, s)
  else match s.textAt keyPtr keyLength with
    | .error _ => (SettingStatus.failedDecoding.code, s)
    | .ok key => match SettingKind.ofSelector kind with
      | none => (SettingStatus.invalidValue.code, s)
      | some kind => match s.settingAt kind valuePtr with
        | .error _ => (SettingStatus.failedDecoding.code, s)
        | .ok setting =>
          let settings := s.settings.set (Settings.fullKey env.config.sourceKey key) setting
          (0, { s with settings })

end Session

end SourceHost
