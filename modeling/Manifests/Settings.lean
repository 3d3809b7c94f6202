import Manifests.Dict
import Manifests.Files.Disk
import Manifests.LogLevel
import Manifests.Problem
import Manifests.Settings.Json
import Manifests.Settings.Toml
import Manifests.Settings.Yaml
import Manifests.Text.Lossy

/-! Settings and the files that they come from. -/

namespace Manifests

/-- What a conversion goes by where the command line is silent. -/
structure ConvertSettings where
  controller : Option String := none
  provider : String := "kubernetes"
  groupMode : Option String := none
  volumes : String := "persistentVolumeClaim"
  networkPolicies : Bool := false
  claimSize : String := "100Mi"
  namespaceName : Option String := none
  json : Bool := false
deriving DecidableEq

structure Settings where
  logLevel : LogLevel := .info
  convert : ConvertSettings := {}
deriving DecidableEq

namespace SettingValue

/-- A part of a section, which gives its parts by name or in order. -/
def part? (place : Nat) (name : String) : SettingValue → Option SettingValue
  | table fields => fields.lookup name
  | list items => items[place]?
  | _ => none

def isSection : SettingValue → Bool
  | table _ | list _ => true
  | _ => false

/-- A part that may be missing. -/
def orDefault {α : Type} (read : SettingValue → Option α) (default : α)
    (v : Option SettingValue) : Option α :=
  match v with
  | none => some default
  | some v => read v

def optionalText? : SettingValue → Option (Option String)
  | nothing => some none
  | v => v.text?.map some

/-- The name of a level, also as the only name in a table. -/
def logLevel? : SettingValue → Option LogLevel
  | text s => LogLevel.ofName? s
  | table [(name, _)] => LogLevel.ofName? name
  | _ => none

end SettingValue

open SettingValue

def ConvertSettings.ofValue? (v : SettingValue) : Option ConvertSettings :=
  if !v.isSection then none
  else do
    let default : ConvertSettings := {}
    return {
      controller := ← orDefault optionalText? none (v.part? 0 "controller")
      provider := ← orDefault text? default.provider (v.part? 1 "provider")
      groupMode := ← orDefault optionalText? none (v.part? 2 "service_group_mode")
      volumes := ← orDefault text? default.volumes (v.part? 3 "volumes")
      networkPolicies := ← orDefault flag? false (v.part? 4 "generate_network_policies")
      claimSize := ← orDefault text? default.claimSize (v.part? 5 "pvc_request_size")
      namespaceName := ← orDefault optionalText? none (v.part? 6 "namespace")
      json := ← orDefault flag? false (v.part? 7 "json") }

/-- The formats of settings by the extensions of their files. -/
def settingsFormats : List (String × (String → Option SettingValue)) :=
  [("yaml", Yaml.settings?), ("yml", Yaml.settings?), ("json", Json.settings?),
    ("toml", Toml.settings?)]

namespace Settings

def ofValue? (v : SettingValue) : Option Settings := do
  let level ← orDefault logLevel? .info (v.fields.lookup "log_level")
  return ⟨level, ← orDefault ConvertSettings.ofValue? {} (v.fields.lookup "convert")⟩

/-- A file of settings and the way to read it. -/
structure Source where
  bytes : ByteArray
  read : String → Option SettingValue

def Source.ofFile? (path : String) (bytes : ByteArray) : Option Source := do
  return ⟨bytes, ← settingsFormats.lookup (← Path.extension? path)⟩

/-- Lays the tables of a file over what there is. -/
def Source.laidOver? (v : SettingValue) (s : Source) : Option SettingValue :=
  match s.read (Text.lossy s.bytes) with
  | some (.table fields) => some (v.withFile (.table fields))
  | _ => none

variable {m : Type → Type} [Monad m] [Disk m]

/-- The file of a name. If there is none of just that name, extensions are tried behind it. -/
def source? (name : String) : m (Option Source) := do
  match ← Disk.bytes? name with
  | some bytes => return Source.ofFile? name bytes
  | none =>
    settingsFormats.findSomeM? fun (extension, read) => do
      return (← Disk.bytes? (name ++ "." ++ extension)).map (⟨·, read⟩)

/-- The names of the files besides the root, those in force last. -/
def names (root mode : String) : List String :=
  ["config", "config/default", "config." ++ mode, Path.join root "config"]

def malformed : Fault := .settings "a settings file is malformed"

/-- The settings in the root, if that is a file, and in files that are known by name. -/
def load (environment : Dict String) (root : String) : ExceptT Fault m Settings := do
  let first ←
    match ← (Disk.fetch root : m _) with
    | .error _ => throw (.runtime "unable to canonicalize root directory")
    | .ok none => pure []
    | .ok (some bytes) =>
      match Source.ofFile? root bytes with
      | some source => pure [source]
      | none => throw malformed
  let mode := (environment.get? "RUN_MODE").getD "development"
  let more ← (names root mode).filterMapM fun name => (source? name : m _)
  match ((first ++ more).foldlM Source.laidOver? (.table [])).bind ofValue? with
  | some settings => return settings
  | none => throw malformed

end Settings

end Manifests
