import Manifests.Label
import Manifests.Object.Claim
import Manifests.Object.Pod

/-! The volumes that a service declares, as a cluster mounts them. -/

namespace Manifests

/-- A declared volume in all the places where it appears. -/
structure ProvidedVolume where
  mount : VolumeMount
  volume : Volume
  claim : Option Claim := none
  configMap : Option ConfigMap := none
deriving DecidableEq

/-- `ro` and `rox` share a volume for reading, `rwx` for writing. -/
def AccessMode.ofMode (mode : Option String) : AccessMode :=
  match mode.getD "" with
  | "ro" | "rox" => readOnlyMany
  | "rwx" => readWriteMany
  | "rwop" => readWriteOncePod
  | _ => readWriteOnce

/-- How the name of a volume without a name of its own ends. -/
def VolumeMode.suffix : VolumeMode → String
  | claim => "claim"
  | emptyDir => "empty"
  | hostPath => "hostpath"
  | configMap => "cm"

namespace DeclaredVolume

variable (v : DeclaredVolume)

/-- Sockets of the host are not mounted. -/
def isSocket : Bool := (v.host.map fun h => Text.endsWith ".sock".toList h.toList).getD false

/-- Configuration files go into a config map where others would be claimed. -/
def modeUnder (opt : Options) : VolumeMode :=
  if v.config.isSome ∧ opt.volumes = .claim then .configMap else opt.volumes

def claimNamed (name : String) (opt : Options) : Claim where
  metadata := { name := some name, labels := some (selectorLabels name) }
  accessMode := .ofMode v.mode
  size := (filled v.claimSize).getD opt.claimSize
  selector := (filled v.selectorValue).map (.singleton Label.volume)
  storageClass := filled v.storageClass

end DeclaredVolume

namespace ConfigContent

/-- The key of the file, when the content is one file. -/
def singleKey? (c : ConfigContent) : Option String :=
  match c.isDir, c.files.keys with
  | false, [file] => some (fileKey file)
  | _, _ => none

def data (c : ConfigContent) : Dict String :=
  .ofList (c.files.entries.map fun (file, body) => (fileKey file, body))

def configMap (c : ConfigContent) (name workload : String) : ConfigMap where
  metadata := { name := some name, labels := some (selectorLabels workload) }
  data := if c.data.isEmpty then none else some c.data

end ConfigContent

namespace Service

variable (s : Service) (workload : String) (opt : Options)

/-- Generated names start with the service, so services in one workload keep theirs apart. -/
def volumeStem : String := resourceName (if s.name = "" then workload else s.name)

def volumeName (v : DeclaredVolume) (i : Nat) : String :=
  match filled v.volumeName with
  | some name => resourceName name
  | none => s.volumeStem workload ++ "-" ++ (v.modeUnder opt).suffix ++ toString i

/-- The `i`th declared volume. A host path that is missing becomes an empty directory. -/
def provide (v : DeclaredVolume) (i : Nat) : ProvidedVolume :=
  let name := s.volumeName workload opt v i
  let mount : VolumeMount :=
    { name, path := v.container, readOnly := if v.isReadOnly then some true else none }
  match v.modeUnder opt with
  | .emptyDir => { mount, volume := ⟨name, .emptyDir none⟩ }
  | .hostPath =>
    match filled v.host with
    | some host => { mount, volume := ⟨name, .hostPath host⟩ }
    | none => { mount, volume := ⟨name, .emptyDir none⟩ }
  | .configMap =>
    let content := v.config.getD {}
    let item := content.singleKey?.map fun key => (key, baseName v.container)
    { mount :=
        { mount with
          subPath := item.map (·.2)
          readOnly := if v.config.isSome then some true else mount.readOnly }
      volume := ⟨name, .configMap name item⟩
      configMap := some (content.configMap name (resourceName workload)) }
  | .claim =>
    { mount
      volume := ⟨name, .claim name v.isReadOnly⟩
      claim := some (v.claimNamed name opt) }

/-- All declared volumes but sockets; a skipped volume keeps its number. -/
def providedVolumes : List ProvidedVolume :=
  (s.volumes.zipIdx.filter fun e => !e.1.isSocket).map fun (v, i) => s.provide workload opt v i

/-- Directories in memory, mounted at the paths before the first colons. -/
def memoryVolumes : List (VolumeMount × Volume) :=
  s.tmpfs.zipIdx.map fun (entry, i) =>
    let name := s.volumeStem workload ++ "-tmpfs" ++ toString i
    ({ name, path := .ofList (entry.toList.takeWhile (· ≠ ':')) },
      ⟨name, .emptyDir (some "Memory")⟩)

end Service

end Manifests
