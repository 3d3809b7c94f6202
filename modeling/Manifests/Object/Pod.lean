import Manifests.Object.Metadata

/-! Pods: containers, and what they share. -/

namespace Manifests

inductive EnvValue where
  | literal (value : String)
  /-- The entry of a config map. -/
  | reference (configMap key : String)
deriving DecidableEq

structure EnvVar where
  name : String
  value : EnvValue
deriving DecidableEq

structure ContainerPort where
  port : Int
  hostIp : Option String
  protocol : String
deriving DecidableEq

/-- How a probe is made. A manifest has a field for each of the ways and only one of them is ever
set, so a probe has one handler and cannot have two. -/
inductive ProbeHandler where
  | exec (command : List String)
  | httpGet (path : String) (port : Int)
  | tcpSocket (port : Int)
deriving DecidableEq

structure Probe where
  handler : ProbeHandler
  failureThreshold : Option Int := none
  initialDelay : Option Int := none
  period : Option Int := none
  timeout : Option Int := none
deriving DecidableEq

/-- What a container may do. Empty lists, false flags and absent ids leave the defaults alone. -/
structure ContainerSecurity where
  capAdd : List String := []
  capDrop : List String := []
  privileged : Bool := false
  readOnlyRoot : Bool := false
  group : Option Int := none
  user : Option Int := none
deriving DecidableEq

structure PodSecurity where
  fsGroup : Option Int := none
  supplementalGroups : List Int := []
deriving DecidableEq

structure VolumeMount where
  name : String
  path : String
  readOnly : Option Bool := none
  subPath : Option String := none
deriving DecidableEq

inductive VolumeSource where
  | emptyDir (medium : Option String)
  | hostPath (path : String)
  /-- A config map, or one key of it as the file of a given name. -/
  | configMap (name : String) (item : Option (String × String))
  | claim (name : String) (readOnly : Bool)
deriving DecidableEq

structure Volume where
  name : String
  source : VolumeSource
deriving DecidableEq

inductive PullPolicy where
  | always
  | never
  | ifNotPresent
deriving DecidableEq

inductive RestartPolicy where
  | always
  | never
  | onFailure
deriving DecidableEq

/-- What runs in a pod. Only for mounts it matters whether the list is absent or empty; the other
lists are never set without an element. -/
structure Container where
  name : String
  image : String
  command : List String := []
  args : List String := []
  workingDir : Option String := none
  env : List EnvVar := []
  envFrom : List String := []
  ports : List ContainerPort := []
  limits : Dict String := ∅
  requests : Dict String := ∅
  liveness : Option Probe := none
  readiness : Option Probe := none
  security : Option ContainerSecurity := none
  imagePullPolicy : Option PullPolicy := none
  stdin : Bool := false
  tty : Bool := false
  mounts : Option (List VolumeMount) := none
deriving DecidableEq

inductive Membership where
  | among
  | notAmong
deriving DecidableEq

/-- A node label that must, or must not, have a value. -/
structure NodeRequirement where
  key : String
  membership : Membership
  value : String
deriving DecidableEq

/-- Pods of a workload spread over the values of a node label. -/
structure SpreadConstraint where
  topologyKey : String
  maxSkew : Int
  selector : Dict String
deriving DecidableEq

/-- A pod. Only for secrets and volumes it matters whether the list is absent or empty. -/
structure PodSpec where
  affinity : List NodeRequirement := []
  containers : List Container := []
  hostPid : Bool := false
  hostname : Option String := none
  imagePullSecrets : Option (List String) := none
  initContainers : List Container := []
  restartPolicy : Option RestartPolicy := none
  security : Option PodSecurity := none
  serviceAccount : Option String := none
  subdomain : Option String := none
  gracePeriod : Option Int := none
  spread : List SpreadConstraint := []
  volumes : Option (List Volume) := none
deriving DecidableEq

structure PodTemplate where
  metadata : Option Metadata := none
  spec : Option PodSpec := none
deriving DecidableEq

structure Pod where
  metadata : Metadata
  spec : Option PodSpec
deriving DecidableEq

end Manifests
