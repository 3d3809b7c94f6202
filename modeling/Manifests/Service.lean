import Manifests.Dict
import Manifests.Text.Casing

/-! The services of an application, described without reference to a cluster. -/

namespace Manifests

/-- A file of environment variables, with the values read from it. -/
structure EnvFile where
  path : String := ""
  values : Dict String := ∅
deriving DecidableEq

structure Port where
  hostPort : Option Int := none
  containerPort : Int := 0
  protocol : Option String := none
  hostIp : Option String := none
deriving DecidableEq

structure HealthCheck where
  test : List String := []
  httpPath : Option String := none
  httpPort : Option Int := none
  tcpPort : Option Int := none
  timeout : Option Int := none
  interval : Option Int := none
  retries : Option Int := none
  startPeriod : Option Int := none
  disable : Bool := false
deriving DecidableEq

/-- The files behind a host path: one file, or the files of a directory. -/
structure ConfigContent where
  files : Dict String := ∅
  isDir : Bool := false
deriving DecidableEq

structure DeclaredVolume where
  volumeName : Option String := none
  host : Option String := none
  container : String := ""
  /-- An access mode: `ro`, `rw`, `rox`, `rwx`, `rwop` or `rwo`. -/
  mode : Option String := none
  claimSize : Option String := none
  storageClass : Option String := none
  selectorValue : Option String := none
  /-- Present when the host path holds configuration files. -/
  config : Option ConfigContent := none
deriving DecidableEq

structure Placement where
  constraints : List String := []
  preferences : List String := []
deriving DecidableEq

structure Service where
  name : String := ""
  containerName : Option String := none
  image : String := ""
  command : List String := []
  args : List String := []
  workingDir : Option String := none
  environment : Dict String := ∅
  envFiles : List EnvFile := []
  /-- Config maps that exist already. -/
  envFrom : List String := []
  ports : List Port := []
  liveness : HealthCheck := {}
  readiness : HealthCheck := {}
  /-- In thousandths of a processor. -/
  cpuLimit : Int := 0
  /-- In bytes. -/
  memoryLimit : Int := 0
  cpuReservation : Int := 0
  memoryReservation : Int := 0
  ephemeralLimit : Option String := none
  ephemeralRequest : Option String := none
  privileged : Bool := false
  user : Option String := none
  groupAdd : List Int := []
  fsGroup : Option Int := none
  readOnly : Bool := false
  capAdd : List String := []
  capDrop : List String := []
  pid : Option String := none
  volumes : List DeclaredVolume := []
  tmpfs : List String := []
  restart : String := ""
  networkMode : String := ""
  networks : List String := []
  labels : Dict String := ∅
  annotations : Dict String := ∅
  replicas : Option Int := none
  /-- The service shares a workload with others. -/
  inGroup : Bool := false
  imagePullPolicy : String := ""
  imagePullSecret : Option String := none
  hostname : Option String := none
  domainname : Option String := none
  stopGracePeriod : Option String := none
  stdin : Bool := false
  tty : Bool := false
  serviceType : String := ""
  placement : Placement := {}
deriving DecidableEq

/-- A text that is present and not empty. -/
def filled (s : Option String) : Option String := s.filter (· ≠ "")

/-- A number that is present and not zero. -/
def nonzero (n : Option Int) : Option Int := n.filter (· ≠ 0)

def Port.protocolName (p : Port) : String :=
  .ofList (Text.upper ((filled p.protocol).getD "TCP").toList)

namespace DeclaredVolume

/-- The volume or host path that a declaration names first. -/
def source (v : DeclaredVolume) : String := (v.volumeName.or v.host).getD ""

/-- The declaration in one line. -/
def fingerprint (v : DeclaredVolume) : String :=
  match filled v.mode with
  | some mode => v.source ++ ":" ++ v.container ++ ":" ++ mode
  | none => v.source ++ ":" ++ v.container

def isReadOnly (v : DeclaredVolume) : Bool := v.mode == some "ro" || v.mode == some "rox"

end DeclaredVolume

end Manifests
