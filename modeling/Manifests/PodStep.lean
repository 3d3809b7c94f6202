import Manifests.Command
import Manifests.Duration
import Manifests.Environment
import Manifests.FirstWins
import Manifests.Placement
import Manifests.Policy
import Manifests.Probe
import Manifests.Quantity
import Manifests.Security
import Manifests.ShellReference

/-! The steps by which the pod of a workload is put together. -/

namespace Manifests

namespace Service

variable (s : Service)

def containerImage : String := if s.image = "" then s.container else s.image

def containerArgs : List String :=
  s.args.map fun arg => .ofList (ShellReference.forCluster arg.toList)

/-- The container of a service, as far as no other step sets it. -/
def newContainer : Except Failure Container := do
  let liveness ← s.liveness.probe s.name
  let readiness ← s.readiness.probe s.name
  return {
    name := s.container
    image := s.containerImage
    command := s.command
    args := s.containerArgs
    workingDir := filled s.workingDir
    env := s.envVars
    envFrom := s.envFrom
    liveness
    readiness
    stdin := s.stdin
    tty := s.tty }

def containerPorts : List ContainerPort :=
  (firstOfEach (fun p : Port => (p.containerPort, p.protocolName)) s.ports).map fun p =>
    { port := p.containerPort, hostIp := filled p.hostIp, protocol := p.protocolName }

/-- The seconds a pod has to stop, where the text is a duration. -/
def gracePeriod? : Option Int := (filled s.stopGracePeriod).bind fun p => (Duration.seconds p).toOption

end Service

/-- Changes the first container of a name. -/
def changeFirst (name : String) (f : Container → Container) : List Container → List Container
  | [] => []
  | c :: rest => if c.name = name then f c :: rest else c :: changeFirst name f rest

def unionVolumes (l m : List Volume) : List Volume := unionBy Volume.name l m

def unionMounts (l m : List VolumeMount) : List VolumeMount := unionBy VolumeMount.path l m

namespace Container

def addMounts (mounts : List VolumeMount) (c : Container) : Container :=
  { c with mounts := nonempty? (unionMounts (c.mounts.getD []) mounts) }

end Container

namespace PodSpec

variable (spec : PodSpec)

/-- Changes the container of a service, if the pod has it. -/
def changeContainer (s : Service) (f : Container → Container) : PodSpec :=
  { spec with containers := changeFirst s.container f spec.containers }

def addContainer (c : Container) (secret : Option String) : PodSpec :=
  { spec with
    containers := spec.containers ++ [c]
    imagePullSecrets :=
      match secret with
      | some name => some (addNew id (spec.imagePullSecrets.getD []) name)
      | none => spec.imagePullSecrets }

def addVolumes (volumes : List Volume) : PodSpec :=
  { spec with volumes := nonempty? (unionVolumes (spec.volumes.getD []) volumes) }

end PodSpec

/-- One concern of a pod. -/
inductive PodStep where
  | addContainer
  | limits
  | requests
  | security
  | volumes (volumes : List Volume)
  | mounts (mounts : List VolumeMount)
  | ports
  | imagePullPolicy
  | restartPolicy
  | hostname
  | domainname
  | gracePeriod
  | serviceAccount (name : String)
  | spread
  | affinity
  | initContainers
deriving DecidableEq

namespace PodStep

/-- The service a step is about, and the workload that its pod will belong to. -/
structure Context where
  service : Service
  workload : String

/-- What a step makes of a pod. -/
def apply (ctx : Context) (spec : PodSpec) : PodStep → Except Failure PodSpec
  | addContainer => do
    return spec.addContainer (← ctx.service.newContainer) (filled ctx.service.imagePullSecret)
  | limits =>
    let s := ctx.service
    let limits := Quantity.resources s.memoryLimit s.cpuLimit (filled s.ephemeralLimit)
    .ok (if limits.isEmpty then spec else spec.changeContainer s ({ · with limits }))
  | requests =>
    let s := ctx.service
    let requests := Quantity.resources s.memoryReservation s.cpuReservation (filled s.ephemeralRequest)
    .ok (if requests.isEmpty then spec else spec.changeContainer s ({ · with requests }))
  | security =>
    let s := ctx.service
    let spec :=
      match s.containerSecurity with
      | some granted => spec.changeContainer s ({ · with security := some granted })
      | none => spec
    .ok { spec with
      security := s.podSecurity.or spec.security
      hostPid := spec.hostPid || s.pid == some "host" }
  | volumes added => .ok (spec.addVolumes added)
  | mounts added => .ok (spec.changeContainer ctx.service (·.addMounts added))
  | ports =>
    let ports := ctx.service.containerPorts
    .ok (if ports = [] then spec else spec.changeContainer ctx.service ({ · with ports }))
  | imagePullPolicy => do
    let imagePullPolicy ← PullPolicy.parse ctx.service.name ctx.service.imagePullPolicy
    return spec.changeContainer ctx.service ({ · with imagePullPolicy })
  | restartPolicy => do
    let policy ← RestartPolicy.parse ctx.service.name ctx.service.restart
    return { spec with restartPolicy := some policy }
  | hostname => .ok { spec with hostname := (filled ctx.service.hostname).or spec.hostname }
  | domainname => .ok { spec with subdomain := (filled ctx.service.domainname).or spec.subdomain }
  | gracePeriod => .ok { spec with gracePeriod := ctx.service.gracePeriod?.or spec.gracePeriod }
  | serviceAccount name => .ok { spec with serviceAccount := some name }
  | spread =>
    let spread := ctx.service.placement.spread ctx.workload
    .ok (if spread = [] then spec else { spec with spread })
  | affinity =>
    let affinity := ctx.service.placement.affinity
    .ok (if affinity = [] then spec else { spec with affinity })
  | initContainers =>
    .ok { spec with initContainers := spec.initContainers ++ ctx.service.initContainer?.toList }

end PodStep

/-- The steps in order; the first that fails ends the pod. -/
def PodSpec.append (ctx : PodStep.Context) (steps : List PodStep) (spec : PodSpec) :
    Except Failure PodSpec :=
  steps.foldlM (fun spec step => step.apply ctx spec) spec

end Manifests
