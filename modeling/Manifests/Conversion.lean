import Manifests.Autoscaling
import Manifests.Exposure
import Manifests.Group
import Manifests.Join
import Manifests.Volumes
import Manifests.Workload

/-! Services into objects. -/

namespace Manifests

/-- The services that one workload is made for. -/
structure WorkloadUnit where
  name : String
  members : List Service
deriving DecidableEq

namespace WorkloadUnit

/-- A stateful set claims volumes by itself. -/
def embedsClaims (kind : WorkloadKind) (opt : Options) : Bool :=
  kind = .statefulSet && opt.volumes != .configMap

def isClaim (v : Volume) : Bool :=
  match v.source with
  | .claim .. => true
  | _ => false

/-- The declared volumes that the pod itself has. -/
def keptVolumes (workload : String) (kind : WorkloadKind) (opt : Options) (s : Service) :
    List Volume :=
  let volumes := (s.providedVolumes workload opt).map (·.volume)
  if embedsClaims kind opt then volumes.filter (!isClaim ·) else volumes

/-- All that goes into a pod for one of its services. -/
def steps (workload : String) (kind : WorkloadKind) (opt : Options) (s : Service) :
    List PodStep :=
  let memory := s.memoryVolumes workload
  [.addContainer, .limits, .requests, .security, .ports, .imagePullPolicy, .restartPolicy,
    .hostname, .domainname, .gracePeriod, .affinity, .spread, .initContainers,
    .volumes (keptVolumes workload kind opt s),
    .mounts ((s.providedVolumes workload opt).map (·.mount)),
    .volumes (memory.map (·.2)), .mounts (memory.map (·.1))] ++
  ((filled (s.labels.get? Label.serviceAccount)).map PodStep.serviceAccount).toList

/-- Adds a service to a pod; a failure names the service. -/
def addService (workload : String) (kind : WorkloadKind) (opt : Options) (spec : PodSpec)
    (s : Service) : Except Failure PodSpec :=
  (spec.append ⟨s, workload⟩ (steps workload kind opt s)).mapError (·.inService s.name)

/-- What stands beside the workload for one of its services. -/
def siblings (workload : String) (kind : WorkloadKind) (opt : Options) (s : Service) :
    List Object :=
  let declared := s.providedVolumes workload opt
  (s.fronts workload).map .service ++
  s.envMaps.map .configMap ++
  (declared.filterMap (·.configMap)).map .configMap ++
  (if embedsClaims kind opt then [] else (declared.filterMap (·.claim)).map .claim) ++
  (if opt.networkPolicies then s.networks.map fun n => .networkPolicy (networkPolicy n) else [])

/-- Labels and pod of a filled template. -/
def fillTemplate (labels : Dict String) (spec : PodSpec) (t : PodTemplate) :
    Attempt PodTemplate :=
  let metadata := t.metadata.getD {}
  ⟨{ metadata := some { metadata with labels := some ((metadata.labels.getD ∅).union labels) }
     spec := some spec }, none⟩

def annotate (annotations : Dict String) (m : Metadata) : Metadata :=
  if annotations.isEmpty then m else { m with annotations := some annotations }

/-- The services as the chosen kind of workload runs them. -/
def servicesUnder (u : WorkloadUnit) (kind : WorkloadKind) : List Service :=
  u.members.map (·.underKind kind)

/-- The pod of all services. -/
def podSpec (u : WorkloadUnit) (kind : WorkloadKind) (opt : Options) : Except Failure PodSpec :=
  (u.servicesUnder kind).foldlM (addService u.name kind opt) {}

/-- The first service with a label for an autoscaler, where the workload can have one. -/
def autoscaled? (u : WorkloadUnit) (kind : WorkloadKind) : Option Service :=
  if kind.isScalable then u.members.find? fun s => ScaleValues.areAsked s.labels else none

/-- The claims that the workload makes by itself. -/
def claims (u : WorkloadUnit) (kind : WorkloadKind) (opt : Options) : List Claim :=
  if embedsClaims kind opt then
    (u.servicesUnder kind).flatMap fun s => (s.providedVolumes u.name opt).filterMap (·.claim)
  else []

/-- The workload around a finished pod. The first service decides on it. -/
def workload (u : WorkloadUnit) (primary : Service) (kind : WorkloadKind) (opt : Options)
    (spec : PodSpec) : Attempt Object :=
  let services := u.servicesUnder kind
  let networks := firstOfEach id (services.flatMap (·.networks))
  let annotations := services.foldl (fun d s => d.union s.annotations) ∅
  let replicas := if (u.autoscaled? kind).isSome then some 0 else primary.replicas
  let filled :=
    (Object.newWorkload kind u.name primary replicas opt).fill
      (fillTemplate (podLabels u.name networks opt) spec) (annotate annotations)
  { filled with
    left :=
      if services.any (·.volumes ≠ []) then filled.left.recreating.claiming (u.claims kind opt)
      else filled.left }

/-- The workload of a unit and the objects beside it. -/
def convert (u : WorkloadUnit) (opt : Options) : Except Failure (List Object) :=
  match u.members with
  | [] => .ok []
  | primary :: _ => do
    let kind := WorkloadKind.choose primary opt
    let spec ← u.podSpec kind opt
    let made := u.workload primary kind opt spec
    if let some failure := made.failure then
      throw (failure.inService primary.name)
    let scaling := (u.autoscaled? kind).map fun s =>
      Object.autoscaler (autoscaler u.name made.left.kind made.left.apiVersion s.labels)
    return made.left :: (u.servicesUnder kind).flatMap (siblings u.name kind opt) ++ scaling.toList

end WorkloadUnit

/-- The groups, and then the services on their own. -/
def unitsOf (services : Dict Service) (mode : Option String) : List WorkloadUnit :=
  (groupsOf services mode).map (fun g => ⟨g.name, g.members⟩) ++
    ((enrolled services mode).values.filter (!·.inGroup)).map fun s => ⟨resourceName s.name, [s]⟩

/-- The services under the names that they are kept by. -/
def keyed (services : Dict Service) : Dict Service :=
  services.map fun key s => { s with name := key }

/-- All objects in their namespace, each of them once, and in order. -/
def arranged (opt : Options) (objects : List Object) : List Object :=
  let placed :=
    match filled opt.namespaceName with
    | some name => ObjectList.inNamespace name objects
    | none => objects
  ObjectList.servicesFirst (ObjectList.distinct placed)

/-- All objects for the services of an application. -/
def convert (services : Dict Service) (opt : Options) : Except Failure (List Object) := do
  let named := keyed services
  let objects ← (unitsOf named opt.groupMode).mapM (·.convert opt)
  let merged := mergeJoins objects.flatten (enrolled named opt.groupMode)
  if let some failure := merged.failure then throw failure
  return arranged opt merged.left

end Manifests
