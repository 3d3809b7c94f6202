import Manifests.Failure
import Manifests.Name
import Manifests.ObjectList
import Manifests.PodStep

/-! Services that run in the network of another service. -/

namespace Manifests

/-- The containers of the source run in the workload of the target. -/
structure Join where
  source : String
  target : String
deriving DecidableEq

namespace Join

/-- The service behind the first colon, where the mode speaks of one. -/
def targetOf (networkMode : String) : Option String :=
  if Text.contains "service:".toList networkMode.toList then
    match Text.pieces ':' networkMode.toList with
    | _ :: target :: _ => filled (some (.ofList (Text.trim target)))
    | _ => none
  else none

/-- The join that a service of the given name declares. -/
def ofService (name : String) (s : Service) : Option Join :=
  (targetOf s.networkMode).map fun target => ⟨resourceName name, resourceName target⟩

def ofServices (services : Dict Service) : List Join :=
  services.entries.filterMap fun e => ofService e.1 e.2

/-- Where a workload goes: the last join of it counts. -/
def next? (joins : List Join) (name : String) : Option String :=
  (joins.reverse.find? (·.source = name)).map (·.target)

/-- Follows joins of joins until a workload stays or comes up again. Returns the workloads passed
on the way as well; there are never more of them than joins. -/
def walk (joins : List Join) : Nat → List String → String → List String × String
  | 0, passed, name => (passed, name)
  | n + 1, passed, name =>
    match next? joins name with
    | none => (passed, name)
    | some next =>
      if name ∈ passed then (passed, name) else walk joins n (passed ++ [name]) next

def kindOf (objects : List Object) (name : String) : String :=
  ((ObjectList.workload? name objects).map Object.kind).getD WorkloadKind.deployment.name

/-- The join to the workload that remains in the end; a circle has none. -/
def resolve (objects : List Object) (joins : List Join) (j : Join) : Except Failure Join :=
  let (passed, target) := walk joins joins.length [j.source] j.target
  if target ∈ passed then
    .error (.unsupportedMerge j.source (kindOf objects j.source) target (kindOf objects target))
  else .ok ⟨j.source, target⟩

def resolveAll (objects : List Object) (joins : List Join) : Except Failure (List Join) :=
  joins.mapM (resolve objects joins)

end Join

/-- Adds containers and volumes to a pod; a pod without volumes stays so if there are none. -/
def PodSpec.absorb (containers : List Container) (volumes : List Volume) (spec : PodSpec) :
    PodSpec :=
  { spec with
    containers := spec.containers ++ containers
    volumes :=
      if volumes = [] then spec.volumes
      else some (unionVolumes (spec.volumes.getD []) volumes) }

namespace Object

/-- Adds the pod of another workload to a deployment. -/
def absorb (source : Option PodSpec) (target : Object) : Object :=
  match target.specified with
  | controller c =>
    let pod := source.getD {}
    let spec := (c.template.spec.getD {}).absorb pod.containers (pod.volumes.getD [])
    controller { c with template := { c.template with spec := some spec } }
  | other => other

end Object

/-- Changes the first element that a test picks. -/
def changeFirstWhere {α : Type} (p : α → Bool) (f : α → α) : List α → List α
  | [] => []
  | a :: rest => if p a then f a :: rest else a :: changeFirstWhere p f rest

/-- The objects so far, and the keys of those whose pods have moved. -/
structure Merging where
  objects : List Object
  moved : List ObjectKey

namespace Merging

/-- Moves the pod of one join. A source without a workload of its own is passed over. -/
def step (m : Merging) (j : Join) : Except Failure Merging :=
  match ObjectList.workload? j.source m.objects with
  | none => .ok m
  | some source =>
    match ObjectList.workload? j.target m.objects with
    | none => .error (.mergeTargetMissing j.source j.target)
    | some target =>
      if source.isDeployment && target.isDeployment then
        .ok
          { objects := changeFirstWhere (fun o => o.isDeployment && o.name = j.target)
              (Object.absorb source.podSpec?) m.objects
            moved := m.moved ++ [source.key] }
      else
        .error (.unsupportedMerge source.name source.kind target.name target.kind)

/-- The joins in order. At a failure the pods moved before it stay where they are. -/
def run (m : Merging) : List Join → Attempt Merging
  | [] => ⟨m, none⟩
  | j :: rest =>
    match m.step j with
    | .ok m => m.run rest
    | .error failure => ⟨m, some failure⟩

end Merging

/-- Moves the pods of all joins and drops the workloads they came from. -/
def mergeJoins (objects : List Object) (services : Dict Service) : Attempt (List Object) :=
  match Join.resolveAll objects (Join.ofServices services) with
  | .error failure => ⟨objects, some failure⟩
  | .ok joins =>
    match Merging.run ⟨objects, []⟩ joins with
    | ⟨m, some failure⟩ => ⟨m.objects, some failure⟩
    | ⟨m, none⟩ => ⟨m.objects.filter fun o => !m.moved.contains o.key, none⟩

end Manifests
