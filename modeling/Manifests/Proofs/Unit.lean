import Manifests.Conversion
import Manifests.Proofs.Dict
import Manifests.Proofs.PodSteps

/-! The pod and the workload of one unit. -/
namespace Manifests

section Steps

variable {ctx : PodStep.Context} {steps : List PodStep} {spec spec' : PodSpec}

theorem cores_append (h : spec.append ctx steps = .ok spec') :
    spec'.cores = spec.cores ++ steps.flatMap (PodStep.addedCores ctx.service) := by
  rw [foldlM_observed PodSpec.cores (fun cs step => cs ++ step.addedCores ctx.service)
    (fun _ _ _ => PodStep.cores_apply) h, List.foldl_append_eq_append]
  rfl

theorem volumeList_append (h : spec.append ctx steps = .ok spec') :
    spec'.volumeList = unionVolumes spec.volumeList (steps.flatMap PodStep.addedVolumes) := by
  rw [foldlM_observed PodSpec.volumeList (fun vs step => unionVolumes vs step.addedVolumes)
    (fun _ _ _ => PodStep.volumeList_apply) h]
  exact foldl_unionBy

theorem mem_mounts_append {m : VolumeMount} (h : spec.append ctx steps = .ok spec')
    (hm : m ∈ spec'.mounts) : m ∈ spec.mounts ∨ m ∈ steps.flatMap PodStep.addedMounts :=
  foldlM_gathered PodSpec.mounts PodStep.addedMounts
    (fun _ _ _ h _ hm => PodStep.mem_mounts_apply h hm) h hm

theorem secretList_append (h : spec.append ctx steps = .ok spec') :
    spec'.secretList =
      unionBy id spec.secretList (steps.flatMap (PodStep.addedSecrets ctx.service)) := by
  rw [foldlM_observed PodSpec.secretList
    (fun secrets step => unionBy id secrets (step.addedSecrets ctx.service))
    (fun _ _ _ => PodStep.secretList_apply) h]
  exact foldl_unionBy

theorem initContainers_append (h : spec.append ctx steps = .ok spec') :
    spec'.initContainers =
      spec.initContainers ++ steps.flatMap (PodStep.addedInits ctx.service) := by
  rw [foldlM_observed PodSpec.initContainers
    (fun cs step => cs ++ step.addedInits ctx.service)
    (fun _ _ _ => PodStep.initContainers_apply) h, List.foldl_append_eq_append]
  rfl

end Steps

namespace WorkloadUnit

/-- The volumes that a service brings to its pod. -/
def podVolumes (workload : String) (kind : WorkloadKind) (opt : Options) (s : Service) :
    List Volume :=
  keptVolumes workload kind opt s ++ (s.memoryVolumes workload).map (·.2)

/-- The mounts that a service asks for. -/
def podMounts (workload : String) (opt : Options) (s : Service) : List VolumeMount :=
  (s.providedVolumes workload opt).map (·.mount) ++ (s.memoryVolumes workload).map (·.1)

variable {u : WorkloadUnit} {kind : WorkloadKind} {opt : Options} {workload : String}
  {s : Service} {spec spec' : PodSpec}

theorem addedCores_steps :
    (steps workload kind opt s).flatMap (PodStep.addedCores s) = [s.core] := by
  rw [steps]
  cases filled (s.labels.get? Label.serviceAccount) <;> rfl

theorem addedVolumes_steps :
    (steps workload kind opt s).flatMap PodStep.addedVolumes = podVolumes workload kind opt s := by
  rw [steps, podVolumes]
  cases filled (s.labels.get? Label.serviceAccount) <;> simp [PodStep.addedVolumes]

theorem addedMounts_steps (kind : WorkloadKind) :
    (steps workload kind opt s).flatMap PodStep.addedMounts = podMounts workload opt s := by
  rw [steps, podMounts]
  cases filled (s.labels.get? Label.serviceAccount) <;> simp [PodStep.addedMounts]

theorem addedSecrets_steps : (steps workload kind opt s).flatMap (PodStep.addedSecrets s) =
    (filled s.imagePullSecret).toList := by
  rw [steps]
  cases filled (s.labels.get? Label.serviceAccount) <;> simp [PodStep.addedSecrets]

theorem addedInits_steps :
    (steps workload kind opt s).flatMap (PodStep.addedInits s) = s.initContainer?.toList := by
  rw [steps]
  cases filled (s.labels.get? Label.serviceAccount) <;> simp [PodStep.addedInits]

theorem cores_addService (h : addService workload kind opt spec s = .ok spec') :
    spec'.cores = spec.cores ++ [s.core] := by
  rw [cores_append (mapError_ok h), addedCores_steps]

theorem volumeList_addService (h : addService workload kind opt spec s = .ok spec') :
    spec'.volumeList = unionVolumes spec.volumeList (podVolumes workload kind opt s) := by
  rw [volumeList_append (mapError_ok h), addedVolumes_steps]

theorem mem_mounts_addService {m : VolumeMount}
    (h : addService workload kind opt spec s = .ok spec') (hm : m ∈ spec'.mounts) :
    m ∈ spec.mounts ∨ m ∈ podMounts workload opt s := by
  rw [← addedMounts_steps kind]
  exact mem_mounts_append (mapError_ok h) hm

theorem secretList_addService (h : addService workload kind opt spec s = .ok spec') :
    spec'.secretList = unionBy id spec.secretList (filled s.imagePullSecret).toList := by
  rw [secretList_append (mapError_ok h), addedSecrets_steps]

theorem initContainers_addService (h : addService workload kind opt spec s = .ok spec') :
    spec'.initContainers = spec.initContainers ++ s.initContainer?.toList := by
  rw [initContainers_append (mapError_ok h), addedInits_steps]

/-- A controller changes nothing but the restart policy. -/
theorem underKind_observed {α : Type} (obs : Service → α)
    (h : ∀ restart, obs { s with restart } = obs s) : obs (s.underKind kind) = obs s := by
  rw [Service.underKind]
  split
  · exact h _
  · rfl

/-- What a controller leaves alone can be told of the services as they are. -/
theorem flatMap_servicesUnder {α : Type} (obs : Service → List α)
    (h : ∀ s restart, obs { s with restart } = obs s) :
    (u.servicesUnder kind).flatMap obs = u.members.flatMap obs := by
  rw [servicesUnder, List.flatMap_map]
  congr 1
  funext s
  exact underKind_observed obs fun restart => h s restart

/-- One container for each service, in order. -/
theorem cores_podSpec (h : u.podSpec kind opt = .ok spec) :
    spec.cores = u.members.map Service.core := by
  rw [foldlM_observed PodSpec.cores (fun cs s => cs ++ [s.core])
    (fun _ _ _ => cores_addService) h, List.foldl_append_eq_append, ← List.flatMap_def,
    flatMap_servicesUnder _ fun _ _ => rfl, ← List.map_eq_flatMap]
  rfl

/-- The volumes of all services, the first of each name. -/
theorem volumeList_podSpec (h : u.podSpec kind opt = .ok spec) :
    spec.volumeList =
      firstOfEach Volume.name ((u.servicesUnder kind).flatMap (podVolumes u.name kind opt)) := by
  rw [foldlM_observed PodSpec.volumeList
    (fun vs s => unionVolumes vs (podVolumes u.name kind opt s))
    (fun _ _ _ => volumeList_addService) h]
  exact foldl_unionBy

theorem mem_mounts_podSpec {m : VolumeMount} (h : u.podSpec kind opt = .ok spec)
    (hm : m ∈ spec.mounts) : m ∈ (u.servicesUnder kind).flatMap (podMounts u.name opt) := by
  have hgathered := foldlM_gathered PodSpec.mounts (podMounts u.name opt)
    (fun _ _ _ h _ hm => mem_mounts_addService h hm) h hm
  simpa [PodSpec.mounts] using hgathered

/-- The secrets that the services of a unit have their images pulled with. -/
def pullSecrets (u : WorkloadUnit) : List String :=
  firstOfEach id (u.members.flatMap fun s => (filled s.imagePullSecret).toList)

/-- The containers that run before those of a unit. -/
def initContainers (u : WorkloadUnit) : List Container :=
  u.members.flatMap (·.initContainer?.toList)

theorem secretList_podSpec (h : u.podSpec kind opt = .ok spec) :
    spec.secretList = u.pullSecrets := by
  rw [foldlM_observed PodSpec.secretList
    (fun secrets s => unionBy id secrets (filled s.imagePullSecret).toList)
    (fun _ _ _ => secretList_addService) h, foldl_unionBy,
    flatMap_servicesUnder _ fun _ _ => rfl]
  rfl

theorem initContainers_podSpec (h : u.podSpec kind opt = .ok spec) :
    spec.initContainers = u.initContainers := by
  rw [foldlM_observed PodSpec.initContainers (fun cs s => cs ++ s.initContainer?.toList)
    (fun _ _ _ => initContainers_addService) h, List.foldl_append_eq_append, ← List.flatMap_def,
    flatMap_servicesUnder _ fun _ _ => rfl]
  rfl

end WorkloadUnit

end Manifests
