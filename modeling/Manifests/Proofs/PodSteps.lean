import Manifests.Proofs.FirstWins
import Manifests.Proofs.Merge

/-! What the steps of a pod do to its containers, mounts and volumes. -/
namespace Manifests

/-- What a container is made with and keeps. -/
structure ContainerCore where
  name : String
  image : String
  command : List String
  args : List String
  env : List EnvVar
  envFrom : List String
deriving DecidableEq

def Container.core (c : Container) : ContainerCore :=
  ⟨c.name, c.image, c.command, c.args, c.env, c.envFrom⟩

/-- The core of the container that a service asks for. -/
def Service.core (s : Service) : ContainerCore :=
  ⟨s.container, s.containerImage, s.command, s.containerArgs, s.envVars, s.envFrom⟩

def PodSpec.cores (spec : PodSpec) : List ContainerCore := spec.containers.map Container.core

theorem core_of_newContainer {s : Service} {c : Container} (h : s.newContainer = .ok c) :
    c.core = s.core := by
  obtain ⟨liveness, _, h⟩ := bind_ok h
  obtain ⟨readiness, _, h⟩ := bind_ok h
  cases h
  rfl

theorem mounts_of_newContainer {s : Service} {c : Container} (h : s.newContainer = .ok c) :
    c.mounts = none := by
  obtain ⟨liveness, _, h⟩ := bind_ok h
  obtain ⟨readiness, _, h⟩ := bind_ok h
  cases h
  rfl

theorem mounts_of_initContainer? {s : Service} {c : Container} (h : s.initContainer? = some c) :
    c.mounts = none := by
  obtain ⟨image, _, rfl⟩ := Option.map_eq_some_iff.1 h
  rfl

theorem mountList_of_mounts {c : Container} (h : c.mounts = none) : c.mountList = [] := by
  rw [Container.mountList, h, Option.getD_none]

theorem changeFirst_eq {name : String} {f : Container → Container} {l : List Container} :
    changeFirst name f l = changeFirstWhere (fun c => c.name = name) f l := by
  induction l with
  | nil => rfl
  | cons c l ih => simp [changeFirst, changeFirstWhere, ih]

namespace PodSpec

variable {spec : PodSpec} {s : Service} {f : Container → Container}

theorem cores_changeContainer (hf : ∀ c, (f c).core = c.core) :
    (spec.changeContainer s f).cores = spec.cores := by
  rw [cores, changeContainer, changeFirst_eq]
  exact map_changeFirstWhere hf

theorem secretList_addContainer {c : Container} {secret : Option String} :
    (spec.addContainer c secret).secretList = unionBy id spec.secretList secret.toList := by
  cases secret <;> rfl

theorem volumeList_addVolumes {volumes : List Volume} :
    (spec.addVolumes volumes).volumeList = unionVolumes spec.volumeList volumes := by
  rw [addVolumes, volumeList, nonempty?]
  split
  · rename_i h
    exact (List.isEmpty_iff.1 h).symm
  · rfl

theorem mem_mountList_addMounts {c : Container} {added : List VolumeMount} {m : VolumeMount}
    (h : m ∈ (c.addMounts added).mountList) : m ∈ c.mountList ∨ m ∈ added := by
  rw [Container.addMounts, Container.mountList, nonempty?] at h
  split at h
  · cases h
  · exact mem_of_mem_unionBy h

theorem mem_mounts_addMounts {added : List VolumeMount} {m : VolumeMount}
    (h : m ∈ (spec.changeContainer s (·.addMounts added)).mounts) :
    m ∈ spec.mounts ∨ m ∈ added := by
  rw [mounts, changeContainer, changeFirst_eq] at h
  obtain ⟨c, hc, hm⟩ := List.mem_flatMap.1 h
  rcases List.mem_append.1 hc with hc | hc
  · rcases mem_changeFirstWhere hc with hc | ⟨d, hd, _, rfl⟩
    · exact Or.inl (List.mem_flatMap.2 ⟨c, List.mem_append_left _ hc, hm⟩)
    · rcases mem_mountList_addMounts hm with hm | hm
      · exact Or.inl (List.mem_flatMap.2 ⟨d, List.mem_append_left _ hd, hm⟩)
      · exact Or.inr hm
  · exact Or.inl (List.mem_flatMap.2 ⟨c, List.mem_append_right _ hc, hm⟩)

/-- What a pod spec has beside its main containers that steps can add to. -/
def common (spec : PodSpec) :
    Option (List Volume) × Option (List String) × List Container :=
  (spec.volumes, spec.imagePullSecrets, spec.initContainers)

end PodSpec

/-- A change to a container that leaves its core and its mounts alone. -/
def Tunes (f : Container → Container) : Prop := ∀ c, (f c).core = c.core ∧ (f c).mounts = c.mounts

theorem changeFirst_id {name : String} {l : List Container} : changeFirst name id l = l := by
  induction l with
  | nil => rfl
  | cons c l ih => simp [changeFirst, ih]

namespace PodStep

/-- The cores of the containers that a step adds. -/
def addedCores (s : Service) : PodStep → List ContainerCore
  | addContainer => [s.core]
  | _ => []

def addedVolumes : PodStep → List Volume
  | volumes added => added
  | _ => []

def addedMounts : PodStep → List VolumeMount
  | mounts added => added
  | _ => []

def addedSecrets (s : Service) : PodStep → List String
  | addContainer => (filled s.imagePullSecret).toList
  | _ => []

def addedInits (s : Service) : PodStep → List Container
  | initContainers => s.initContainer?.toList
  | _ => []

/-- A step adds nothing to a pod spec's lists. -/
def isPlain : PodStep → Bool
  | addContainer | volumes _ | mounts _ | initContainers => false
  | _ => true

/-- A step that adds no container, volume, mount or secret, but may tune the service's container. -/
structure Plain (s : Service) (step : PodStep) (spec spec' : PodSpec) : Prop where
  cores : step.addedCores s = []
  volumes : step.addedVolumes = []
  mounts : step.addedMounts = []
  secrets : step.addedSecrets s = []
  tunes : ∃ f, Tunes f ∧ spec'.containers = changeFirst s.container f spec.containers
  volumes_eq : spec'.volumes = spec.volumes
  secrets_eq : spec'.imagePullSecrets = spec.imagePullSecrets
  inits : ∀ c ∈ spec'.initContainers, c ∈ spec.initContainers ∨ c ∈ s.initContainer?.toList

variable {ctx : Context} {spec spec' : PodSpec} {step : PodStep}

theorem plain_of_tunes {f : Container → Container} (hstep : step.isPlain)
    (h : spec'.containers = changeFirst ctx.service.container f spec.containers) (hf : Tunes f)
    (hcommon : spec'.common = spec.common) : Plain ctx.service step spec spec' := by
  obtain ⟨hvolumes, hsecrets, hinits⟩ : spec'.volumes = spec.volumes ∧
      spec'.imagePullSecrets = spec.imagePullSecrets ∧
      spec'.initContainers = spec.initContainers := by
    simpa [PodSpec.common] using hcommon
  have hkept : ∀ c ∈ spec'.initContainers,
      c ∈ spec.initContainers ∨ c ∈ ctx.service.initContainer?.toList :=
    fun _ hc => Or.inl (hinits ▸ hc)
  cases step with
  | addContainer | volumes | mounts | initContainers => cases hstep
  | _ => exact ⟨rfl, rfl, rfl, rfl, ⟨f, hf, h⟩, hvolumes, hsecrets, hkept⟩

theorem plain_of_eq (hstep : step.isPlain) (h : spec'.containers = spec.containers)
    (hcommon : spec'.common = spec.common) : Plain ctx.service step spec spec' :=
  plain_of_tunes (f := id) hstep (by rw [changeFirst_id, h]) (fun _ => ⟨rfl, rfl⟩) hcommon

/-- All that a step can do to containers, mounts, volumes and secrets. -/
theorem apply_cases (h : step.apply ctx spec = .ok spec') :
    (step = addContainer ∧ ∃ c, ctx.service.newContainer = .ok c ∧
      spec' = spec.addContainer c (filled ctx.service.imagePullSecret)) ∨
    (∃ added, step = volumes added ∧ spec' = spec.addVolumes added) ∨
    (∃ added, step = mounts added ∧ spec' = spec.changeContainer ctx.service (·.addMounts added)) ∨
    Plain ctx.service step spec spec' := by
  cases step with
  | addContainer =>
    obtain ⟨c, hc, h⟩ := bind_ok h
    cases h
    exact Or.inl ⟨rfl, c, hc, rfl⟩
  | volumes added =>
    cases h
    exact Or.inr (Or.inl ⟨added, rfl, rfl⟩)
  | mounts added =>
    cases h
    exact Or.inr (Or.inr (Or.inl ⟨added, rfl, rfl⟩))
  | limits | requests | ports =>
    refine Or.inr (Or.inr (Or.inr ?_))
    cases h
    split
    · exact plain_of_eq rfl rfl rfl
    · exact plain_of_tunes rfl rfl (fun _ => ⟨rfl, rfl⟩) rfl
  | security =>
    refine Or.inr (Or.inr (Or.inr ?_))
    cases h
    cases hs : ctx.service.containerSecurity with
    | none => exact plain_of_eq rfl rfl rfl
    | some granted => exact plain_of_tunes rfl rfl (fun _ => ⟨rfl, rfl⟩) rfl
  | imagePullPolicy =>
    obtain ⟨policy, _, h⟩ := bind_ok h
    cases h
    exact Or.inr (Or.inr (Or.inr (plain_of_tunes rfl rfl (fun _ => ⟨rfl, rfl⟩) rfl)))
  | restartPolicy =>
    obtain ⟨policy, _, h⟩ := bind_ok h
    cases h
    exact Or.inr (Or.inr (Or.inr (plain_of_eq rfl rfl rfl)))
  | spread | affinity =>
    refine Or.inr (Or.inr (Or.inr ?_))
    cases h
    split <;> exact plain_of_eq rfl rfl rfl
  | hostname | domainname | gracePeriod | serviceAccount =>
    cases h
    exact Or.inr (Or.inr (Or.inr (plain_of_eq rfl rfl rfl)))
  | initContainers =>
    refine Or.inr (Or.inr (Or.inr ?_))
    cases h
    refine ⟨rfl, rfl, rfl, rfl, ⟨id, fun _ => ⟨rfl, rfl⟩, changeFirst_id.symm⟩, rfl, rfl,
      fun c hc => ?_⟩
    rcases List.mem_append.1 hc with hc | hc
    · exact Or.inl hc
    · exact Or.inr hc

/-- Only the first step adds a container, and no step changes the core of one. -/
theorem cores_apply (h : step.apply ctx spec = .ok spec') :
    spec'.cores = spec.cores ++ step.addedCores ctx.service := by
  rcases apply_cases h with ⟨rfl, c, hc, rfl⟩ | ⟨_, rfl, rfl⟩ | ⟨added, rfl, rfl⟩ | hp
  · simp [PodSpec.cores, PodSpec.addContainer, addedCores, core_of_newContainer hc]
  · exact (List.append_nil _).symm
  · have hkeep : ∀ c : Container, (c.addMounts added).core = c.core := fun _ => rfl
    rw [PodSpec.cores_changeContainer hkeep]
    exact (List.append_nil _).symm
  · obtain ⟨f, hf, hcs⟩ := hp.tunes
    rw [hp.cores, List.append_nil, PodSpec.cores, hcs, changeFirst_eq,
      map_changeFirstWhere fun c => (hf c).1, PodSpec.cores]

theorem volumeList_apply (h : step.apply ctx spec = .ok spec') :
    spec'.volumeList = unionVolumes spec.volumeList step.addedVolumes := by
  rcases apply_cases h with ⟨rfl, c, hc, rfl⟩ | ⟨_, rfl, rfl⟩ | ⟨_, rfl, rfl⟩ | hp
  · rfl
  · exact PodSpec.volumeList_addVolumes
  · rfl
  · rw [hp.volumes, PodSpec.volumeList, hp.volumes_eq]
    rfl

theorem mem_mounts_apply {m : VolumeMount} (h : step.apply ctx spec = .ok spec')
    (hm : m ∈ spec'.mounts) : m ∈ spec.mounts ∨ m ∈ step.addedMounts := by
  rcases apply_cases h with ⟨rfl, c, hc, rfl⟩ | ⟨_, rfl, rfl⟩ | ⟨_, rfl, rfl⟩ | hp
  · have hnone := mountList_of_mounts (mounts_of_newContainer hc)
    refine Or.inl ?_
    simpa [PodSpec.mounts, PodSpec.addContainer, hnone] using hm
  · exact Or.inl hm
  · exact PodSpec.mem_mounts_addMounts hm
  · obtain ⟨f, hf, hcs⟩ := hp.tunes
    have hlist : ∀ c, (f c).mountList = c.mountList := by
      intro c
      rw [Container.mountList, (hf c).2, Container.mountList]
    refine Or.inl ?_
    rw [PodSpec.mounts, List.flatMap_append, List.mem_append] at hm ⊢
    rcases hm with hm | hm
    · rw [hcs, changeFirst_eq, List.flatMap_def, map_changeFirstWhere hlist,
        ← List.flatMap_def] at hm
      exact Or.inl hm
    · obtain ⟨c, hc, hm⟩ := List.mem_flatMap.1 hm
      rcases hp.inits c hc with hc | hc
      · exact Or.inr (List.mem_flatMap.2 ⟨c, hc, hm⟩)
      · rw [mountList_of_mounts (mounts_of_initContainer? (Option.mem_toList.1 hc))] at hm
        cases hm

theorem secretList_apply (h : step.apply ctx spec = .ok spec') :
    spec'.secretList = unionBy id spec.secretList (step.addedSecrets ctx.service) := by
  rcases apply_cases h with ⟨rfl, c, hc, rfl⟩ | ⟨_, rfl, rfl⟩ | ⟨_, rfl, rfl⟩ | hp
  · exact PodSpec.secretList_addContainer
  · rfl
  · rfl
  · rw [hp.secrets, PodSpec.secretList, hp.secrets_eq]
    rfl

/-- Containers that run first are added, and stay. -/
theorem initContainers_apply (h : step.apply ctx spec = .ok spec') :
    spec'.initContainers = spec.initContainers ++ step.addedInits ctx.service := by
  cases step with
  | addContainer | imagePullPolicy | restartPolicy =>
    obtain ⟨_, _, h⟩ := bind_ok h
    cases h
    exact (List.append_nil _).symm
  | initContainers =>
    cases h
    rfl
  | limits | requests | ports | spread | affinity =>
    cases h
    split <;> exact (List.append_nil _).symm
  | security =>
    cases h
    cases ctx.service.containerSecurity <;> exact (List.append_nil _).symm
  | volumes | mounts | hostname | domainname | gracePeriod | serviceAccount =>
    cases h
    exact (List.append_nil _).symm

end PodStep

end Manifests
