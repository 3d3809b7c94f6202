import Mathlib.Data.List.Nodup
import Manifests.Join
import Manifests.Proofs.FirstWins

/-! What workloads hold, and how it grows when one takes in the pod of another. -/
namespace Manifests

section Lists

variable {α : Type} {p : α → Bool} {f : α → α} {l : List α}

/-- Where at most one element is picked, to change the first of them is to change all. -/
theorem changeFirstWhere_eq_map (h : l.Pairwise fun a b => ¬ (p a ∧ p b)) :
    changeFirstWhere p f l = l.map fun a => if p a then f a else a := by
  induction l with
  | nil => rfl
  | cons a l ih =>
    obtain ⟨ha, hl⟩ := List.pairwise_cons.1 h
    by_cases hp : p a
    · have hrest : ∀ b ∈ l, (if p b then f b else b) = b := by
        intro b hb
        exact if_neg fun hpb => ha b hb ⟨hp, hpb⟩
      rw [changeFirstWhere, if_pos hp, List.map_cons, if_pos hp, List.map_congr_left hrest,
        List.map_id']
    · rw [changeFirstWhere, if_neg hp, List.map_cons, if_neg hp, ih hl]

theorem mem_changeFirstWhere {b : α} (h : b ∈ changeFirstWhere p f l) :
    b ∈ l ∨ ∃ a ∈ l, p a ∧ b = f a := by
  induction l with
  | nil => cases h
  | cons a l ih =>
    rw [changeFirstWhere] at h
    split at h
    · rename_i hp
      rcases List.mem_cons.1 h with rfl | h
      · exact Or.inr ⟨a, List.mem_cons_self, hp, rfl⟩
      · exact Or.inl (List.mem_cons_of_mem _ h)
    · rcases List.mem_cons.1 h with rfl | h
      · exact Or.inl List.mem_cons_self
      · rcases ih h with h | ⟨c, hc, hpc, rfl⟩
        · exact Or.inl (List.mem_cons_of_mem _ h)
        · exact Or.inr ⟨c, List.mem_cons_of_mem _ hc, hpc, rfl⟩

theorem map_changeFirstWhere {β : Type} {g : α → β} (h : ∀ a, g (f a) = g a) :
    (changeFirstWhere p f l).map g = l.map g := by
  induction l with
  | nil => rfl
  | cons a l ih =>
    rw [changeFirstWhere]
    split
    · rw [List.map_cons, List.map_cons, h]
    · rw [List.map_cons, List.map_cons, ih]

end Lists

theorem WorkloadKind.name_injective {a b : WorkloadKind} (h : a.name = b.name) : a = b := by
  cases a <;> cases b <;> first | rfl | exact absurd h (by decide)

def PodSpec.volumeList (p : PodSpec) : List Volume := p.volumes.getD []

def PodSpec.secretList (p : PodSpec) : List String := p.imagePullSecrets.getD []

def Container.mountList (c : Container) : List VolumeMount := c.mounts.getD []

/-- The mounts of all containers, those that run first among them. -/
def PodSpec.mounts (p : PodSpec) : List VolumeMount :=
  (p.containers ++ p.initContainers).flatMap Container.mountList

theorem volumeList_absorb {spec : PodSpec} {containers : List Container} {volumes : List Volume} :
    (spec.absorb containers volumes).volumeList = unionVolumes spec.volumeList volumes := by
  by_cases h : volumes = []
  · subst h
    rfl
  · simp [PodSpec.absorb, PodSpec.volumeList, h]

@[simp] theorem Metadata.anyName_mk {n : String} {generateName namespaceName : Option String}
    {labels annotations : Option (Dict String)} :
    anyName ⟨some n, generateName, namespaceName, labels, annotations⟩ = n := rfl

namespace Object

def containers (o : Object) : List Container := (o.podSpec?.getD {}).containers

def initContainers (o : Object) : List Container := (o.podSpec?.getD {}).initContainers

def volumes (o : Object) : List Volume := (o.podSpec?.getD {}).volumeList

def mounts (o : Object) : List VolumeMount := (o.podSpec?.getD {}).mounts

/-- The claims that a stateful set makes for each of its pods. -/
def claimTemplates : Object → List Claim
  | controller c =>
    match c.form with
    | .statefulSet _ _ claims => claims
    | _ => []
  | _ => []

/-- The workload around its containers and volumes; what is missing counts as the default. -/
def emptied (o : Object) : Object :=
  match o.specified with
  | controller c =>
    let pod := { c.template.spec.getD {} with containers := [], volumes := none }
    controller { c with template := { c.template with spec := some pod } }
  | other => other

variable {o : Object} {source : Option PodSpec}

theorem isWorkload_of_isDeployment (h : o.isDeployment) : o.isWorkload := by
  cases o <;> simp_all [isDeployment, isWorkload]

theorem isDeployment_iff_kind : o.isDeployment ↔ o.kind = "Deployment" := by
  cases o with
  | controller c =>
    rcases c with ⟨_, form, _, _⟩
    cases form <;> simp [isDeployment, kind, Controller.kind, WorkloadKind.name]
  | specless k m => cases k <;> simp [isDeployment, kind, SpeclessKind.kind, WorkloadKind.name]
  | pod | service | claim | configMap | autoscaler | networkPolicy =>
    simp [isDeployment, kind, WorkloadKind.name]

theorem isWorkload_iff_kind : o.isWorkload ↔ o.kind ∈ WorkloadKind.all.map WorkloadKind.name := by
  cases o with
  | controller c =>
    rcases c with ⟨_, form, _, _⟩
    cases form <;> simp [isWorkload, kind, Controller.kind, WorkloadKind.all, WorkloadKind.name]
  | specless k m =>
    cases k <;> simp [isWorkload, kind, SpeclessKind.kind, WorkloadKind.all, WorkloadKind.name]
  | pod | service | claim | configMap | autoscaler | networkPolicy =>
    simp [isWorkload, kind, WorkloadKind.all, WorkloadKind.name]

theorem isWorkload_of_kind {a b : Object} (h : a.kind = b.kind) : a.isWorkload = b.isWorkload := by
  rw [Bool.eq_iff_iff, isWorkload_iff_kind, isWorkload_iff_kind, h]

theorem isWorkload_of_kind_eq {k : WorkloadKind} (h : o.kind = k.name) : o.isWorkload := by
  rw [isWorkload_iff_kind, h]
  cases k <;> decide

theorem isService_iff_kind : o.isService ↔ o.kind = "Service" := by
  cases o with
  | controller c =>
    rcases c with ⟨_, form, _, _⟩
    cases form <;> simp [isService, kind, Controller.kind, WorkloadKind.name]
  | specless k m => cases k <;> simp [isService, kind, SpeclessKind.kind, WorkloadKind.name]
  | pod | service | claim | configMap | autoscaler | networkPolicy =>
    simp [isService, kind, WorkloadKind.name]

theorem isService_of_kind {a b : Object} (h : a.kind = b.kind) : a.isService = b.isService := by
  rw [Bool.eq_iff_iff, isService_iff_kind, isService_iff_kind, h]

theorem eq_claim_of_kind (h : o.kind = "PersistentVolumeClaim") : ∃ c, o = claim c := by
  cases o with
  | claim c => exact ⟨c, rfl⟩
  | controller c =>
    rcases c with ⟨_, form, _, _⟩
    cases form <;> simp [kind, Controller.kind, WorkloadKind.name] at h
  | specless k m => cases k <;> simp [kind, SpeclessKind.kind, WorkloadKind.name] at h
  | pod | service | configMap | autoscaler | networkPolicy => simp [kind, WorkloadKind.name] at h

theorem eq_configMap_of_kind (h : o.kind = "ConfigMap") : ∃ m, o = configMap m := by
  cases o with
  | configMap m => exact ⟨m, rfl⟩
  | controller c =>
    rcases c with ⟨_, form, _, _⟩
    cases form <;> simp [kind, Controller.kind, WorkloadKind.name] at h
  | specless k m => cases k <;> simp [kind, SpeclessKind.kind, WorkloadKind.name] at h
  | pod | service | claim | autoscaler | networkPolicy => simp [kind, WorkloadKind.name] at h

theorem containers_of_not_workload (h : ¬ o.isWorkload) : o.containers = [] := by
  cases o <;> simp_all [isWorkload, containers, podSpec?]

theorem claimTemplates_of_isDeployment (h : o.isDeployment) : o.claimTemplates = [] := by
  cases o with
  | controller c =>
    rcases c with ⟨_, form, _, _⟩
    cases form <;> simp_all [isDeployment, claimTemplates, Controller.kind]
  | specless | pod | service | claim | configMap | autoscaler | networkPolicy => rfl

section Emptied

@[simp] theorem metadata_emptied : o.emptied.metadata = o.metadata := by
  cases o <;> rfl

@[simp] theorem name_emptied : o.emptied.name = o.name := by
  rw [name, metadata_emptied, name]

@[simp] theorem kind_emptied : o.emptied.kind = o.kind := by
  cases o with
  | specless k m => cases k <;> rfl
  | controller | pod | service | claim | configMap | autoscaler | networkPolicy => rfl

@[simp] theorem key_emptied : o.emptied.key = o.key := by
  rw [key, kind_emptied, metadata_emptied, name_emptied, key]

@[simp] theorem isWorkload_emptied : o.emptied.isWorkload = o.isWorkload := by
  cases o <;> rfl

@[simp] theorem isDeployment_emptied : o.emptied.isDeployment = o.isDeployment := by
  cases o with
  | specless k m => cases k <;> rfl
  | controller | pod | service | claim | configMap | autoscaler | networkPolicy => rfl

@[simp] theorem podLabels?_emptied : o.emptied.podLabels? = o.podLabels? := by
  cases o <;> rfl

@[simp] theorem initContainers_emptied : o.emptied.initContainers = o.initContainers := by
  cases o with
  | specless k m => cases k <;> rfl
  | controller c =>
    rcases c with ⟨_, _, _, template⟩
    rcases template with ⟨_, _ | _⟩ <;> rfl
  | pod | service | claim | configMap | autoscaler | networkPolicy => rfl

theorem emptied_of_not_workload (h : o.isWorkload = false) : o.emptied = o := by
  cases o <;> simp_all [isWorkload, emptied, specified]

end Emptied

section Absorb

@[simp] theorem metadata_absorb : (o.absorb source).metadata = o.metadata := by
  cases o <;> rfl

@[simp] theorem name_absorb : (o.absorb source).name = o.name := by
  rw [name, metadata_absorb, name]

@[simp] theorem kind_absorb : (o.absorb source).kind = o.kind := by
  cases o with
  | specless k m => cases k <;> rfl
  | controller | pod | service | claim | configMap | autoscaler | networkPolicy => rfl

@[simp] theorem key_absorb : (o.absorb source).key = o.key := by
  rw [key, kind_absorb, metadata_absorb, name_absorb, key]

@[simp] theorem isWorkload_absorb : (o.absorb source).isWorkload = o.isWorkload := by
  cases o <;> rfl

@[simp] theorem isDeployment_absorb : (o.absorb source).isDeployment = o.isDeployment := by
  cases o with
  | specless k m => cases k <;> rfl
  | controller | pod | service | claim | configMap | autoscaler | networkPolicy => rfl

@[simp] theorem claimTemplates_absorb : (o.absorb source).claimTemplates = o.claimTemplates := by
  cases o with
  | specless k m => cases k <;> rfl
  | controller | pod | service | claim | configMap | autoscaler | networkPolicy => rfl

@[simp] theorem emptied_absorb : (o.absorb source).emptied = o.emptied := by
  cases o <;> rfl

theorem containers_absorb (h : o.isDeployment) :
    (o.absorb source).containers = o.containers ++ (source.getD {}).containers := by
  cases o <;> simp_all [isDeployment, absorb, specified, containers, podSpec?, PodSpec.absorb,
    Controller.blank]

theorem mem_mounts_absorb {m : VolumeMount} (h : o.isDeployment)
    (hm : m ∈ (o.absorb source).mounts) : m ∈ o.mounts ∨ m ∈ (source.getD {}).mounts := by
  cases o with
  | controller | specless =>
    simp only [absorb, specified, mounts, podSpec?, Option.getD_some, PodSpec.mounts,
      PodSpec.absorb, List.flatMap_append, List.mem_append] at hm ⊢
    rcases hm with (hm | hm) | hm
    · exact Or.inl (Or.inl hm)
    · exact Or.inr (Or.inl hm)
    · exact Or.inl (Or.inr hm)
  | pod | service | claim | configMap | autoscaler | networkPolicy => cases h

theorem volumes_absorb (h : o.isDeployment) :
    (o.absorb source).volumes = unionVolumes o.volumes (source.getD {}).volumeList := by
  cases o with
  | controller c => exact volumeList_absorb
  | specless k m => exact volumeList_absorb
  | pod | service | claim | configMap | autoscaler | networkPolicy => cases h

end Absorb

section AbsorbAll

/-- A workload after it has taken in the pods of others, one after another. -/
def absorbAll (sources : List Object) (o : Object) : Object :=
  sources.foldl (fun o s => o.absorb s.podSpec?) o

variable {sources : List Object}

theorem absorbAll_observed {γ : Type} {obs : Object → γ}
    (h : ∀ o source, obs (absorb source o) = obs o) : obs (o.absorbAll sources) = obs o := by
  induction sources generalizing o with
  | nil => rfl
  | cons s sources ih => exact ih.trans (h o s.podSpec?)

@[simp] theorem name_absorbAll : (o.absorbAll sources).name = o.name :=
  absorbAll_observed fun _ _ => name_absorb

@[simp] theorem key_absorbAll : (o.absorbAll sources).key = o.key :=
  absorbAll_observed fun _ _ => key_absorb

@[simp] theorem isWorkload_absorbAll : (o.absorbAll sources).isWorkload = o.isWorkload :=
  absorbAll_observed fun _ _ => isWorkload_absorb

@[simp] theorem isDeployment_absorbAll : (o.absorbAll sources).isDeployment = o.isDeployment :=
  absorbAll_observed fun _ _ => isDeployment_absorb

@[simp] theorem emptied_absorbAll : (o.absorbAll sources).emptied = o.emptied :=
  absorbAll_observed fun _ _ => emptied_absorb

theorem absorbAll_append {others : List Object} :
    o.absorbAll (sources ++ others) = (o.absorbAll sources).absorbAll others :=
  List.foldl_append

theorem containers_absorbAll (h : o.isDeployment) :
    (o.absorbAll sources).containers = o.containers ++ sources.flatMap containers := by
  induction sources generalizing o with
  | nil => simp [absorbAll]
  | cons s sources ih =>
    have hs := ih (o := o.absorb s.podSpec?) (by simpa using h)
    rw [containers_absorb h] at hs
    simpa [absorbAll, containers] using hs

theorem volumes_absorbAll (h : o.isDeployment) :
    (o.absorbAll sources).volumes = unionVolumes o.volumes (sources.flatMap volumes) := by
  induction sources generalizing o with
  | nil => rfl
  | cons s sources ih =>
    have hs := ih (o := o.absorb s.podSpec?) (by simpa using h)
    rw [volumes_absorb h] at hs
    rw [List.flatMap_cons, unionVolumes, unionBy_append]
    exact hs

end AbsorbAll

end Object

namespace ObjectList

variable {objects : List Object} {o : Object} {n : String}

theorem workload?_some (h : workload? n objects = some o) :
    o ∈ objects ∧ o.isWorkload ∧ o.name = n := by
  have ho := List.find?_some h
  simp only [Bool.and_eq_true, decide_eq_true_eq] at ho
  exact ⟨List.mem_of_find?_eq_some h, ho⟩

theorem workload?_map {f : Object → Object} (hw : ∀ o, (f o).isWorkload = o.isWorkload)
    (hn : ∀ o, (f o).name = o.name) :
    workload? n (objects.map f) = (workload? n objects).map f := by
  have hcomp : (fun o => o.isWorkload && decide (o.name = n)) ∘ f =
      fun o => o.isWorkload && decide (o.name = n) := by
    funext o
    simp [hw, hn]
  rw [workload?, List.find?_map, hcomp, workload?]

variable (hunique : ((objects.filter Object.isWorkload).map Object.name).Nodup)

include hunique

theorem pairwise_names :
    objects.Pairwise fun a b => a.isWorkload → b.isWorkload → a.name ≠ b.name :=
  List.pairwise_filter.1 (List.pairwise_map.1 hunique)

theorem eq_of_name {a b : Object} (ha : a ∈ objects) (hb : b ∈ objects) (hwa : a.isWorkload)
    (hwb : b.isWorkload) (hn : a.name = b.name) : a = b :=
  List.inj_on_of_nodup_map hunique (List.mem_filter.2 ⟨ha, hwa⟩) (List.mem_filter.2 ⟨hb, hwb⟩) hn

theorem workload?_of_mem (ho : o ∈ objects) (hw : o.isWorkload) :
    workload? o.name objects = some o := by
  cases h : workload? o.name objects with
  | none => exact absurd (List.find?_eq_none.1 h o ho) (by simp [hw])
  | some w =>
    obtain ⟨hm, hww, hn⟩ := workload?_some h
    rw [eq_of_name hunique hm ho hww hw hn]

end ObjectList

end Manifests
