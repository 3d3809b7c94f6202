import Manifests.Proofs.Controllers
import Manifests.Proofs.SharedClaims
import Manifests.Proofs.VolumeNames

/-! Which volume a mount means, where a stateful set makes claims by itself. -/
namespace Manifests

variable {services : Dict Service} {opt : Options} {objects : List Object} {o : Object}
  {n : String}

namespace Object

/-- The names of the claims that a workload makes by itself. -/
def templateNames (o : Object) : List String := o.claimTemplates.map fun c => (claim c).name

/-- No claim that a workload makes has the name of another one, or of a volume of its pod. -/
structure Unambiguous (o : Object) : Prop where
  distinct : o.templateNames.Nodup
  apart : ∀ n ∈ o.templateNames, n ∉ o.volumes.map Volume.name

/-- All volumes that a mount can mean, those of the pod and those that are claimed for it. -/
def storageNames (o : Object) : List String := o.volumes.map Volume.name ++ o.templateNames

end Object

theorem count_map {α : Type} {f : α → String} {l : List α} :
    (l.map f).count n = (l.filter (f · = n)).length := by
  rw [List.count, List.countP_map, List.countP_eq_length_filter]
  rfl

namespace Service

variable {s : Service} {workload : String}

/-- The names that a service mounts volumes under, each as often as it does. -/
def mountNames (s : Service) (workload : String) (opt : Options) : List String :=
  (WorkloadUnit.podMounts workload opt s).map (·.name)

/-- Every volume that a service provides is mounted once. -/
theorem mountNames_eq : s.mountNames workload opt =
    (s.providedVolumes workload opt).map (·.volume.name) ++
      (s.memoryVolumes workload).map (·.2.name) := by
  rw [mountNames, WorkloadUnit.podMounts, List.map_append, List.map_map, List.map_map]
  congr 1
  · exact List.map_congr_left fun p hp => (coherent_of_mem hp).mount
  · exact List.map_congr_left fun e he => (name_of_mem_memoryVolumes he).1

theorem claimers_eq_nil (h : opt.volumes = .configMap) : s.claimers workload opt n = [] := by
  rw [claimers, List.map_eq_nil_iff, List.filter_eq_nil_iff]
  rintro ⟨d, i⟩ _
  simp [DeclaredVolume.modeUnder, h]

end Service

namespace WorkloadUnit

variable {u : WorkloadUnit} {s : Service} {workload : String} {spec : PodSpec} {a : Object}
  {os : List Object}

/-- The names that the services of a unit mount volumes under, each as often as they do. -/
def mountNames (u : WorkloadUnit) (opt : Options) : List String :=
  u.members.flatMap fun s => s.mountNames u.name opt

theorem configMap_of_not_embedsClaims (h : ¬ embedsClaims .statefulSet opt) :
    opt.volumes = .configMap := by
  simpa [embedsClaims] using h

/-- A stateful set keeps no claims in its pod. Without claims there is nothing to keep out. -/
theorem keptVolumes_statefulSet : keptVolumes workload .statefulSet opt s =
    ((s.providedVolumes workload opt).map (·.volume)).filter (!isClaim ·) := by
  rw [keptVolumes]
  split
  · rfl
  · rename_i hembeds
    refine (List.filter_eq_self.2 fun v hv => ?_).symm
    obtain ⟨p, hp, rfl⟩ := List.mem_map.1 hv
    obtain ⟨⟨d, i⟩, _, rfl⟩ := List.mem_map.1 hp
    rw [Bool.not_eq_true', Bool.eq_false_iff, ne_eq, isClaim_provide, DeclaredVolume.modeUnder,
      configMap_of_not_embedsClaims hembeds]
    simp

/-- A stateful set makes one claim for each volume that is claimed. -/
theorem count_claims : ((u.claims .statefulSet opt).map fun c => (Object.claim c).name).count n =
    (u.claimers opt n).length := by
  have hmembers : (u.servicesUnder .statefulSet).flatMap
      (fun s => (s.claimers u.name opt n).map (·.claimNamed n opt)) =
        (u.claimers opt n).map (·.claimNamed n opt) := by
    rw [flatMap_servicesUnder _ fun _ _ => rfl, claimers, List.map_flatMap]
  rw [count_map, claims]
  split
  · have hfilter : ∀ l : List Claim, l.filter (fun c => (Object.claim c).name = n) =
        l.filter (·.isNamed n) := fun _ => rfl
    rw [hfilter, List.filter_flatMap]
    simp only [Service.filter_claims]
    rw [hmembers, List.length_map]
  · rename_i hembeds
    have hnone : u.claimers opt n = [] := by
      rw [claimers, List.flatMap_eq_nil_iff]
      exact fun s _ => Service.claimers_eq_nil (configMap_of_not_embedsClaims hembeds)
    rw [hnone]
    rfl

/-- What is mounted under a name is either claimed or kept in the pod. -/
theorem count_mountNames : (s.mountNames workload opt).count n =
    (s.claimers workload opt n).length +
      ((podVolumes workload .statefulSet opt s).map Volume.name).count n := by
  let volumes := (s.providedVolumes workload opt).map (·.volume)
  have hclaimed : ((volumes.filter isClaim).map Volume.name).count n =
      (s.claimers workload opt n).length := by
    have hboth : (volumes.filter isClaim).filter (·.name = n) = volumes.filter (·.claims n) := by
      rw [List.filter_filter]
      exact List.filter_congr fun v _ => Bool.and_comm _ _
    rw [count_map, hboth, Service.filter_volumes, List.length_map]
  have hparts : (volumes.map Volume.name).count n =
      ((volumes.filter isClaim).map Volume.name).count n +
        ((volumes.filter (!isClaim ·)).map Volume.name).count n := by
    simp only [List.count, List.countP_map]
    exact List.countP_eq_countP_filter_add volumes _ isClaim
  rw [Service.mountNames_eq, podVolumes, keptVolumes_statefulSet, List.map_append,
    List.count_append, List.count_append, List.map_map, ← hclaimed, ← Nat.add_assoc, ← hparts,
    List.map_map]
  rfl

/-- The volumes that the services of a stateful set keep in its pod, before one stands for all of
its name. -/
def keptInPod (u : WorkloadUnit) (opt : Options) : List Volume :=
  (u.servicesUnder .statefulSet).flatMap (podVolumes u.name .statefulSet opt)

theorem count_mountNames_unit : (u.mountNames opt).count n =
    (u.claimers opt n).length + ((u.keptInPod opt).map Volume.name).count n := by
  rw [keptInPod, flatMap_servicesUnder _ fun _ _ => rfl, mountNames, claimers]
  induction u.members with
  | nil => rfl
  | cons s rest ih =>
    simp only [List.flatMap_cons, List.count_append, List.length_append, List.map_append, ih,
      count_mountNames]
    omega

namespace Converted

variable (h : u.Converted opt spec a os) (hstateful : u.chosen opt = .statefulSet)

include h hstateful

theorem count_templateNames : a.templateNames.count n = (u.claimers opt n).length := by
  rw [Object.templateNames, h.made.claimTemplates, hstateful, count_claims]

theorem mem_names_volumes :
    n ∈ a.volumes.map Volume.name ↔ n ∈ (u.keptInPod opt).map Volume.name := by
  rw [h.volumes, ownVolumes, hstateful, firstOfEach, mem_map_unionBy, List.map_nil, keptInPod]
  simp only [List.not_mem_nil, false_or]

/-- Nothing is ambiguous where all names that are claimed are mounted once. -/
theorem unambiguous_iff : a.Unambiguous ↔
    ∀ n, u.claimers opt n ≠ [] → (u.mountNames opt).count n = 1 := by
  have htemplates : ∀ n, n ∈ a.templateNames ↔ u.claimers opt n ≠ [] := by
    intro n
    rw [← List.count_pos_iff, h.count_templateNames hstateful, List.length_pos_iff]
  constructor
  · rintro ⟨hdistinct, hapart⟩ n hn
    have hmem := (htemplates n).2 hn
    have hone : (u.claimers opt n).length = 1 := by
      rw [← h.count_templateNames hstateful]
      exact List.count_eq_one_of_mem hdistinct hmem
    have hnone : ((u.keptInPod opt).map Volume.name).count n = 0 := by
      rw [List.count_eq_zero, ← h.mem_names_volumes hstateful]
      exact hapart n hmem
    rw [count_mountNames_unit, hone, hnone]
  · intro hcount
    constructor
    · refine List.nodup_iff_count_le_one.2 fun n => ?_
      rw [h.count_templateNames hstateful]
      by_cases hn : u.claimers opt n = []
      · rw [hn]
        exact Nat.zero_le _
      · have hone := hcount n hn
        rw [count_mountNames_unit] at hone
        omega
    · intro n hmem hvolume
      have hn := (htemplates n).1 hmem
      have hone := hcount n hn
      have hclaimed := List.length_pos_iff.2 hn
      have hkept := List.count_pos_iff.2 ((h.mem_names_volumes hstateful).1 hvolume)
      rw [count_mountNames_unit] at hone
      omega

end Converted

end WorkloadUnit

/-- Where no claim has the name of another volume, a mount means exactly one of them. -/
theorem Object.Unambiguous.count_eq_one {m : VolumeMount} (h : o.Unambiguous)
    (hvolumes : (o.volumes.map Volume.name).Nodup) (hgrounded : o.Grounded objects)
    (hm : m ∈ o.mounts) : o.storageNames.count m.name = 1 := by
  have hnodup : o.storageNames.Nodup :=
    List.nodup_append.2 ⟨hvolumes, h.distinct, fun n hv k ht hsame => h.apart k ht (hsame ▸ hv)⟩
  refine List.count_eq_one_of_mem hnodup (List.mem_append.2 ?_)
  rcases hgrounded.mounts m hm with hv | ⟨c, hc, hname⟩
  · exact Or.inl hv
  · exact Or.inr (List.mem_map.2 ⟨c, hc, hname⟩)

/-- Where no volume has a name of its own, all that is mounted has a name that is made up. -/
theorem Service.mountNames_of_unnamed {s : Service} {workload : String}
    (h : ∀ d ∈ s.volumes, filled d.volumeName = none) :
    s.mountNames workload opt = s.generatedNames workload opt := by
  rw [mountNames_eq, generatedNames, zip_providedVolumes, List.filter_eq_self.2, List.map_map,
    providedVolumes, List.map_map]
  · rfl
  · intro e he
    obtain ⟨x, hx, rfl⟩ := List.mem_map.1 he
    have hmem := List.fst_mem_of_mem_zipIdx (List.mem_of_mem_filter hx)
    simpa using h x.1 hmem

/-- Names that are made up are different where the services of a pod have different names. -/
theorem WorkloadUnit.nodup_mountNames {u : WorkloadUnit}
    (hstems : (u.members.map (·.volumeStem u.name)).Nodup)
    (hunnamed : ∀ s ∈ u.members, ∀ d ∈ s.volumes, filled d.volumeName = none) :
    (u.mountNames opt).Nodup := by
  rw [mountNames, List.nodup_flatMap]
  constructor
  · intro s hs
    rw [Service.mountNames_of_unnamed (hunnamed s hs)]
    exact Service.nodup_generatedNames
  · refine (List.pairwise_map.1 hstems).imp_of_mem fun {s t} hs ht hne => ?_
    intro n (hns : n ∈ s.mountNames u.name opt) (hnt : n ∈ t.mountNames u.name opt)
    rw [Service.mountNames_of_unnamed (hunnamed s hs)] at hns
    rw [Service.mountNames_of_unnamed (hunnamed t ht)] at hnt
    exact hne (Service.volumeStem_eq_of_mem hns hnt)

section Convert

@[simp] theorem templateNames_placed : (placed opt o).templateNames = o.templateNames := by
  rw [Object.templateNames, claimTemplates_placed, Object.templateNames]

@[simp] theorem storageNames_placed : (placed opt o).storageNames = o.storageNames := by
  rw [Object.storageNames, volumes_placed, templateNames_placed, Object.storageNames]

theorem unambiguous_placed : (placed opt o).Unambiguous ↔ o.Unambiguous := by
  constructor
  · rintro ⟨hdistinct, hapart⟩
    exact ⟨by simpa using hdistinct, by simpa using hapart⟩
  · rintro ⟨hdistinct, hapart⟩
    exact ⟨by simpa using hdistinct, by simpa using hapart⟩

/-- A stateful set takes no pods in, so it is as its unit was converted. -/
theorem exists_stateful_unit (h : convert services opt = .ok objects) (ho : o ∈ objects)
    (hstateful : o.isStateful) : ∃ u ∈ unitsOf (keyed services) opt.groupMode,
      u.chosen opt = .statefulSet ∧ ∃ spec a os, u.Converted opt spec a os ∧ o = placed opt a := by
  have hkind : o.kind = WorkloadKind.statefulSet.name := of_decide_eq_true hstateful
  have hw : o.isWorkload := by
    rw [Object.isWorkload_iff_kind, hkind]
    decide
  have hd : o.isDeployment = false := by
    rw [Bool.eq_false_iff, ne_eq, Object.isDeployment_iff_kind, hkind]
    decide
  obtain ⟨u, hu, spec, a, os, hc, rfl⟩ := exists_converted h ho hw hd
  rw [kind_placed, hc.made.kind_eq] at hkind
  exact ⟨u, hu, WorkloadKind.name_injective hkind, spec, a, os, hc, rfl⟩

/-- The volumes of a stateful set can be told apart exactly where its services mount every name that
one of them claims only once. Every mount then means one volume. -/
theorem stateful_unambiguous_iff (h : convert services opt = .ok objects) (ho : o ∈ objects)
    (hstateful : o.isStateful) : ∃ u ∈ unitsOf (keyed services) opt.groupMode, o.name = u.name ∧
      (o.Unambiguous ↔ ∀ n, u.claimers opt n ≠ [] → (u.mountNames opt).count n = 1) ∧
      (o.Unambiguous → ∀ m ∈ o.mounts, o.storageNames.count m.name = 1) := by
  obtain ⟨u, hu, hchosen, spec, a, os, hc, rfl⟩ := exists_stateful_unit h ho hstateful
  refine ⟨u, hu, name_placed.trans hc.made.name_eq, ?_, fun hunambiguous m hm => ?_⟩
  · rw [unambiguous_placed]
    exact hc.unambiguous_iff hchosen
  · have hdistinct : (a.volumes.map Volume.name).Nodup := by
      rw [hc.volumes]
      exact nodup_unionBy List.nodup_nil
    rw [mounts_placed] at hm
    rw [storageNames_placed]
    exact (unambiguous_placed.1 hunambiguous).count_eq_one hdistinct hc.grounded hm

/-- Where no volume has a name of its own, and no two services of a pod make up names from the same
stem, the volumes of all stateful sets can be told apart. -/
theorem unambiguous_of_unnamed (h : convert services opt = .ok objects)
    (hunits : ∀ u ∈ unitsOf (keyed services) opt.groupMode,
      (u.members.map (·.volumeStem u.name)).Nodup ∧
        ∀ s ∈ u.members, ∀ d ∈ s.volumes, filled d.volumeName = none)
    (ho : o ∈ objects) (hstateful : o.isStateful) : o.Unambiguous := by
  obtain ⟨u, hu, hchosen, spec, a, os, hc, rfl⟩ := exists_stateful_unit h ho hstateful
  obtain ⟨hstems, hunnamed⟩ := hunits u hu
  have hnodup : (u.mountNames opt).Nodup := WorkloadUnit.nodup_mountNames hstems hunnamed
  rw [unambiguous_placed, hc.unambiguous_iff hchosen]
  intro n hn
  refine List.count_eq_one_of_mem hnodup ?_
  rw [← List.count_pos_iff, WorkloadUnit.count_mountNames_unit]
  have hclaimed := List.length_pos_iff.2 hn
  omega

end Convert

/-- Two services that share a volume. -/
def pooledServices : Dict Service :=
  let data : DeclaredVolume := { volumeName := some "data", container := "/data" }
  .ofList
    [("api", { image := "api", volumes := [data] }),
      ("worker", { image := "worker", volumes := [data] })]

/-- The same services, with a pod each or in one pod. -/
def pooledOptions (mode : Option String) : Options :=
  { controller := some .statefulSet, groupMode := mode }

/-- Two pods claim one volume each. One pod claims it twice. -/
theorem output_pooled :
    ((convert pooledServices (pooledOptions none)).isOk ∧
      ∃ o ∈ output pooledServices (pooledOptions none), o.isStateful ∧ o.mounts ≠ [] ∧
        o.templateNames.Nodup ∧ ∀ n ∈ o.templateNames, n ∉ o.volumes.map Volume.name) ∧
    (convert pooledServices (pooledOptions (some "volume"))).isOk ∧
      ∃ o ∈ output pooledServices (pooledOptions (some "volume")), o.isStateful ∧
        ¬ o.templateNames.Nodup := by
  decide +kernel

theorem stateful_unambiguous_iff_pooled :
    (∃ o ∈ output pooledServices (pooledOptions none), o.isStateful ∧ o.mounts ≠ [] ∧
      ∀ m ∈ o.mounts, o.storageNames.count m.name = 1) ∧
    ∃ u ∈ unitsOf (keyed pooledServices) (some "volume"), ∃ n,
      u.claimers (pooledOptions (some "volume")) n ≠ [] ∧
        (u.mountNames (pooledOptions (some "volume"))).count n ≠ 1 := by
  obtain ⟨⟨hok, o, ho, hstateful, hmounts, hdistinct, hapart⟩, hok', o', ho', hstateful', htwice⟩ :=
    output_pooled
  constructor
  · obtain ⟨_, _, _, _, hone⟩ := stateful_unambiguous_iff (convert_output hok) ho hstateful
    exact ⟨o, ho, hstateful, hmounts, hone ⟨hdistinct, hapart⟩⟩
  · obtain ⟨u, hu, _, hiff, _⟩ := stateful_unambiguous_iff (convert_output hok') ho' hstateful'
    by_contra hnone
    refine htwice (hiff.2 fun n hn => ?_).distinct
    by_contra hcount
    exact hnone ⟨u, hu, n, hn, hcount⟩

theorem not_all_unambiguous : ¬ ∀ (services : Dict Service) (opt : Options)
    (objects : List Object), convert services opt = .ok objects →
      ∀ o ∈ objects, o.isStateful → o.Unambiguous := by
  intro h
  obtain ⟨_, hok, o, ho, hstateful, htwice⟩ := output_pooled
  exact htwice (h pooledServices (pooledOptions (some "volume")) _ (convert_output hok) o ho
    hstateful).distinct

end Manifests
