import Manifests.Proofs.Conversion

/-! What mounts and volumes refer to is there. -/
namespace Manifests

/-- The claim or the map that a volume is made of is among the objects. -/
def Volume.Backed (objects : List Object) (v : Volume) : Prop :=
  match v.source with
  | .claim name _ => ∃ c, .claim c ∈ objects ∧ (Object.claim c).name = name
  | .configMap name _ => ∃ m, .configMap m ∈ objects ∧ (Object.configMap m).name = name
  | .emptyDir _ | .hostPath _ => True

/-- A workload's mounts have volumes, and its volumes have what they are made of. -/
structure Object.Grounded (objects : List Object) (o : Object) : Prop where
  mounts : ∀ m ∈ o.mounts, m.name ∈ o.volumes.map Volume.name ∨
    ∃ c ∈ o.claimTemplates, (Object.claim c).name = m.name
  volumes : ∀ v ∈ o.volumes, v.Backed objects

variable {services : Dict Service} {opt : Options} {objects merged : List Object} {o : Object}
  {v : Volume}

section Provided

variable {workload : String} {s : Service} {d : DeclaredVolume} {i : Nat} {p : ProvidedVolume}

/-- A declared volume has the same name in all the places where it appears. -/
structure ProvidedVolume.Coherent (p : ProvidedVolume) : Prop where
  mount : p.mount.name = p.volume.name
  claim : ∀ name r, p.volume.source = .claim name r →
    name = p.volume.name ∧ ∃ c, p.claim = some c ∧ (Object.claim c).name = name
  configMap : ∀ name item, p.volume.source = .configMap name item →
    ∃ m, p.configMap = some m ∧ (Object.configMap m).name = name

theorem coherent_provide : (s.provide workload opt d i).Coherent := by
  rw [Service.provide]
  split
  · exact ⟨rfl, fun _ _ h => (by cases h), fun _ _ h => (by cases h)⟩
  · split
    · exact ⟨rfl, fun _ _ h => (by cases h), fun _ _ h => (by cases h)⟩
    · exact ⟨rfl, fun _ _ h => (by cases h), fun _ _ h => (by cases h)⟩
  · refine ⟨rfl, fun _ _ h => (by cases h), fun name item h => ?_⟩
    cases h
    exact ⟨_, rfl, rfl⟩
  · refine ⟨rfl, fun name r h => ?_, fun _ _ h => (by cases h)⟩
    cases h
    exact ⟨rfl, _, rfl, rfl⟩

theorem coherent_of_mem (h : p ∈ s.providedVolumes workload opt) : p.Coherent := by
  obtain ⟨e, _, rfl⟩ := List.mem_map.1 h
  exact coherent_provide

theorem name_of_mem_memoryVolumes {e : VolumeMount × Volume} (h : e ∈ s.memoryVolumes workload) :
    e.1.name = e.2.name ∧ e.2.source = .emptyDir (some "Memory") := by
  obtain ⟨_, _, rfl⟩ := List.mem_map.1 h
  exact ⟨rfl, rfl⟩

end Provided

namespace WorkloadUnit

variable {u : WorkloadUnit} {spec : PodSpec} {kind : WorkloadKind} {s : Service} {workload : String}
  {p : ProvidedVolume}

theorem mem_keptVolumes : v ∈ keptVolumes workload kind opt s ↔
    (∃ p ∈ s.providedVolumes workload opt, p.volume = v) ∧
      (embedsClaims kind opt → isClaim v = false) := by
  rw [keptVolumes]
  by_cases h : embedsClaims kind opt <;> simp [h]

theorem claim_mem_siblings {c : Claim} (hp : p ∈ s.providedVolumes workload opt)
    (hc : p.claim = some c) (h : embedsClaims kind opt = false) :
    .claim c ∈ siblings workload kind opt s := by
  have hmem : c ∈ (s.providedVolumes workload opt).filterMap (·.claim) :=
    List.mem_filterMap.2 ⟨p, hp, hc⟩
  simp [siblings, h, -List.mem_filterMap, hmem]

theorem configMap_mem_siblings {m : ConfigMap} (hp : p ∈ s.providedVolumes workload opt)
    (hm : p.configMap = some m) : .configMap m ∈ siblings workload kind opt s := by
  have hmem : m ∈ (s.providedVolumes workload opt).filterMap (·.configMap) :=
    List.mem_filterMap.2 ⟨p, hp, hm⟩
  simp [siblings, -List.mem_filterMap, hmem]

/-- The siblings of a workload back the volumes of its pod. -/
theorem backed_of_mem_podVolumes (hsiblings : siblings workload kind opt s ⊆ objects)
    (hv : v ∈ podVolumes workload kind opt s) : v.Backed objects := by
  rw [Volume.Backed]
  rcases List.mem_append.1 hv with hv | hv
  · obtain ⟨⟨p, hp, rfl⟩, hkept⟩ := mem_keptVolumes.1 hv
    have hc := coherent_of_mem hp
    cases hs : p.volume.source with
    | emptyDir | hostPath => trivial
    | claim name r =>
      obtain ⟨_, c, hclaim, hname⟩ := hc.claim name r hs
      have hembeds : embedsClaims kind opt = false := by
        by_contra he
        have hno := hkept (by simpa using he)
        simp [isClaim, hs] at hno
      exact ⟨c, hsiblings (claim_mem_siblings hp hclaim hembeds), hname⟩
    | configMap name item =>
      obtain ⟨m, hm, hname⟩ := hc.configMap name item hs
      exact ⟨m, hsiblings (configMap_mem_siblings hp hm), hname⟩
  · obtain ⟨e, he, rfl⟩ := List.mem_map.1 hv
    rw [(name_of_mem_memoryVolumes he).2]
    trivial

/-- A mount has a volume of the pod or a claim that the workload makes. -/
theorem name_of_mem_podMounts {m : VolumeMount} (hs : s ∈ u.servicesUnder kind)
    (hm : m ∈ podMounts u.name opt s) : m.name ∈ (podVolumes u.name kind opt s).map Volume.name ∨
      ∃ c ∈ u.claims kind opt, (Object.claim c).name = m.name := by
  rcases List.mem_append.1 hm with hm | hm
  · obtain ⟨p, hp, rfl⟩ := List.mem_map.1 hm
    have hc := coherent_of_mem hp
    by_cases hkept : embedsClaims kind opt → isClaim p.volume = false
    · have hv : p.volume ∈ podVolumes u.name kind opt s :=
        List.mem_append_left _ (mem_keptVolumes.2 ⟨⟨p, hp, rfl⟩, hkept⟩)
      exact Or.inl (List.mem_map.2 ⟨_, hv, hc.mount.symm⟩)
    · obtain ⟨hembeds, hclaim⟩ := Classical.not_imp.1 hkept
      cases hs' : p.volume.source with
      | emptyDir | hostPath | configMap => simp [isClaim, hs'] at hclaim
      | claim name r =>
        obtain ⟨hvolume, c, hpc, hname⟩ := hc.claim name r hs'
        refine Or.inr ⟨c, ?_, by rw [hname, hvolume, hc.mount]⟩
        rw [claims, if_pos hembeds]
        exact List.mem_flatMap.2 ⟨s, hs, List.mem_filterMap.2 ⟨p, hp, hpc⟩⟩
  · obtain ⟨e, he, rfl⟩ := List.mem_map.1 hm
    have hv : e.2 ∈ podVolumes u.name kind opt s :=
      List.mem_append_right _ (List.mem_map_of_mem he)
    exact Or.inl (List.mem_map.2 ⟨_, hv, (name_of_mem_memoryVolumes he).1.symm⟩)

/-- The workload of a unit, among the objects of that unit. -/
theorem Converted.grounded (h : u.Converted opt spec o objects) : o.Grounded objects := by
  constructor
  · intro m hm
    rw [Object.mounts, h.made.podSpec?_eq] at hm
    obtain ⟨s, hs, hm⟩ := List.mem_flatMap.1 (mem_mounts_podSpec h.podSpec_ok hm)
    rw [h.made.claimTemplates]
    rcases name_of_mem_podMounts hs hm with hname | hclaim
    · obtain ⟨v, hv, hname⟩ := List.mem_map.1 hname
      obtain ⟨w, hw, hwv⟩ := exists_mem_firstOfEach Volume.name
        (List.mem_flatMap.2 ⟨s, hs, hv⟩)
      rw [h.volumes]
      exact Or.inl (List.mem_map.2 ⟨w, hw, hwv.trans hname⟩)
    · exact Or.inr hclaim
  · intro v hv
    rw [h.volumes] at hv
    obtain ⟨s, hs, hv⟩ := List.mem_flatMap.1 (mem_of_mem_firstOfEach hv)
    exact backed_of_mem_podVolumes (fun a ha => h.mem_of_sibling hs ha) hv

end WorkloadUnit

section Kept

variable {l l' : List Object}

theorem Volume.Backed.of_imp
    (hclaim : ∀ c, .claim c ∈ l →
      ∃ c', .claim c' ∈ l' ∧ (Object.claim c').name = (Object.claim c).name)
    (hmap : ∀ m, .configMap m ∈ l →
      ∃ m', .configMap m' ∈ l' ∧ (Object.configMap m').name = (Object.configMap m).name)
    (h : v.Backed l) : v.Backed l' := by
  rw [Volume.Backed] at h ⊢
  split
  · rename_i name r hs
    simp only [hs] at h
    obtain ⟨c, hc, hn⟩ := h
    obtain ⟨c', hc', hn'⟩ := hclaim c hc
    exact ⟨c', hc', hn'.trans hn⟩
  · rename_i name item hs
    simp only [hs] at h
    obtain ⟨m, hm, hn⟩ := h
    obtain ⟨m', hm', hn'⟩ := hmap m hm
    exact ⟨m', hm', hn'.trans hn⟩
  · trivial
  · trivial

theorem Volume.Backed.of_subset (hsub : l ⊆ l') (h : v.Backed l) : v.Backed l' :=
  h.of_imp (fun c hc => ⟨c, hsub hc, rfl⟩) fun m hm => ⟨m, hsub hm, rfl⟩

theorem Object.Grounded.of_subset (hsub : l ⊆ l') (h : o.Grounded l) : o.Grounded l' :=
  ⟨h.mounts, fun v hv => (h.volumes v hv).of_subset hsub⟩

/-- A deployment takes in the pod of another one. -/
theorem Object.Grounded.absorb {a s : Object} (ha : a.Grounded objects) (hs : s.Grounded objects)
    (hda : a.isDeployment) (hds : s.isDeployment) : (a.absorb s.podSpec?).Grounded objects := by
  have hvolumes : (a.absorb s.podSpec?).volumes = unionVolumes a.volumes s.volumes :=
    Object.volumes_absorb hda
  constructor
  · intro m hm
    rw [hvolumes, unionVolumes, mem_map_unionBy, Object.claimTemplates_absorb]
    rcases Object.mem_mounts_absorb hda hm with hm | hm
    · rcases ha.mounts m hm with hv | hc
      · exact Or.inl (Or.inl hv)
      · exact Or.inr hc
    · rcases hs.mounts m hm with hv | ⟨c, hc, _⟩
      · exact Or.inl (Or.inr hv)
      · rw [Object.claimTemplates_of_isDeployment hds] at hc
        cases hc
  · intro v hv
    rw [hvolumes] at hv
    rcases mem_of_mem_unionBy hv with hv | hv
    · exact ha.volumes v hv
    · exact hs.volumes v hv

/-- Joins move pods from workloads that are grounded to others that are. -/
theorem Merging.step_grounded {m m' : Merging} {j : Join} (h : m.step j = .ok m')
    (hm : ∀ o ∈ m.objects, o.Grounded objects) : ∀ o ∈ m'.objects, o.Grounded objects := by
  rcases step_cases h with ⟨_, rfl⟩ | ⟨s, t, hs, _, hds, _, rfl⟩
  · exact hm
  · intro o ho
    rcases mem_changeFirstWhere ho with ho | ⟨a, ha, hp, rfl⟩
    · exact hm o ho
    · rw [Bool.and_eq_true] at hp
      exact (hm a ha).absorb (hm s (ObjectList.workload?_some hs).1) hp.1 hds

theorem Merging.run_grounded {m m' : Merging} {joins : List Join} (h : m.run joins = ⟨m', none⟩)
    (hm : ∀ o ∈ m.objects, o.Grounded objects) : ∀ o ∈ m'.objects, o.Grounded objects :=
  run_invariant (P := fun m => ∀ o ∈ m.objects, o.Grounded objects)
    (fun _ _ _ _ hs hm => step_grounded hs hm) h hm

theorem grounded_mergeJoins (h : mergeJoins objects services = ⟨merged, none⟩)
    (hobjects : ∀ o ∈ objects, o.Grounded objects) : ∀ o ∈ merged, o.Grounded merged := by
  have hkept : ∀ a ∈ objects, a.isWorkload = false → a ∈ merged :=
    fun a ha hw => (mem_mergeJoins_iff h hw).2 ha
  obtain ⟨_, m, hrun, rfl⟩ := mergeJoins_ok h
  intro o ho
  have ho := Merging.run_grounded hrun hobjects o (List.mem_of_mem_filter ho)
  exact ⟨ho.mounts, fun v hv => (ho.volumes v hv).of_imp
    (fun c hc => ⟨c, hkept _ hc rfl, rfl⟩) fun m hm => ⟨m, hkept _ hm rfl, rfl⟩⟩

theorem grounded_arranged (hobjects : ∀ o ∈ objects, o.Grounded objects) :
    ∀ o ∈ arranged opt objects, o.Grounded (arranged opt objects) := by
  intro o ho
  obtain ⟨a, ha, rfl⟩ := exists_of_mem_arranged ho
  constructor
  · intro m hm
    rw [mounts_placed] at hm
    rw [volumes_placed, claimTemplates_placed]
    exact (hobjects a ha).mounts m hm
  · intro v hv
    rw [volumes_placed] at hv
    refine ((hobjects a ha).volumes v hv).of_imp (fun c hc => ?_) fun m hm => ?_
    · obtain ⟨b, hb, hkey⟩ := exists_mem_arranged opt hc
      obtain ⟨c', rfl⟩ := Object.eq_claim_of_kind
        ((congrArg ObjectKey.kind hkey).trans kind_placed)
      exact ⟨c', hb, (congrArg ObjectKey.name hkey).trans name_placed⟩
    · obtain ⟨b, hb, hkey⟩ := exists_mem_arranged opt hm
      obtain ⟨m', rfl⟩ := Object.eq_configMap_of_kind
        ((congrArg ObjectKey.kind hkey).trans kind_placed)
      exact ⟨m', hb, (congrArg ObjectKey.name hkey).trans name_placed⟩

end Kept

theorem Object.grounded_of_not_workload (h : o.isWorkload = false) : o.Grounded objects := by
  have hspec : o.podSpec? = none := by
    cases o <;> simp_all [Object.isWorkload, Object.podSpec?]
  constructor
  · intro m hm
    rw [Object.mounts, hspec] at hm
    cases hm
  · intro v hv
    rw [Object.volumes, hspec] at hv
    cases hv

/-- The output of a conversion refers to nothing that is not there. -/
theorem grounded_convert (h : convert services opt = .ok objects) :
    ∀ o ∈ objects, o.Grounded objects := by
  obtain ⟨made, merged, hmade, hmerge, rfl⟩ := convert_ok h
  refine grounded_arranged (grounded_mergeJoins hmerge ?_)
  intro o ho
  obtain ⟨os, hos, ho⟩ := List.mem_flatten.1 ho
  obtain ⟨u, hu, hconvert⟩ := exists_left hmade hos
  obtain ⟨spec, w, hc⟩ := WorkloadUnit.convert_ok (members_ne_nil hu) hconvert
  by_cases how : o = w
  · rw [how]
    exact hc.grounded.of_subset fun a ha => List.mem_flatten.2 ⟨os, hos, ha⟩
  · exact Object.grounded_of_not_workload (hc.not_isWorkload ho how)

/-- Volumes of three sorts, in two services that share a pod. -/
def volumeServices : Dict Service :=
  let data : DeclaredVolume := { volumeName := some "data", container := "/data" }
  let settings : DeclaredVolume :=
    { container := "/etc/web.conf", config := some { files := .singleton "web.conf" "on" } }
  let cache : Service :=
    { image := "redis"
      networkMode := "service:web"
      volumes := [data]
      tmpfs := ["/run"] }
  .ofList [("cache", cache), ("web", { image := "nginx", volumes := [settings] })]

theorem grounded_convert_volumes : ∃ o ∈ output volumeServices {},
    (o.mounts.length = 3 ∧ o.volumes.length = 3) ∧ o.Grounded (output volumeServices {}) := by
  have hweb : ∃ o ∈ output volumeServices {}, o.mounts.length = 3 ∧ o.volumes.length = 3 := by
    decide +kernel
  obtain ⟨o, ho, hlength⟩ := hweb
  exact ⟨o, ho, hlength, grounded_convert (convert_output (by decide +kernel)) o ho⟩

end Manifests
