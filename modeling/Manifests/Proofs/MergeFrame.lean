import Manifests.Proofs.Merge

/-! What a merge leaves alone, whatever the names of the workloads. -/
namespace Manifests

variable {objects merged l l' : List Object} {joins : List Join} {services : Dict Service}
  {o : Object}

/-- What is told by the rest of an object is the same where the rest is the same. -/
theorem map_of_emptied {α : Type} {obs : Object → α} (hobs : ∀ o : Object, obs o.emptied = obs o)
    (h : l.map Object.emptied = l'.map Object.emptied) : l.map obs = l'.map obs := by
  have hcomp : obs ∘ Object.emptied = obs := funext hobs
  rw [← hcomp, ← List.map_map, h, List.map_map]

theorem filter_of_emptied {p : Object → Bool} (hp : ∀ o : Object, p o.emptied = p o)
    (h : l.map Object.emptied = l'.map Object.emptied) :
    (l.filter p).map Object.emptied = (l'.filter p).map Object.emptied := by
  have hcomp : p ∘ Object.emptied = p := funext hp
  have hswap : ∀ l : List Object,
      (l.filter p).map Object.emptied = (l.map Object.emptied).filter p := by
    intro l
    rw [List.filter_map, hcomp]
  rw [hswap, hswap, h]

namespace Merging

variable {m m' : Merging} {j : Join}

theorem emptied_workload? {n : String} : (ObjectList.workload? n objects).map Object.emptied =
    ObjectList.workload? n (objects.map Object.emptied) :=
  (ObjectList.workload?_map (fun _ => Object.isWorkload_emptied) fun _ => Object.name_emptied).symm

/-- Which workloads depart does not hang on what they contain. -/
theorem emptied_departures : (departures objects joins).map Object.emptied =
    joins.filterMap fun j => ObjectList.workload? j.source (objects.map Object.emptied) := by
  rw [departures, List.map_filterMap]
  apply List.filterMap_congr
  intro j _
  exact emptied_workload?

theorem departures_cons : departures objects (j :: joins) =
    (ObjectList.workload? j.source objects).toList ++ departures objects joins := by
  rw [← departures_singleton, ← departures_append, List.singleton_append]

theorem departures_eq : departures objects joins =
    (joins.map (·.source)).filterMap (ObjectList.workload? · objects) := by
  rw [List.filterMap_map]
  rfl

/-- A join changes nothing but containers and volumes, and only a deployment departs. -/
theorem step_emptied (h : m.step j = .ok m') :
    m'.objects.map Object.emptied = m.objects.map Object.emptied ∧
    m'.moved = m.moved ++ (ObjectList.workload? j.source m.objects).toList.map Object.key ∧
    ∀ s ∈ (ObjectList.workload? j.source m.objects).toList, s.isDeployment := by
  rcases step_cases h with ⟨hs, rfl⟩ | ⟨s, t, hs, ht, hds, hdt, rfl⟩
  · rw [hs]
    exact ⟨rfl, (List.append_nil _).symm, fun s hs => by cases hs⟩
  · rw [hs]
    refine ⟨map_changeFirstWhere fun _ => Object.emptied_absorb, rfl, fun a ha => ?_⟩
    rwa [List.mem_singleton.1 ha]

/-- All joins, by induction: each finds the workloads as the first one did, but for what they
contain. -/
theorem run_emptied (h : m.run joins = ⟨m', none⟩) :
    m'.objects.map Object.emptied = m.objects.map Object.emptied ∧
    m'.moved = m.moved ++ (departures m.objects joins).map Object.key ∧
    ∀ s ∈ departures m.objects joins, s.isDeployment := by
  induction joins generalizing m with
  | nil =>
    cases h
    exact ⟨rfl, (List.append_nil _).symm, fun s hs => by cases hs⟩
  | cons j joins ih =>
    obtain ⟨m₁, hs, hr⟩ := run_cons h
    obtain ⟨hobjects, hmoved, hdeployment⟩ := step_emptied hs
    obtain ⟨hobjects', hmoved', hdeployments⟩ := ih hr
    have hdepart : (departures m₁.objects joins).map Object.emptied =
        (departures m.objects joins).map Object.emptied := by
      rw [emptied_departures, emptied_departures, hobjects]
    refine ⟨hobjects'.trans hobjects, ?_, fun s hmem => ?_⟩
    · rw [hmoved', hmoved, map_of_emptied (fun _ => Object.key_emptied) hdepart, departures_cons,
        List.map_append, List.append_assoc]
    · rw [departures_cons, List.mem_append] at hmem
      rcases hmem with hmem | hmem
      · exact hdeployment s hmem
      · have he := List.mem_map_of_mem (f := Object.emptied) hmem
        rw [← hdepart] at he
        obtain ⟨a, ha, he⟩ := List.mem_map.1 he
        rw [← Object.isDeployment_emptied, ← he, Object.isDeployment_emptied]
        exact hdeployments a ha

/-- Pods go to deployments, so what is none of them has been there from the beginning. -/
theorem step_undeployed (h : m.step j = .ok m')
    (hm : ∀ a ∈ m.objects, a.isDeployment = false → a ∈ objects) :
    ∀ a ∈ m'.objects, a.isDeployment = false → a ∈ objects := by
  rcases step_cases h with ⟨_, rfl⟩ | ⟨s, t, _, _, _, _, rfl⟩
  · exact hm
  · intro a ha hd
    rcases mem_changeFirstWhere ha with ha | ⟨b, _, hp, rfl⟩
    · exact hm a ha hd
    · rw [Bool.and_eq_true] at hp
      rw [Object.isDeployment_absorb, hp.1] at hd
      cases hd

end Merging

/-- A merge that succeeds changes nothing but containers and volumes of what stays. Only deployments
go. -/
theorem mergeJoins_emptied (h : mergeJoins objects services = ⟨merged, none⟩) :
    merged.map Object.emptied = (objects.filter fun o =>
      !((Merging.departures objects (Join.ofServices services)).map Object.key).contains o.key).map
        Object.emptied ∧
    ∀ s ∈ Merging.departures objects (Join.ofServices services), s.isDeployment := by
  obtain ⟨hresolved, m, hrun, rfl⟩ := mergeJoins_ok h
  generalize Join.toEnds (Join.ofServices services) = final at hresolved hrun
  have hdepart : Merging.departures objects final =
      Merging.departures objects (Join.ofServices services) := by
    rw [Merging.departures_eq, Merging.departures_eq, hresolved.sources_eq]
  obtain ⟨hobjects, hmoved, hdeployments⟩ := Merging.run_emptied hrun
  rw [← hdepart]
  rw [List.nil_append] at hmoved
  refine ⟨?_, hdeployments⟩
  rw [hmoved]
  exact filter_of_emptied (fun _ => by rw [Object.key_emptied]) hobjects

/-- A test that no workload passes finds the same before and after workloads are emptied. -/
theorem filter_map_emptied {p : Object → Bool} (hp : ∀ o, p o → o.isWorkload = false) :
    (l.map Object.emptied).filter p = l.filter p := by
  have hcomp : p ∘ Object.emptied = p := by
    funext o
    rw [Function.comp_apply]
    cases hw : o.isWorkload with
    | false => rw [Object.emptied_of_not_workload hw]
    | true =>
      have hno : ∀ a : Object, a.isWorkload = true → p a = false := by
        intro a ha
        by_contra hpa
        rw [hp a (by simpa using hpa)] at ha
        cases ha
      rw [hno o hw, hno _ (Object.isWorkload_emptied.trans hw)]
  rw [List.filter_map, hcomp]
  refine (List.map_congr_left fun o ho => ?_).trans (List.map_id' _)
  exact Object.emptied_of_not_workload (hp o (List.mem_filter.1 ho).2)

/-- What is no workload stays as it is, in order. -/
theorem filter_mergeJoins {p : Object → Bool} (hp : ∀ o, p o → o.isWorkload = false)
    (h : mergeJoins objects services = ⟨merged, none⟩) : merged.filter p = objects.filter p := by
  obtain ⟨hemptied, hdeployments⟩ := mergeJoins_emptied h
  rw [← filter_map_emptied hp, hemptied, filter_map_emptied hp, List.filter_filter]
  apply List.filter_congr
  intro o _
  rw [Bool.and_eq_left_iff_imp, Bool.not_eq_true', ← Bool.not_eq_true, List.contains_iff_mem]
  intro hpo hmem
  obtain ⟨s, hs, hkey⟩ := List.mem_map.1 hmem
  have hws := Object.isWorkload_of_isDeployment (hdeployments s hs)
  rw [Object.isWorkload_of_kind (congrArg ObjectKey.kind hkey), hp o hpo] at hws
  cases hws

/-- Objects that are no workloads stay as they are. -/
theorem mem_mergeJoins_iff (h : mergeJoins objects services = ⟨merged, none⟩)
    (hw : o.isWorkload = false) : o ∈ merged ↔ o ∈ objects := by
  have hsame : merged.filter (!Object.isWorkload ·) = objects.filter (!Object.isWorkload ·) :=
    filter_mergeJoins (fun o ho => by simpa using ho) h
  have hmem : ∀ l : List Object, o ∈ l ↔ o ∈ l.filter (!Object.isWorkload ·) := by
    intro l
    simp [hw]
  rw [hmem merged, hsame, ← hmem objects]

/-- What is no deployment stays as it is. -/
theorem mem_of_mem_mergeJoins (h : mergeJoins objects services = ⟨merged, none⟩) (ho : o ∈ merged)
    (hd : o.isDeployment = false) : o ∈ objects := by
  obtain ⟨_, m, hrun, rfl⟩ := mergeJoins_ok h
  have hkept : ∀ a ∈ m.objects, a.isDeployment = false → a ∈ objects :=
    Merging.run_invariant (P := fun m => ∀ a ∈ m.objects, a.isDeployment = false → a ∈ objects)
      (fun _ _ _ _ hs hm => Merging.step_undeployed hs hm) hrun fun a ha _ => ha
  exact hkept o (List.mem_of_mem_filter ho) hd

end Manifests
