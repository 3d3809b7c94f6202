import Manifests.Proofs.Contents
import Manifests.Proofs.JoinChain

/-! Where pods go when workloads are joined, and which workloads remain. -/
namespace Manifests

namespace Merging

variable {m m' : Merging} {j : Join}

/-- A join passes a missing source over or moves the pod of one deployment to another. -/
theorem step_cases (h : m.step j = .ok m') :
    (ObjectList.workload? j.source m.objects = none ∧ m' = m) ∨
    ∃ s t, ObjectList.workload? j.source m.objects = some s ∧
      ObjectList.workload? j.target m.objects = some t ∧ s.isDeployment ∧ t.isDeployment ∧
      m' = ⟨changeFirstWhere (fun o => o.isDeployment && o.name = j.target)
        (Object.absorb s.podSpec?) m.objects, m.moved ++ [s.key]⟩ := by
  rw [step] at h
  cases hs : ObjectList.workload? j.source m.objects with
  | none =>
    simp only [hs] at h
    cases h
    exact Or.inl ⟨rfl, rfl⟩
  | some s =>
    cases ht : ObjectList.workload? j.target m.objects with
    | none =>
      simp only [hs, ht] at h
      cases h
    | some t =>
      simp only [hs, ht] at h
      split at h
      · rename_i hd
        cases h
        rw [Bool.and_eq_true] at hd
        exact Or.inr ⟨s, t, rfl, rfl, hd.1, hd.2, rfl⟩
      · cases h

theorem run_cons {joins : List Join} (h : m.run (j :: joins) = ⟨m', none⟩) :
    ∃ m₁, m.step j = .ok m₁ ∧ m₁.run joins = ⟨m', none⟩ := by
  rw [run] at h
  cases hs : m.step j with
  | error failure =>
    simp only [hs] at h
    cases h
  | ok m₁ =>
    simp only [hs] at h
    exact ⟨m₁, rfl, h⟩

/-- What every step keeps, a whole run keeps. -/
theorem run_invariant {P : Merging → Prop} {joins : List Join}
    (hstep : ∀ j ∈ joins, ∀ m m', m.step j = .ok m' → P m → P m')
    (h : m.run joins = ⟨m', none⟩) (hm : P m) : P m' := by
  induction joins generalizing m with
  | nil => cases h; exact hm
  | cons j joins ih =>
    obtain ⟨m₁, hs, hr⟩ := run_cons h
    exact ih (fun j hj => hstep j (List.mem_cons_of_mem _ hj)) hr
      (hstep j List.mem_cons_self m m₁ hs hm)

/-- The workloads whose pods the joins bring to an object, in the order of the joins. -/
def arrivals (objects : List Object) (joins : List Join) (o : Object) : List Object :=
  if o.isWorkload then
    (joins.filter (·.target = o.name)).filterMap fun j => ObjectList.workload? j.source objects
  else []

/-- The workloads whose pods the joins take away. -/
def departures (objects : List Object) (joins : List Join) : List Object :=
  joins.filterMap fun j => ObjectList.workload? j.source objects

variable {objects : List Object} {joins : List Join} {o : Object}

theorem arrivals_concat : arrivals objects (joins ++ [j]) o = arrivals objects joins o ++
    if o.isWorkload ∧ j.target = o.name then (ObjectList.workload? j.source objects).toList
    else [] := by
  by_cases hw : o.isWorkload
  · by_cases ht : j.target = o.name
    · cases hs : ObjectList.workload? j.source objects <;> simp [arrivals, hw, ht, hs]
    · simp [arrivals, hw, ht]
  · simp [arrivals, hw]

theorem departures_append {joins' : List Join} : departures objects (joins ++ joins') =
    departures objects joins ++ departures objects joins' :=
  List.filterMap_append

theorem departures_singleton :
    departures objects [j] = (ObjectList.workload? j.source objects).toList := by
  cases hs : ObjectList.workload? j.source objects <;> simp [departures, hs]

theorem arrivals_eq_nil (h : ∀ j ∈ joins, j.target ≠ o.name) : arrivals objects joins o = [] := by
  have hf : joins.filter (·.target = o.name) = [] := by
    rw [List.filter_eq_nil_iff]
    intro j hj
    simpa using h j hj
  simp [arrivals, hf]

/-- The state after some joins, told from the objects at the beginning. -/
def after (objects : List Object) (joins : List Join) : Merging where
  objects := objects.map fun o => o.absorbAll (arrivals objects joins o)
  moved := (departures objects joins).map Object.key

theorem workload?_after {n : String} : ObjectList.workload? n (after objects joins).objects =
    (ObjectList.workload? n objects).map fun o => o.absorbAll (arrivals objects joins o) :=
  ObjectList.workload?_map (fun _ => Object.isWorkload_absorbAll) fun _ => Object.name_absorbAll

theorem after_of_missing (hs : ObjectList.workload? j.source objects = none) :
    after objects (joins ++ [j]) = after objects joins := by
  have harrivals : ∀ o, arrivals objects (joins ++ [j]) o = arrivals objects joins o := by
    intro o
    rw [arrivals_concat, hs]
    simp
  simp only [after, harrivals, departures_append, departures_singleton, hs, Option.toList_none,
    List.append_nil]

variable (hunique : ((objects.filter Object.isWorkload).map Object.name).Nodup)

include hunique

theorem pairwise_after {n : String} : (after objects joins).objects.Pairwise fun a b =>
    ¬ ((a.isDeployment && a.name = n) ∧ (b.isDeployment && b.name = n)) := by
  refine List.pairwise_map.2 ((ObjectList.pairwise_names hunique).imp ?_)
  intro a b hne hab
  simp only [Object.isDeployment_absorbAll, Object.name_absorbAll, Bool.and_eq_true,
    decide_eq_true_eq] at hab
  exact hne (Object.isWorkload_of_isDeployment hab.1.1) (Object.isWorkload_of_isDeployment hab.2.1)
    (hab.1.2.trans hab.2.2.symm)

/-- One more pod has moved. -/
theorem after_of_moved {s t : Object} (hs : ObjectList.workload? j.source objects = some s)
    (ht : ObjectList.workload? j.target objects = some t) (hdt : t.isDeployment) :
    after objects (joins ++ [j]) =
      ⟨changeFirstWhere (fun o => o.isDeployment && o.name = j.target)
        (Object.absorb s.podSpec?) (after objects joins).objects,
        (after objects joins).moved ++ [s.key]⟩ := by
  obtain ⟨htm, htw, htn⟩ := ObjectList.workload?_some ht
  rw [changeFirstWhere_eq_map (pairwise_after hunique)]
  simp only [after, List.map_map, departures_append, departures_singleton, hs, Option.toList_some,
    List.map_append, List.map_cons, List.map_nil]
  congr 1
  apply List.map_congr_left
  intro o ho
  rw [Function.comp_apply, arrivals_concat, hs, Object.isDeployment_absorbAll,
    Object.name_absorbAll]
  by_cases hw : o.isWorkload ∧ j.target = o.name
  · have hto : o = t :=
      ObjectList.eq_of_name hunique ho htm hw.1 htw (hw.2.symm.trans htn.symm)
    rw [if_pos hw, if_pos (by simp [hto, hdt, htn])]
    exact Object.absorbAll_append
  · rw [if_neg hw, List.append_nil, if_neg]
    intro hd
    rw [Bool.and_eq_true, decide_eq_true_eq] at hd
    exact hw ⟨Object.isWorkload_of_isDeployment hd.1, hd.2.symm⟩

/-- One more join. Its source is still as it was at the beginning, because nothing moves to the
source of a join. -/
theorem step_after (h : (after objects joins).step j = .ok m')
    (hsource : ∀ r ∈ joins, r.target ≠ j.source) :
    m' = after objects (joins ++ [j]) ∧
    ∀ s, ObjectList.workload? j.source objects = some s →
      s.isDeployment ∧ ∃ t, ObjectList.workload? j.target objects = some t ∧ t.isDeployment := by
  rcases step_cases h with ⟨hs, rfl⟩ | ⟨s', t', hs, ht, hds, hdt, rfl⟩
  · rw [workload?_after, Option.map_eq_none_iff] at hs
    refine ⟨(after_of_missing hs).symm, ?_⟩
    intro s hs'
    rw [hs] at hs'
    cases hs'
  · rw [workload?_after, Option.map_eq_some_iff] at hs ht
    obtain ⟨s, hs, rfl⟩ := hs
    obtain ⟨t, ht, rfl⟩ := ht
    rw [Object.isDeployment_absorbAll] at hds hdt
    have hnone : arrivals objects joins s = [] :=
      arrivals_eq_nil (by rwa [(ObjectList.workload?_some hs).2.2])
    constructor
    · rw [after_of_moved hunique hs ht hdt, hnone]
      rfl
    · intro s₁ hs₁
      rw [hs] at hs₁
      cases hs₁
      exact ⟨hds, t, ht, hdt⟩

/-- All joins, by induction on those that are left. -/
theorem run_after {before joins : List Join} (h : (after objects before).run joins = ⟨m', none⟩)
    (hends : ∀ r ∈ before ++ joins, ∀ r' ∈ before ++ joins, r'.source ≠ r.target) :
    m' = after objects (before ++ joins) ∧
    ∀ r ∈ joins, ∀ s, ObjectList.workload? r.source objects = some s →
      s.isDeployment ∧ ∃ t, ObjectList.workload? r.target objects = some t ∧ t.isDeployment := by
  induction joins generalizing before with
  | nil =>
    cases h
    rw [List.append_nil]
    exact ⟨rfl, fun r hr => by cases hr⟩
  | cons j joins ih =>
    obtain ⟨m₁, hs, hr⟩ := run_cons h
    have hj : j ∈ before ++ j :: joins := by simp
    have hsource : ∀ r ∈ before, r.target ≠ j.source := by
      intro r hr
      exact (hends r (List.mem_append_left _ hr) j hj).symm
    obtain ⟨rfl, hdeployments⟩ := step_after hunique hs hsource
    obtain ⟨hm, hrest⟩ := ih hr (by simpa using hends)
    refine ⟨by simpa using hm, fun r hr => ?_⟩
    rcases List.mem_cons.1 hr with rfl | hr
    · exact hdeployments
    · exact hrest r hr

end Merging

/-- A merge that succeeds has resolved all joins and run them. -/
theorem mergeJoins_ok {objects merged : List Object} {services : Dict Service}
    (h : mergeJoins objects services = ⟨merged, none⟩) :
    Join.Resolved (Join.ofServices services) (Join.toEnds (Join.ofServices services)) ∧
    ∃ m, Merging.run ⟨objects, []⟩ (Join.toEnds (Join.ofServices services)) = ⟨m, none⟩ ∧
      merged = m.objects.filter fun o => !m.moved.contains o.key := by
  rw [mergeJoins] at h
  cases hf : Join.resolveAll objects (Join.ofServices services) with
  | error failure =>
    simp only [hf] at h
    cases h
  | ok final =>
    simp only [hf] at h
    have hresolved := Join.resolveAll_ok hf
    obtain rfl := Join.resolveAll_eq_toEnds hf
    split at h
    · cases h
    · rename_i m hrun
      cases h
      exact ⟨hresolved, m, hrun, rfl⟩

/-- The deployments whose pods go elsewhere. -/
def leaves (joins : List Join) (o : Object) : Bool :=
  o.isDeployment && o.name ∈ joins.map (·.source)

theorem leaves_of_endsAt {joins : List Join} {name : String} {o : Object}
    (h : Join.EndsAt joins name o.name) : leaves joins o = false := by
  rw [leaves, decide_eq_false (Join.not_leads_iff.1 h.2), Bool.and_false]

section Merge

open Merging

variable {objects merged : List Object} {joins final : List Join}

theorem after_nil : after objects [] = ⟨objects, []⟩ := by
  have h : ∀ o : Object, o.absorbAll (arrivals objects [] o) = o := by
    intro o
    rw [arrivals_eq_nil (by simp)]
    rfl
  simp [after, h, departures]

variable (hunique : ((objects.filter Object.isWorkload).map Object.name).Nodup)

include hunique

theorem key_mem_departures {o : Object} (ho : o ∈ objects)
    (hdeployments : ∀ r ∈ joins, ∀ s, ObjectList.workload? r.source objects = some s →
      s.isDeployment) :
    o.key ∈ (departures objects joins).map Object.key ↔ leaves joins o := by
  rw [leaves, Bool.and_eq_true, decide_eq_true_eq, List.mem_map, List.mem_map]
  constructor
  · rintro ⟨s, hs, hkey⟩
    obtain ⟨r, hr, hs⟩ := List.mem_filterMap.1 hs
    obtain ⟨_, _, hn⟩ := ObjectList.workload?_some hs
    have hkind : s.kind = o.kind := congrArg ObjectKey.kind hkey
    have hname : s.name = o.name := congrArg ObjectKey.name hkey
    rw [Object.isDeployment_iff_kind, ← hkind, ← Object.isDeployment_iff_kind]
    exact ⟨hdeployments r hr s hs, r, hr, hn.symm.trans hname⟩
  · rintro ⟨hd, r, hr, hn⟩
    have hs := ObjectList.workload?_of_mem hunique ho (Object.isWorkload_of_isDeployment hd)
    exact ⟨o, List.mem_filterMap.2 ⟨r, hr, by rw [hn, hs]⟩, rfl⟩

/-- A merge that succeeds keeps the objects in order, but for the deployments that others take
in. Sources and targets of what moves are all deployments. -/
theorem mergeJoins_eq {services : Dict Service}
    (h : mergeJoins objects services = ⟨merged, none⟩) :
    ∃ final, Join.Resolved (Join.ofServices services) final ∧
      merged = (objects.filter (!leaves (Join.ofServices services) ·)).map
        (fun o => o.absorbAll (arrivals objects final o)) ∧
      ∀ r ∈ final, ∀ s, ObjectList.workload? r.source objects = some s →
        s.isDeployment ∧ ∃ t, ObjectList.workload? r.target objects = some t ∧ t.isDeployment := by
  obtain ⟨hresolved, m, hrun, rfl⟩ := mergeJoins_ok h
  generalize Join.toEnds (Join.ofServices services) = final at hresolved hrun
  rw [← after_nil] at hrun
  obtain ⟨rfl, hdeployments⟩ := run_after hunique hrun
    fun r hr r' hr' => hresolved.target_ne_source hr hr'
  refine ⟨final, hresolved, ?_, hdeployments⟩
  have hleaves : leaves (Join.ofServices services) = leaves final := by
    funext o
    rw [leaves, leaves, hresolved.sources_eq]
  rw [List.nil_append, after, List.filter_map, hleaves]
  congr 1
  apply List.filter_congr
  intro o ho
  have hkey := key_mem_departures hunique ho fun r hr s hs => (hdeployments r hr s hs).1
  have hleaves : ((departures objects final).map Object.key).contains o.key = leaves final o := by
    rw [Bool.eq_iff_iff, List.contains_iff_mem]
    exact hkey
  simp only [Function.comp_apply, Object.key_absorbAll, hleaves]

end Merge

/-- The outcome of a merge. `final` has each join with its end, and `become` tells what the merge
makes of an object that stays. -/
structure Merged (objects : List Object) (joins final : List Join) (become : Object → Object)
    (merged : List Object) : Prop where
  resolved : Join.Resolved joins final
  ends : ∀ r ∈ final, ∀ t, Join.EndsAt joins r.source t ↔ t = r.target
  /-- Joined deployments go, all else stays in order. -/
  merged_eq : merged = (objects.filter (!leaves joins ·)).map become
  source : ∀ r ∈ final, ∀ s, ObjectList.workload? r.source objects = some s → leaves joins s
  /-- The pod of a source that is there ends in a deployment that stays. -/
  target : ∀ r ∈ final, ∀ s, ObjectList.workload? r.source objects = some s →
    ∃ t ∈ objects, t.isDeployment ∧ t.name = r.target ∧ become t ∈ merged
  containers : ∀ o ∈ objects, (become o).containers =
    o.containers ++ (Merging.arrivals objects final o).flatMap Object.containers
  /-- Volumes are added unless their names are taken. -/
  volumes : ∀ o ∈ objects, (become o).volumes = o.volumes ++
    (((Merging.arrivals objects final o).flatMap Object.volumes).eraseDupsBy
      fun v w => v.name == w.name).filter fun v => v.name ∉ o.volumes.map Volume.name
  emptied : ∀ o ∈ objects, (become o).emptied = o.emptied
  same : ∀ o ∈ objects, Merging.arrivals objects final o = [] → become o = o

section Outcome

open Merging

variable {objects merged : List Object} {joins final : List Join} {services : Dict Service}
  {o : Object} (hunique : ((objects.filter Object.isWorkload).map Object.name).Nodup)

include hunique

/-- Only deployments take pods in. -/
theorem isDeployment_of_arrivals (ho : o ∈ objects)
    (htargets : ∀ r ∈ joins, ∀ s, ObjectList.workload? r.source objects = some s →
      ∃ t, ObjectList.workload? r.target objects = some t ∧ t.isDeployment)
    (h : arrivals objects joins o ≠ []) : o.isDeployment := by
  rw [arrivals] at h
  split at h
  · rename_i hw
    obtain ⟨s, hs⟩ := List.exists_mem_of_ne_nil _ h
    obtain ⟨r, hr, hs⟩ := List.mem_filterMap.1 hs
    obtain ⟨hr, hn⟩ := List.mem_filter.1 hr
    obtain ⟨t, ht, hd⟩ := htargets r hr s hs
    obtain ⟨htm, htw, htn⟩ := ObjectList.workload?_some ht
    have hto : t = o :=
      ObjectList.eq_of_name hunique htm ho htw hw (htn.trans (by simpa using hn))
    exact hto ▸ hd
  · exact (h rfl).elim

/-- Where the pods of sources go to the ends of their joins, the rest is as a merge leaves it. -/
theorem merged_absorbAll (hsources : (joins.map (·.source)).Nodup)
    (hresolved : Join.Resolved joins final)
    (hdeployments : ∀ r ∈ final, ∀ s, ObjectList.workload? r.source objects = some s →
      s.isDeployment ∧ ∃ t, ObjectList.workload? r.target objects = some t ∧ t.isDeployment) :
    Merged objects joins final (fun o => o.absorbAll (arrivals objects final o))
      ((objects.filter (!leaves joins ·)).map fun o => o.absorbAll (arrivals objects final o)) := by
  have htargets : ∀ r ∈ final, ∀ s, ObjectList.workload? r.source objects = some s →
      ∃ t, ObjectList.workload? r.target objects = some t ∧ t.isDeployment :=
    fun r hr s hs => (hdeployments r hr s hs).2
  refine ⟨hresolved, ?_, rfl, ?_, ?_, ?_, ?_, ?_, ?_⟩
  · intro r hr t
    constructor
    · exact fun ht => ht.unique hsources (hresolved.endsAt hr)
    · rintro rfl
      exact hresolved.endsAt hr
  · intro r hr s hs
    rw [leaves, Bool.and_eq_true, decide_eq_true_eq, (ObjectList.workload?_some hs).2.2,
      ← hresolved.sources_eq]
    exact ⟨(hdeployments r hr s hs).1, List.mem_map_of_mem hr⟩
  · intro r hr s hs
    obtain ⟨t, ht, hd⟩ := htargets r hr s hs
    obtain ⟨htm, _, htn⟩ := ObjectList.workload?_some ht
    have hstays : leaves joins t = false := leaves_of_endsAt (htn.symm ▸ hresolved.endsAt hr)
    refine ⟨t, htm, hd, htn, ?_⟩
    exact List.mem_map_of_mem (List.mem_filter.2 ⟨htm, by rw [hstays]; rfl⟩)
  · intro o ho
    by_cases harr : arrivals objects final o = []
    · simp [harr, Object.absorbAll]
    · exact Object.containers_absorbAll (isDeployment_of_arrivals hunique ho htargets harr)
  · intro o ho
    by_cases harr : arrivals objects final o = []
    · simp [harr, Object.absorbAll]
    · rw [Object.volumes_absorbAll (isDeployment_of_arrivals hunique ho htargets harr),
        unionVolumes, unionBy_eq_append]
  · exact fun o _ => Object.emptied_absorbAll
  · intro o _ hnil
    rw [hnil]
    rfl

/-- A merge that succeeds brings the pods of joined deployments to the ends of their joins, in the
order of the services, and changes nothing else. -/
theorem mergeJoins_merged (hnames : (services.keys.map resourceName).Nodup)
    (h : mergeJoins objects services = ⟨merged, none⟩) :
    ∃ final become, Merged objects (Join.ofServices services) final become merged := by
  obtain ⟨final, hresolved, rfl, hdeployments⟩ := mergeJoins_eq hunique h
  have hsources := Join.ofServices_unique hnames
  exact ⟨final, _, merged_absorbAll hunique hsources hresolved hdeployments⟩

end Outcome

/-- A deployment of some containers that carry the names of their images. -/
def plainDeployment (name : String) (images : List String) : Object :=
  let containers := images.map fun image => ({ name := image, image } : Container)
  .controller
    { Controller.blank .deployment { name := some name } with
      template := { spec := some { containers } } }

/-- Two services join a third one, the second of them through the first. -/
def chainServices : Dict Service :=
  .ofList [("a", { networkMode := "service:b" }), ("b", {}), ("z", { networkMode := "service:a" })]

theorem mergeJoins_merged_chain : ∃ final become,
    Merged (["a", "b", "z"].map fun name => plainDeployment name [name])
      (Join.ofServices chainServices) final become [plainDeployment "b" ["b", "a", "z"]] :=
  mergeJoins_merged (by decide +kernel) (by decide +kernel) (by decide +kernel)

end Manifests
