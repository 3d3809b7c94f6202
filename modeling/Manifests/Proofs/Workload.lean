import Manifests.Proofs.Unit

/-! The workload that a unit gets, and the objects beside it. -/
namespace Manifests

namespace Object

/-- The pods of a workload carry all of these labels. -/
def Carries (o : Object) (selector : Dict String) : Prop :=
  ∃ labels, o.podLabels? = some labels ∧
    ∀ k v, selector.get? k = some v → labels.get? k = some v

/-- The value of the label by which services select the pods. -/
def serviceLabel? (o : Object) : Option String := o.podLabels?.bind (·.get? Label.service)

/-- Two workloads that differ in nothing but the form of their controllers. -/
structure Alike (o o' : Object) : Prop where
  kind : o.kind = o'.kind
  metadata : o.metadata = o'.metadata
  isWorkload : o.isWorkload = o'.isWorkload
  podSpec? : o.podSpec? = o'.podSpec?
  podLabels? : o.podLabels? = o'.podLabels?

variable {o : Object} {claims : List Claim}

theorem alike_recreating : o.recreating.Alike o := by
  cases o with
  | controller c => rcases c with ⟨_, form, _, _⟩; cases form <;> exact ⟨rfl, rfl, rfl, rfl, rfl⟩
  | specless k m => cases k <;> exact ⟨rfl, rfl, rfl, rfl, rfl⟩
  | pod | service | claim | configMap | autoscaler | networkPolicy =>
    exact ⟨rfl, rfl, rfl, rfl, rfl⟩

theorem alike_claiming : (o.claiming claims).Alike o := by
  cases o with
  | controller c => rcases c with ⟨_, form, _, _⟩; cases form <;> exact ⟨rfl, rfl, rfl, rfl, rfl⟩
  | specless k m =>
    cases k with
    | statefulSet => rw [claiming]; split <;> exact ⟨rfl, rfl, rfl, rfl, rfl⟩
    | deployment | daemonSet | deploymentConfig => exact ⟨rfl, rfl, rfl, rfl, rfl⟩
  | pod | service | claim | configMap | autoscaler | networkPolicy =>
    exact ⟨rfl, rfl, rfl, rfl, rfl⟩

theorem Alike.trans {a b c : Object} (h : a.Alike b) (h' : b.Alike c) : a.Alike c :=
  ⟨h.kind.trans h'.kind, h.metadata.trans h'.metadata, h.isWorkload.trans h'.isWorkload,
    h.podSpec?.trans h'.podSpec?, h.podLabels?.trans h'.podLabels?⟩

theorem claimTemplates_recreating : o.recreating.claimTemplates = o.claimTemplates := by
  cases o with
  | controller c => rcases c with ⟨_, form, _, _⟩; cases form <;> rfl
  | specless k m => cases k <;> rfl
  | pod | service | claim | configMap | autoscaler | networkPolicy => rfl

theorem claimTemplates_claiming (h : o.claimTemplates = []) :
    (o.claiming claims).claimTemplates =
      if o.kind = WorkloadKind.statefulSet.name then claims else [] := by
  cases o with
  | controller c =>
    rcases c with ⟨_, form, _, _⟩
    cases form with
    | statefulSet n s old =>
      have hold : old = [] := h
      by_cases hc : claims = [] <;>
        simp [claiming, claimTemplates, kind, Controller.kind, WorkloadKind.name, hc, hold]
    | deployment | daemonSet | deploymentConfig =>
      simp [claiming, claimTemplates, kind, Controller.kind, WorkloadKind.name]
  | specless k m =>
    cases k with
    | statefulSet =>
      by_cases hc : claims = [] <;>
        simp [claiming, claimTemplates, kind, SpeclessKind.kind, WorkloadKind.name, hc]
    | deployment | daemonSet | deploymentConfig =>
      simp [claiming, claimTemplates, kind, SpeclessKind.kind, WorkloadKind.name]
  | pod | service | claim | configMap | autoscaler | networkPolicy =>
    simp [claiming, claimTemplates, kind, WorkloadKind.name]

end Object

theorem networkLabel_ne_service {network : String} : networkLabel network ≠ Label.service := by
  intro h
  have hlist := congrArg (fun s : String => s.toList.drop 10) h
  rw [networkLabel] at hlist
  simp [Label.network, Label.service] at hlist

theorem get?_podLabels {name : String} {networks : List String} {opt : Options} :
    (podLabels name networks opt).get? Label.service = some name := by
  have hself : (selectorLabels name).get? Label.service = some name := by
    rw [selectorLabels, Dict.get?_singleton, if_pos rfl]
  rw [podLabels]
  split
  · rw [Dict.get?_insertAll_of_notMem, hself]
    intro hmem
    obtain ⟨n, _, hn⟩ := List.mem_map.1 (List.map_map ▸ hmem)
    exact networkLabel_ne_service hn
  · exact hself

/-- The config maps that are made for a service. -/
def Service.configMaps (s : Service) (workload : String) (opt : Options) : List ConfigMap :=
  s.envMaps ++ (s.providedVolumes workload opt).filterMap (·.configMap)

/-- All fronts of a service differ in their names, ports and types only. -/
theorem Service.exists_frontNamed {s : Service} {workload : String} {f : ClusterService}
    (h : f ∈ s.fronts workload) : ∃ name ports serviceType clusterIp,
      f = { s.frontNamed workload name ports with serviceType, clusterIp } := by
  simp only [fronts] at h
  split at h
  · split at h
    · exact ⟨_, _, _, _, List.mem_singleton.1 h⟩
    · cases h
  · split at h
    · obtain ⟨e, _, rfl⟩ := List.mem_map.1 h
      exact ⟨_, _, _, _, rfl⟩
    · exact ⟨_, _, _, _, List.mem_singleton.1 h⟩

namespace WorkloadUnit

variable {u : WorkloadUnit} {primary : Service} {kind : WorkloadKind} {opt : Options}
  {spec : PodSpec} {claims : List Claim}

/-- A workload of the unit's name, around a finished pod, that makes some claims by itself. -/
structure Made (u : WorkloadUnit) (kind : WorkloadKind) (opt : Options) (spec : PodSpec)
    (claims : List Claim) (o : Object) : Prop where
  isWorkload : o.isWorkload
  kind_eq : o.kind = kind.name
  name_eq : o.name = u.name
  namespaceName : o.metadata.namespaceName = opt.namespaceName
  podSpec?_eq : o.podSpec? = some spec
  serviceLabel? : o.serviceLabel? = some u.name
  claimTemplates : o.claimTemplates = claims

theorem made_fill {replicas : Option Int} {networks : List String} {annotations : Dict String} :
    Made u kind opt spec [] ((Object.newWorkload kind u.name primary replicas opt).fill
      (fillTemplate (podLabels u.name networks opt) spec) (annotate annotations)).left := by
  have hname : ∀ m, (annotate annotations m).anyName = m.anyName := by
    intro m
    rw [annotate]
    split <;> rfl
  have hspace : ∀ m, (annotate annotations m).namespaceName = m.namespaceName := by
    intro m
    rw [annotate]
    split <;> rfl
  have hlabels : ∀ m, (annotate annotations m).labels = m.labels := by
    intro m
    rw [annotate]
    split <;> rfl
  have hunion : ∀ d : Dict String,
      (d.union (podLabels u.name networks opt)).get? Label.service = some u.name :=
    fun d => Dict.get?_union_of_some get?_podLabels
  cases kind with
  | pod =>
    refine ⟨rfl, rfl, hname _, hspace _, rfl, ?_, rfl⟩
    change ((annotate annotations _).labels.bind _) = _
    rw [hlabels]
    exact hunion _
  | deployment | daemonSet | statefulSet | deploymentConfig =>
    exact ⟨rfl, rfl, hname _, hspace _, rfl, hunion _, rfl⟩

theorem Made.of_alike {o o' : Object} (h : Made u kind opt spec [] o) (ha : o'.Alike o)
    (hc : o'.claimTemplates = claims) : Made u kind opt spec claims o' where
  isWorkload := ha.isWorkload.trans h.isWorkload
  kind_eq := ha.kind.trans h.kind_eq
  name_eq := by rw [Object.name, ha.metadata]; exact h.name_eq
  namespaceName := by rw [ha.metadata]; exact h.namespaceName
  podSpec?_eq := ha.podSpec?.trans h.podSpec?_eq
  serviceLabel? := by rw [Object.serviceLabel?, ha.podLabels?]; exact h.serviceLabel?
  claimTemplates := hc

theorem failure_workload : (u.workload primary kind opt spec).failure = none := by
  rw [workload]
  cases kind <;> rfl

theorem claims_eq_nil (h : ¬ (u.servicesUnder kind).any (·.volumes ≠ [])) :
    u.claims kind opt = [] := by
  rw [WorkloadUnit.claims]
  split
  · rw [List.flatMap_eq_nil_iff]
    intro s hs
    have hv : s.volumes = [] := by
      by_contra hv
      exact h (List.any_eq_true.2 ⟨s, hs, by simpa using hv⟩)
    simp [Service.providedVolumes, hv]
  · rfl

theorem claims_eq_ite : u.claims kind opt =
    if kind.name = WorkloadKind.statefulSet.name then u.claims kind opt else [] := by
  cases kind <;> rfl

theorem Made.claiming {o : Object} (h : Made u kind opt spec [] o) :
    Made u kind opt spec (u.claims kind opt) (o.recreating.claiming (u.claims kind opt)) := by
  refine h.of_alike (Object.alike_claiming.trans Object.alike_recreating) ?_
  have hnone := Object.claimTemplates_recreating.trans h.claimTemplates
  rw [Object.claimTemplates_claiming hnone, Object.alike_recreating.kind, h.kind_eq,
    ← claims_eq_ite]

theorem made_workload :
    Made u kind opt spec (u.claims kind opt) (u.workload primary kind opt spec).left := by
  rw [workload]
  dsimp only
  split
  · exact made_fill.claiming
  · rename_i h
    rw [claims_eq_nil h]
    exact made_fill

/-- The labels that a pod has before its own are added. A bare pod has those of its workload. -/
def firstLabels (u : WorkloadUnit) (kind : WorkloadKind) (primary : Service) : Dict String :=
  if kind.isController then selectorLabels u.name else primary.workloadLabels u.name

theorem podLabels?_workload : (u.workload primary kind opt spec).left.podLabels? =
    some ((u.firstLabels kind primary).union
      (podLabels u.name (firstOfEach id ((u.servicesUnder kind).flatMap (·.networks))) opt)) := by
  have hlabels : ∀ (annotations : Dict String) (m : Metadata),
      (annotate annotations m).labels = m.labels := by
    intro annotations m
    rw [annotate]
    split <;> rfl
  have hfill : ∀ {replicas : Option Int} {labels annotations : Dict String},
      ((Object.newWorkload kind u.name primary replicas opt).fill (fillTemplate labels spec)
        (annotate annotations)).left.podLabels? =
        some ((u.firstLabels kind primary).union labels) := by
    intro replicas labels annotations
    cases kind with
    | pod => exact hlabels _ _
    | deployment | daemonSet | statefulSet | deploymentConfig => rfl
  rw [workload]
  dsimp only
  split
  · rw [(Object.alike_claiming.trans Object.alike_recreating).podLabels?, hfill]
  · exact hfill

/-- The kind of workload that runs the unit; the first service decides on it. -/
def chosen (u : WorkloadUnit) (opt : Options) : WorkloadKind :=
  match u.members with
  | [] => .deployment
  | primary :: _ => .choose primary opt

/-- The volumes of the pod that the unit is converted to. -/
def ownVolumes (u : WorkloadUnit) (opt : Options) : List Volume :=
  firstOfEach Volume.name
    ((u.servicesUnder (u.chosen opt)).flatMap (podVolumes u.name (u.chosen opt) opt))

/-- The objects of a unit: its workload, the siblings of that, and maybe an autoscaler. -/
structure Converted (u : WorkloadUnit) (opt : Options) (spec : PodSpec) (o : Object)
    (objects : List Object) : Prop where
  podSpec_ok : u.podSpec (u.chosen opt) opt = .ok spec
  made : Made u (u.chosen opt) opt spec (u.claims (u.chosen opt) opt) o
  workload_eq : ∃ primary, u.members.head? = some primary ∧
    o = (u.workload primary (u.chosen opt) opt spec).left
  objects_eq : ∃ scaling : List Object, (∀ a ∈ scaling, ∃ s, a = .autoscaler s) ∧ objects =
    o :: (u.servicesUnder (u.chosen opt)).flatMap (siblings u.name (u.chosen opt) opt) ++ scaling

theorem convert_ok {objects : List Object} (hu : u.members ≠ []) (h : u.convert opt = .ok objects) :
    ∃ spec o, Converted u opt spec o objects := by
  rw [convert] at h
  split at h
  · rename_i hm
    exact (hu hm).elim
  · rename_i primary rest hm
    have hchosen : u.chosen opt = .choose primary opt := by
      rw [chosen, hm]
    obtain ⟨spec, hspec, h⟩ := bind_ok h
    simp only [failure_workload] at h
    cases h
    refine ⟨spec, (u.workload primary (.choose primary opt) opt spec).left, ?_, ?_, ?_, ?_⟩
    · rw [hchosen]
      exact hspec
    · rw [hchosen]
      exact made_workload
    · rw [hm, hchosen]
      exact ⟨primary, rfl, rfl⟩
    · rw [hchosen]
      refine ⟨_, fun a ha => ?_, rfl⟩
      obtain ⟨s, _, rfl⟩ := Option.map_eq_some_iff.1 (Option.mem_toList.1 ha)
      exact ⟨_, rfl⟩

/-- The services and the config maps beside a workload. -/
theorem filter_siblings {p : Object → Bool} {workload : String} {s : Service}
    (hclaim : ∀ c, p (.claim c) = false) (hpolicy : ∀ n, p (.networkPolicy n) = false) :
    (siblings workload kind opt s).filter p =
      ((s.fronts workload).filter (p <| .service ·)).map .service ++
      ((s.configMaps workload opt).filter (p <| .configMap ·)).map .configMap := by
  simp only [siblings, Service.configMaps, List.filter_append, apply_ite (List.filter p),
    List.filter_map, Function.comp_def, hclaim, hpolicy, List.filter_false, List.filter_nil,
    List.map_nil, ite_self, List.append_nil, List.map_append, List.append_assoc]

theorem filter_siblings_isService {workload : String} {s : Service} :
    (siblings workload kind opt s).filter Object.isService =
      (s.fronts workload).map .service := by
  rw [filter_siblings (fun _ => rfl) fun _ => rfl]
  simp [Object.isService]

theorem not_isWorkload_of_mem_siblings {workload : String} {s : Service} {o : Object}
    (h : o ∈ siblings workload kind opt s) : o.isWorkload = false := by
  have hnone : (siblings workload kind opt s).filter Object.isWorkload = [] := by
    rw [filter_siblings (fun _ => rfl) fun _ => rfl]
    simp [Object.isWorkload]
  simpa using List.filter_eq_nil_iff.1 hnone o h

namespace Converted

variable {o a : Object} {objects : List Object} (h : Converted u opt spec o objects)

include h

theorem mem_of_sibling {s : Service} (hs : s ∈ u.servicesUnder (u.chosen opt))
    (ha : a ∈ siblings u.name (u.chosen opt) opt s) : a ∈ objects := by
  obtain ⟨scaling, hscaling, rfl⟩ := h.objects_eq
  exact List.mem_append_left _ (List.mem_cons_of_mem _ (List.mem_flatMap.2 ⟨s, hs, ha⟩))

theorem mem_cases (ha : a ∈ objects) : a = o ∨
    (∃ s ∈ u.servicesUnder (u.chosen opt), a ∈ siblings u.name (u.chosen opt) opt s) ∨
    ∃ scaling, a = .autoscaler scaling := by
  obtain ⟨scaling, hscaling, rfl⟩ := h.objects_eq
  rcases List.mem_append.1 ha with ha | ha
  · rcases List.mem_cons.1 ha with rfl | ha
    · exact Or.inl rfl
    · exact Or.inr (Or.inl (List.mem_flatMap.1 ha))
  · exact Or.inr (Or.inr (hscaling a ha))

theorem not_isWorkload (ha : a ∈ objects) (hne : a ≠ o) : a.isWorkload = false := by
  rcases h.mem_cases ha with rfl | ⟨s, _, ha⟩ | ⟨scaling, rfl⟩
  · exact (hne rfl).elim
  · exact not_isWorkload_of_mem_siblings ha
  · rfl

theorem cores : o.containers.map Container.core = u.members.map Service.core := by
  rw [Object.containers, h.made.podSpec?_eq]
  exact cores_podSpec h.podSpec_ok

theorem volumes : o.volumes = u.ownVolumes opt := by
  rw [Object.volumes, h.made.podSpec?_eq]
  exact volumeList_podSpec h.podSpec_ok

/-- What is no workload and no autoscaler stands beside the workload. -/
theorem filter_siblings {p : Object → Bool} (hp : ∀ o, p o → o.isWorkload = false)
    (hscaling : ∀ a, p (.autoscaler a) = false) : objects.filter p =
      (u.servicesUnder (u.chosen opt)).flatMap fun s =>
        (siblings u.name (u.chosen opt) opt s).filter p := by
  obtain ⟨scaling, hrest, rfl⟩ := h.objects_eq
  have ho : ¬ p o := by
    intro ho
    have hw := h.made.isWorkload
    rw [hp o ho] at hw
    cases hw
  have hnone : scaling.filter p = [] := by
    rw [List.filter_eq_nil_iff]
    intro a ha
    obtain ⟨s, rfl⟩ := hrest a ha
    simp [hscaling]
  rw [List.cons_append, List.filter_cons_of_neg ho, List.filter_append, hnone, List.append_nil,
    List.filter_flatMap]

theorem workloads : objects.filter Object.isWorkload = [o] := by
  obtain ⟨scaling, hscaling, rfl⟩ := h.objects_eq
  have hsiblings : ((u.servicesUnder (u.chosen opt)).flatMap
      (siblings u.name (u.chosen opt) opt)).filter Object.isWorkload = [] := by
    rw [List.filter_eq_nil_iff]
    intro a ha
    obtain ⟨s, _, ha⟩ := List.mem_flatMap.1 ha
    simp [not_isWorkload_of_mem_siblings ha]
  have hrest : scaling.filter Object.isWorkload = [] := by
    rw [List.filter_eq_nil_iff]
    intro a ha
    obtain ⟨s, rfl⟩ := hscaling a ha
    exact Bool.false_ne_true
  rw [List.cons_append, List.filter_cons_of_pos h.made.isWorkload, List.filter_append, hsiblings,
    hrest, List.append_nil]

end Converted

end WorkloadUnit

end Manifests
