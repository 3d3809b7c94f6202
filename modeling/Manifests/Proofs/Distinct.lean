import Manifests.Proofs.ConversionOrder
import Manifests.Proofs.Origin
import Manifests.Proofs.Ports

/-! Which workloads and services repeat the key of another one, and are dropped for it. -/
namespace Manifests

variable {services : Dict Service} {opt : Options} {objects merged : List Object}
  {made : List (List Object)} {u : WorkloadUnit} {s : Service} {workload : String}

/-- None of the objects that pass a test is dropped as a repetition. -/
def Lossless (p : Object → Bool) (objects : List Object) : Prop :=
  (ObjectList.distinct objects).filter p = objects.filter p

instance {p : Object → Bool} : Decidable (Lossless p objects) :=
  inferInstanceAs (Decidable (_ = _))

/-- The objects of a conversion in their namespace, before repetitions go. -/
def gathered (services : Dict Service) (opt : Options) : List Object :=
  let made := (unitsOf (keyed services) opt.groupMode).mapM fun u => u.convert opt
  (joined services opt (made.toOption.getD [])).left.map (placed opt)

theorem gathered_of_joined
    (hmade : (unitsOf (keyed services) opt.groupMode).mapM (·.convert opt) = .ok made)
    (hmerge : joined services opt made = ⟨merged, none⟩) :
    gathered services opt = merged.map (placed opt) := by
  rw [gathered, hmade]
  change (joined services opt made).left.map (placed opt) = _
  rw [hmerge]

theorem convert_eq_gathered (h : convert services opt = .ok objects) :
    objects = ObjectList.servicesFirst (ObjectList.distinct (gathered services opt)) := by
  obtain ⟨made, merged, hmade, hmerge, rfl⟩ := joined_of_convert h
  rw [gathered_of_joined hmade hmerge, arranged_eq]

/-- A test by kinds loses nothing exactly where the keys of what passes it are different. -/
theorem lossless_iff {p : Object → Bool} (hp : ∀ a b : Object, a.kind = b.kind → p a = p b) :
    Lossless p objects ↔ ((objects.filter p).map Object.key).Nodup := by
  have hfilter : (ObjectList.distinct objects).filter p =
      firstOfEach Object.key (objects.filter p) :=
    filter_unionBy fun a b hab => hp a b (congrArg ObjectKey.kind hab)
  rw [Lossless, hfilter, firstOfEach_eq_self_iff]

section Workloads

variable {units : List WorkloadUnit} {base : List Object}

/-- The workloads that are left after a merge are those of the units that stay. -/
theorem keys_merged
    (hunits : List.Forall₂ (fun u o => ∃ spec os, u.Converted opt spec o os) units
      (base.filter Object.isWorkload))
    (hmerge : mergeJoins base services = ⟨merged, none⟩) :
    (merged.filter Object.isWorkload).map Object.key =
      (units.filter (·.Stays opt (Join.ofServices services))).map fun u =>
        ⟨(u.chosen opt).name, opt.namespaceName, u.name⟩ := by
  -- The merge tells what goes by keys; a unit's workload has one of these keys unless it stays.
  obtain ⟨hemptied, hdeployments⟩ := mergeJoins_emptied hmerge
  let gone := (Merging.departures base (Join.ofServices services)).map Object.key
  have hleft : (merged.filter Object.isWorkload).map Object.key =
      ((base.filter Object.isWorkload).filter (!gone.contains ·.key)).map Object.key := by
    have hwork := filter_of_emptied (fun _ => Object.isWorkload_emptied) hemptied
    rw [map_of_emptied (fun _ => Object.key_emptied) hwork, List.filter_comm]
  rw [hleft]
  refine map_filter_of_pairs hunits ?_
  rintro u o ho ⟨spec, os, hc⟩
  have hgone := key_mem_departures_iff hunits hdeployments (List.mem_of_mem_filter ho) hc.made
  constructor
  · rw [Bool.eq_iff_iff, Bool.not_eq_true', ← Bool.not_eq_true, List.contains_iff_mem, hgone,
      not_not, decide_eq_true_eq]
  · rw [Object.key, hc.made.kind_eq, hc.made.namespaceName, hc.made.name_eq]

/-- Units of one kind keep their workloads where their names are different. -/
theorem lossless_workloads_iff
    (hunits : List.Forall₂ (fun u o => ∃ spec os, u.Converted opt spec o os) units
      (base.filter Object.isWorkload))
    (hmerge : mergeJoins base services = ⟨merged, none⟩) :
    Lossless Object.isWorkload (merged.map (placed opt)) ↔
      ((units.filter (·.Stays opt (Join.ofServices services))).map fun u =>
        (u.chosen opt, u.name)).Nodup := by
  let space := (filled opt.namespaceName).or opt.namespaceName
  let toKey (e : WorkloadKind × String) : ObjectKey := ⟨e.1.name, space, e.2⟩
  have hinjective : Function.Injective toKey := by
    rintro ⟨k, n⟩ ⟨k', n'⟩ h
    obtain ⟨hkind, _, hname⟩ := ObjectKey.mk.inj h
    exact Prod.ext (WorkloadKind.name_injective hkind) hname
  have hkeys : ((merged.map (placed opt)).filter Object.isWorkload).map Object.key =
      ((merged.filter Object.isWorkload).map Object.key).map fun k =>
        ⟨k.kind, (filled opt.namespaceName).or k.namespaceName, k.name⟩ := by
    rw [List.filter_map, List.map_map, List.map_map]
    simp only [Function.comp_def, isWorkload_placed, key_placed]
    rfl
  rw [lossless_iff fun _ _ => Object.isWorkload_of_kind, hkeys, keys_merged hunits hmerge,
    ← List.nodup_map_iff hinjective, List.map_map, List.map_map]
  rfl

end Workloads

/-- The names under which a service is reached. -/
def Service.frontNames (s : Service) : List String :=
  let name := resourceName s.name
  match ServiceType.ofText s.serviceType with
  | .headless => [name]
  | .loadBalancer =>
    (if s.ports.any (·.protocolName ≠ "UDP") then [name ++ "-tcp"] else []) ++
      if s.ports.any (·.protocolName = "UDP") then [name ++ "-udp"] else []
  | .clusterIp | .nodePort => if s.ports = [] then [] else [name]

section Services

theorem names_fronts : (s.fronts workload).map (·.metadata.anyName) = s.frontNames := by
  have hstreams := s.filter_servicePorts_ne_nil not
  have hdatagrams := s.filter_servicePorts_ne_nil id
  by_cases hports : s.ports = []
  · cases ht : ServiceType.ofText s.serviceType <;>
      simp [Service.fronts, Service.frontNames, Service.frontNamed, hports, ht]
  · cases ht : ServiceType.ofText s.serviceType with
    | loadBalancer =>
      simp only [Service.fronts, Service.frontNames, Service.frontNamed, ht,
        if_neg hports, decide_not, id_eq] at hstreams hdatagrams ⊢
      simp only [← hstreams, ← hdatagrams, List.map_map]
      by_cases hs : s.servicePorts.filter (!·.isDatagram) = [] <;>
        by_cases hd : s.servicePorts.filter (·.isDatagram) = [] <;>
          simp [hs, hd, String.append_assoc]
    | clusterIp | nodePort | headless =>
      simp [Service.fronts, Service.frontNames, Service.frontNamed, hports, ht]

theorem space_fronts {f : ClusterService} (h : f ∈ s.fronts workload) :
    f.metadata.namespaceName = none := by
  obtain ⟨_, _, _, _, rfl⟩ := Service.exists_frontNamed h
  rfl

/-- The fronts of a service keep its own name, whatever kind of workload runs it. -/
theorem frontNames_underKind {kind : WorkloadKind} :
    (s.underKind kind).frontNames = s.frontNames :=
  WorkloadUnit.underKind_observed _ fun _ => rfl

/-- A service is told from others in its namespace by its name alone. -/
def serviceKey (opt : Options) (name : String) : ObjectKey :=
  ⟨"Service", filled opt.namespaceName, name⟩

theorem serviceKey_injective : Function.Injective (serviceKey opt) :=
  fun _ _ h => (ObjectKey.mk.inj h).2.2

theorem keys_fronts :
    ((s.fronts workload).map Object.service).map (fun o => (placed opt o).key) =
      s.frontNames.map (serviceKey opt) := by
  have hkeys : ((s.fronts workload).map Object.service).map (fun o => (placed opt o).key) =
      ((s.fronts workload).map (·.metadata.anyName)).map (serviceKey opt) := by
    rw [List.map_map, List.map_map]
    refine List.map_congr_left fun f hf => ?_
    rw [Function.comp_apply, key_placed, Object.metadata, space_fronts hf, Option.or_none]
    rfl
  rw [hkeys, names_fronts]

/-- Services stay where all names for them are different. -/
theorem lossless_services_iff {units : List WorkloadUnit}
    (hmembers : ∀ u ∈ units, u.members ≠ [])
    (hmade : List.Forall₂ (fun u os => u.convert opt = .ok os) units made)
    (hmerge : mergeJoins made.flatten services = ⟨merged, none⟩) :
    Lossless Object.isService (merged.map (placed opt)) ↔
      ((units.flatMap (·.members)).flatMap Service.frontNames).Nodup := by
  have hkeys : ((merged.map (placed opt)).filter Object.isService).map Object.key =
      ((units.flatMap (·.members)).flatMap Service.frontNames).map (serviceKey opt) := by
    rw [List.filter_map, List.map_map]
    simp only [Function.comp_def, isService_placed]
    rw [filter_mergeJoins (fun _ => isWorkload_eq_false) hmerge,
      filter_made (fun _ => isWorkload_eq_false) (fun _ => rfl) hmembers hmade]
    simp only [WorkloadUnit.filter_siblings_isService, List.map_flatMap, List.flatMap_assoc,
      WorkloadUnit.servicesUnder, List.flatMap_map, keys_fronts, frontNames_underKind]
  rw [lossless_iff fun _ _ => Object.isService_of_kind, hkeys,
    List.nodup_map_iff serviceKey_injective]

end Services

/-- Repetitions go by keys. A workload is lost exactly where two units that stay have workloads of
one kind and name, and a service exactly where two services are reached under one name. -/
theorem lossless_convert (h : convert services opt = .ok objects) :
    objects = ObjectList.servicesFirst (ObjectList.distinct (gathered services opt)) ∧
    (Lossless Object.isWorkload (gathered services opt) ↔
      (((unitsOf (keyed services) opt.groupMode).filter
        (·.Stays opt (Join.ofServices services))).map fun u => (u.chosen opt, u.name)).Nodup) ∧
    (Lossless Object.isService (gathered services opt) ↔
      ((conversionOrder (keyed services) opt.groupMode).flatMap Service.frontNames).Nodup) := by
  refine ⟨convert_eq_gathered h, ?_⟩
  obtain ⟨made, merged, hmapM, hmerge, _⟩ := joined_of_convert h
  have hmade := mapM_ok hmapM
  have hunits := workloads_made (fun _ => members_ne_nil) hmade
  rw [gathered_of_joined hmapM hmerge]
  constructor
  · rw [lossless_workloads_iff hunits hmerge, ofServices_enrolled]
  · rw [lossless_services_iff (fun _ => members_ne_nil) hmade hmerge, members_eq_conversionOrder]

/-- A load balancer for two protocols, next to a service of the name of one of its halves. -/
def halvedServices : Dict Service :=
  let balanced : Service :=
    { serviceType := "LoadBalancer"
      ports := [{ containerPort := 53 }, { containerPort := 53, protocol := "UDP" }] }
  .ofList [("web", balanced), ("web-tcp", { ports := [{ containerPort := 80 }] })]

theorem lossless_convert_halved :
    Lossless Object.isWorkload (gathered halvedServices {}) ∧
    ¬ Lossless Object.isService (gathered halvedServices {}) := by
  have hok : convert halvedServices {} = .ok (output halvedServices {}) :=
    convert_output (by decide +kernel)
  obtain ⟨_, hworkloads, hservices⟩ := lossless_convert hok
  exact ⟨hworkloads.2 (by decide +kernel), fun h => absurd (hservices.1 h) (by decide +kernel)⟩

/-- Two services whose names are one name of an object. -/
def clashingServices : Dict Service :=
  .ofList [("web-app", { ports := [{ containerPort := 80 }] }),
    ("web_app", { ports := [{ containerPort := 8080 }] })]

theorem not_all_lossless : ¬ ∀ (services : Dict Service) (opt : Options) (objects : List Object),
    (∀ s ∈ services.values, s.inGroup = false) → convert services opt = .ok objects →
      Lossless Object.isWorkload (gathered services opt) ∧
      Lossless Object.isService (gathered services opt) := by
  intro h
  have hlost : ¬ Lossless Object.isWorkload (gathered clashingServices {}) := by decide +kernel
  exact hlost (h clashingServices {} _ (by decide +kernel) (convert_output (by decide +kernel))).1

end Manifests
