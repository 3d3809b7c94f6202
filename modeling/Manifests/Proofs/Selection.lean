import Manifests.Proofs.Name
import Manifests.Proofs.Origin

/-! Which services of the output find pods. -/
namespace Manifests

variable {services : Dict Service} {opt : Options} {objects : List Object} {o : Object}
  {made : List (List Object)} {n : String}

theorem get?_selectorLabels {k : String} :
    (selectorLabels n).get? k = if k = Label.service then some n else none :=
  Dict.get?_singleton

theorem selectorLabels_injective {a b : String} (h : selectorLabels a = selectorLabels b) :
    a = b := by
  have hget := congrArg (·.get? Label.service) h
  simpa [get?_selectorLabels] using hget

namespace Object

theorem carries_selectorLabels : o.Carries (selectorLabels n) ↔ o.serviceLabel? = some n := by
  rw [serviceLabel?, Option.bind_eq_some_iff]
  constructor
  · rintro ⟨labels, hlabels, hall⟩
    exact ⟨labels, hlabels, hall _ _ (by rw [get?_selectorLabels, if_pos rfl])⟩
  · rintro ⟨labels, hlabels, hget⟩
    refine ⟨labels, hlabels, fun k v hkv => ?_⟩
    rw [get?_selectorLabels] at hkv
    split at hkv
    · rename_i hk
      cases hkv
      rw [hk, hget]
    · cases hkv

end Object

/-- A service selects the pods of the unit that it is made for. -/
theorem selector_of_mem_fronts {s : Service} {workload : String} {svc : ClusterService}
    (h : svc ∈ s.fronts workload) : svc.selector = selectorLabels (resourceName workload) := by
  obtain ⟨_, _, _, _, rfl⟩ := Service.exists_frontNamed h
  rfl

theorem mem_siblings_service {workload : String} {kind : WorkloadKind} {s : Service}
    {svc : ClusterService} (h : .service svc ∈ WorkloadUnit.siblings workload kind opt s) :
    svc ∈ s.fronts workload := by
  have hmem := List.mem_filter.2 ⟨h, show (Object.service svc).isService from rfl⟩
  rw [WorkloadUnit.filter_siblings_isService] at hmem
  obtain ⟨f, hf, he⟩ := List.mem_map.1 hmem
  cases he
  exact hf

theorem service_of_placed {svc : ClusterService} (h : placed opt o = .service svc) :
    ∃ s, o = .service s ∧ s.selector = svc.selector := by
  obtain ⟨f, hf⟩ := exists_mapMetadata opt o
  rw [hf] at h
  cases o with
  | service s =>
    cases h
    exact ⟨s, rfl, rfl⟩
  | controller | specless | pod | claim | configMap | autoscaler | networkPolicy => cases h

section Output

variable {units : List WorkloadUnit} {base merged : List Object} {u : WorkloadUnit}
  (hunits : List.Forall₂ (fun u o => ∃ spec os, u.Converted opt spec o os) units
    (base.filter Object.isWorkload))
  (hmerge : mergeJoins base services = ⟨merged, none⟩)

include hunits hmerge

/-- Every workload of the output was made for a unit that stays. -/
theorem exists_unit_of_mem (ho : o ∈ arranged opt merged) (hw : o.isWorkload) :
    ∃ u ∈ units, u.Stays opt (Join.ofServices services) ∧ o.name = u.name ∧
      o.serviceLabel? = some u.name := by
  obtain ⟨u, a, horigin⟩ := exists_origin_of_mem hunits hmerge ho hw
  exact ⟨u, horigin.mem, horigin.stays, horigin.name_eq, horigin.serviceLabel?_eq⟩

/-- A unit that stays has a workload of its name in the output. -/
theorem exists_mem_of_stays (hu : u ∈ units) (hstays : u.Stays opt (Join.ofServices services)) :
    ∃ o ∈ arranged opt merged, o.isWorkload ∧ o.name = u.name := by
  obtain ⟨o, ho, hkind, hname⟩ := exists_workload_of_stays hunits hmerge hu hstays
  exact ⟨o, ho, Object.isWorkload_of_kind_eq hkind, hname⟩

end Output

/-- The services of the output select by the names of units. -/
theorem exists_selector (h : convert services opt = .ok objects) {svc : ClusterService}
    (hs : .service svc ∈ objects) :
    ∃ u ∈ unitsOf (keyed services) opt.groupMode, svc.selector = selectorLabels u.name := by
  obtain ⟨u, hu, os, hconvert, b, hb, hplaced⟩ := exists_made_of_mem h hs rfl
  obtain ⟨s, rfl, hsel⟩ := service_of_placed hplaced.symm
  obtain ⟨spec, w, hc⟩ := WorkloadUnit.convert_ok (members_ne_nil hu) hconvert
  obtain ⟨name, hname⟩ := exists_name_of_mem_unitsOf hu
  refine ⟨u, hu, ?_⟩
  rcases hc.mem_cases hb with rfl | ⟨t, _, ht⟩ | ⟨scaling, he⟩
  · exact absurd hc.made.isWorkload Bool.false_ne_true
  · rw [← hsel, selector_of_mem_fronts (mem_siblings_service ht), hname, resourceName_resourceName]
  · cases he

/-- A service of the output selects the pods of a workload exactly when the unit that it is made
for stays: the service of a unit whose workload is joined to another one selects nothing. -/
theorem selects_iff_stays (h : convert services opt = .ok objects) {svc : ClusterService}
    (hs : .service svc ∈ objects) :
    (∃ o ∈ objects, o.isWorkload ∧ o.Carries svc.selector) ↔
      ∃ u ∈ unitsOf (keyed services) opt.groupMode,
        svc.selector = selectorLabels u.name ∧ u.Stays opt (Join.ofServices services) := by
  obtain ⟨u₀, _, hsel⟩ := exists_selector h hs
  obtain ⟨made, merged, hmade, hmerge, rfl⟩ := convert_ok h
  have hunits := workloads_made (fun _ => members_ne_nil) hmade
  simp only [hsel, Object.carries_selectorLabels]
  rw [← ofServices_enrolled opt.groupMode]
  constructor
  · rintro ⟨o, ho, hw, hlabel⟩
    obtain ⟨u, hu, hstays, _, hname⟩ := exists_unit_of_mem hunits hmerge ho hw
    rw [hlabel, Option.some_inj] at hname
    exact ⟨u, hu, by rw [hname], hstays⟩
  · rintro ⟨u, hu, hsame, hstays⟩
    obtain ⟨o, ho, hw, hn⟩ := exists_mem_of_stays hunits hmerge hu hstays
    obtain ⟨v, _, _, hname, hlabel⟩ := exists_unit_of_mem hunits hmerge ho hw
    refine ⟨o, ho, hw, ?_⟩
    rw [hlabel, ← hname, hn, selectorLabels_injective hsame]

/-- A service that joins another one, both of them with a port. -/
def joinedServices : Dict Service :=
  let cache : Service :=
    { image := "redis"
      networkMode := "service:web"
      ports := [{ containerPort := 6379 }] }
  .ofList [("cache", cache), ("web", { image := "nginx", ports := [{ containerPort := 80 }] })]

def plainFront (name : String) (port : Int) : ClusterService where
  metadata := { name := some name, labels := some (selectorLabels name) }
  selector := selectorLabels name
  ports := [{ name := toString port, port, targetPort := some port }]
  serviceType := some "ClusterIP"

theorem selects_iff_stays_joined :
    (∃ o ∈ output joinedServices {}, o.isWorkload ∧ o.Carries (plainFront "web" 80).selector) ∧
    ¬ ∃ o ∈ output joinedServices {},
      o.isWorkload ∧ o.Carries (plainFront "cache" 6379).selector := by
  have hok : convert joinedServices {} = .ok (output joinedServices {}) :=
    convert_output (by decide +kernel)
  constructor
  · exact (selects_iff_stays hok (by decide +kernel)).2 (by decide +kernel)
  · exact fun h => absurd ((selects_iff_stays hok (by decide +kernel)).1 h) (by decide +kernel)

/-- The pods of a service that joins another one go elsewhere, and the service is left behind. -/
theorem not_all_select : ¬ ∀ (services : Dict Service) (opt : Options) (objects : List Object),
    convert services opt = .ok objects → ∀ svc, .service svc ∈ objects →
      ∃ o ∈ objects, o.isWorkload ∧ o.Carries svc.selector := by
  intro h
  have hmem : .service (plainFront "cache" 6379) ∈ output joinedServices {} := by decide +kernel
  have hnone : ∀ o ∈ output joinedServices {}, o.serviceLabel? ≠ some "cache" := by decide +kernel
  obtain ⟨o, ho, _, hcarries⟩ :=
    h joinedServices {} _ (convert_output (by decide +kernel)) (plainFront "cache" 6379) hmem
  exact hnone o ho (Object.carries_selectorLabels.1 hcarries)

end Manifests
