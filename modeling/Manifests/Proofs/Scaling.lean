import Manifests.Proofs.Origin

/-! Which autoscalers of the output have a workload to scale. -/
namespace Manifests

variable {services : Dict Service} {opt : Options} {objects : List Object} {o : Object}
  {scaler : Autoscaler}

/-- The version under which the cluster knows workloads of this kind. -/
def WorkloadKind.apiVersion : WorkloadKind → String
  | pod => "v1"
  | deploymentConfig => "apps.openshift.io/v1"
  | deployment | daemonSet | statefulSet => "apps/v1"

namespace Object

/-- How an autoscaler refers to an object. -/
def scaleTarget (o : Object) : ScaleTarget := ⟨o.apiVersion, o.kind, o.name⟩

theorem apiVersion_of_kind_eq {k : WorkloadKind} (h : o.kind = k.name) :
    o.apiVersion = k.apiVersion := by
  cases o with
  | controller c =>
    obtain rfl : c.kind = k := WorkloadKind.name_injective h
    rcases c with ⟨_, form, _, _⟩
    cases form <;> rfl
  | specless s m =>
    obtain rfl : s.kind = k := WorkloadKind.name_injective h
    cases s <;> rfl
  | pod p =>
    obtain rfl : .pod = k := WorkloadKind.name_injective h
    rfl
  | service | claim | configMap | autoscaler | networkPolicy =>
    have hw := isWorkload_of_kind_eq h
    cases hw

end Object

namespace WorkloadUnit

variable {u : WorkloadUnit} {kind : WorkloadKind}

/-- How an autoscaler refers to the workload that the unit is converted to. -/
def scaleTarget (u : WorkloadUnit) (opt : Options) : ScaleTarget :=
  ⟨(u.chosen opt).apiVersion, (u.chosen opt).name, u.name⟩

/-- The workload can be scaled, and one of its services asks for it. -/
structure IsScaled (u : WorkloadUnit) (opt : Options) : Prop where
  kind : (u.chosen opt).isScalable
  asked : ∃ s ∈ u.members, ScaleValues.areAsked s.labels

/-- The autoscaler beside the workload of a unit. -/
def scaler? (u : WorkloadUnit) (opt : Options) : Option Autoscaler :=
  (u.autoscaled? (u.chosen opt)).map fun s =>
    Manifests.autoscaler u.name (u.chosen opt).name (u.chosen opt).apiVersion s.labels

theorem isScaled_of_autoscaled? {s : Service} (h : u.autoscaled? (u.chosen opt) = some s) :
    u.IsScaled opt := by
  rw [autoscaled?] at h
  split at h
  · rename_i hkind
    have hasked := List.find?_some h
    exact ⟨hkind, s, List.mem_of_find?_eq_some h, hasked⟩
  · cases h

theorem target_of_scaler? (h : u.scaler? opt = some scaler) :
    u.IsScaled opt ∧ scaler.target = u.scaleTarget opt := by
  obtain ⟨s, hs, rfl⟩ := Option.map_eq_some_iff.1 h
  exact ⟨isScaled_of_autoscaled? hs, rfl⟩

theorem autoscaler_notMem_siblings {workload : String} {s : Service} :
    .autoscaler scaler ∉ siblings workload kind opt s := by
  have hnone : (siblings workload kind opt s).filter (· = .autoscaler scaler) = [] := by
    rw [filter_siblings (fun _ => rfl) fun _ => rfl]
    simp
  exact fun h => List.filter_eq_nil_iff.1 hnone _ h (decide_eq_true rfl)

/-- A unit is converted to its autoscaler and no other. -/
theorem autoscaler_mem_convert (hu : u.members ≠ []) (h : u.convert opt = .ok objects) :
    .autoscaler scaler ∈ objects ↔ u.scaler? opt = some scaler := by
  rw [convert] at h
  split at h
  · rename_i hm
    exact (hu hm).elim
  · rename_i primary rest hm
    have hchosen : .choose primary opt = u.chosen opt := by
      rw [chosen, hm]
    obtain ⟨spec, hspec, h⟩ := bind_ok h
    simp only [failure_workload] at h
    cases h
    rw [hchosen]
    have hmade : Made u (u.chosen opt) opt spec _ (u.workload primary (u.chosen opt) opt spec).left :=
      made_workload
    have hne : .autoscaler scaler ≠ (u.workload primary (u.chosen opt) opt spec).left := by
      intro he
      have hw := hmade.isWorkload
      rw [← he] at hw
      cases hw
    have hnone : .autoscaler scaler ∉ (u.servicesUnder (u.chosen opt)).flatMap
        (siblings u.name (u.chosen opt) opt) := by
      intro hmem
      obtain ⟨s, _, hmem⟩ := List.mem_flatMap.1 hmem
      exact autoscaler_notMem_siblings hmem
    simp only [List.mem_append, List.mem_cons, hne, hnone, false_or, Option.mem_toList, scaler?,
      hmade.kind_eq, Object.apiVersion_of_kind_eq hmade.kind_eq, Option.map_eq_some_iff,
      Object.autoscaler.injEq]

/-- The workloads of a unit in the output are what its autoscaler refers to. -/
theorem Origin.scaleTarget_eq {units : List WorkloadUnit} {joins : List Join} {a : Object}
    (h : Origin units opt joins u a o) : o.scaleTarget = u.scaleTarget opt := by
  rw [Object.scaleTarget, Object.apiVersion_of_kind_eq h.kind_eq, h.kind_eq, h.name_eq, scaleTarget]

end WorkloadUnit

theorem autoscaler_of_placed (h : placed opt o = .autoscaler scaler) :
    ∃ s, o = .autoscaler s ∧ s.target = scaler.target := by
  obtain ⟨f, hf⟩ := exists_mapMetadata opt o
  rw [hf] at h
  cases o with
  | autoscaler s =>
    cases h
    exact ⟨s, rfl, rfl⟩
  | controller | specless | pod | service | claim | configMap | networkPolicy => cases h

/-- The autoscalers of the output are those of its units. -/
theorem exists_scaled (h : convert services opt = .ok objects)
    (hs : .autoscaler scaler ∈ objects) : ∃ u ∈ unitsOf (keyed services) opt.groupMode,
      u.IsScaled opt ∧ scaler.target = u.scaleTarget opt := by
  obtain ⟨u, hu, os, hconvert, b, hb, hplaced⟩ := exists_made_of_mem h hs rfl
  obtain ⟨s, rfl, htarget⟩ := autoscaler_of_placed hplaced.symm
  rw [← htarget]
  exact ⟨u, hu, WorkloadUnit.target_of_scaler?
    ((WorkloadUnit.autoscaler_mem_convert (members_ne_nil hu) hconvert).1 hb)⟩

/-- A workload of the unit is in the output exactly when the unit stays. -/
theorem exists_scaleTarget_iff (h : convert services opt = .ok objects) {u : WorkloadUnit}
    (hu : u ∈ unitsOf (keyed services) opt.groupMode) :
    (∃ o ∈ objects, o.isWorkload ∧ o.scaleTarget = u.scaleTarget opt) ↔
      u.Stays opt (Join.ofServices services) := by
  constructor
  · rintro ⟨o, ho, hw, htarget⟩
    obtain ⟨v, _, hv⟩ := exists_origin h ho hw
    have hsame := hv.scaleTarget_eq.symm.trans htarget
    have hkind : v.chosen opt = u.chosen opt :=
      WorkloadKind.name_injective (congrArg ScaleTarget.kind hsame)
    have hname : v.name = u.name := congrArg ScaleTarget.name hsame
    have hstays := hv.stays
    rwa [WorkloadUnit.Stays, hkind, hname] at hstays
  · intro hstays
    obtain ⟨o, ho, hkind, hname⟩ := exists_workload h hu hstays
    refine ⟨o, ho, Object.isWorkload_of_kind_eq hkind, ?_⟩
    rw [Object.scaleTarget, Object.apiVersion_of_kind_eq hkind, hkind, hname,
      WorkloadUnit.scaleTarget]

/-- An autoscaler of the output finds its workload exactly when the unit that it is made for stays:
where the workload is joined to another one, the autoscaler is left with nothing to scale. -/
theorem scales_iff_stays (h : convert services opt = .ok objects)
    (hs : .autoscaler scaler ∈ objects) : ∃ u ∈ unitsOf (keyed services) opt.groupMode,
      u.IsScaled opt ∧ scaler.target = u.scaleTarget opt ∧
      ((∃ o ∈ objects, o.isWorkload ∧ o.scaleTarget = scaler.target) ↔
        u.Stays opt (Join.ofServices services)) := by
  obtain ⟨u, hu, hscaled, htarget⟩ := exists_scaled h hs
  refine ⟨u, hu, hscaled, htarget, ?_⟩
  rw [htarget]
  exact exists_scaleTarget_iff h hu

/-- A service that joins another one and asks for an autoscaler. -/
def scaledServices : Dict Service :=
  let cache : Service :=
    { image := "redis"
      networkMode := "service:web"
      labels := .singleton Label.cpu "80" }
  .ofList [("cache", cache), ("web", { image := "nginx" })]

/-- The autoscaler is there, and its workload is not. -/
theorem output_scaled : (convert scaledServices {}).isOk ∧
    (∃ o ∈ output scaledServices {},
      o = .autoscaler (autoscaler "cache" "Deployment" "apps/v1" (.singleton Label.cpu "80"))) ∧
    (∀ o ∈ output scaledServices {}, o.isWorkload →
      o.scaleTarget ≠ ⟨"apps/v1", "Deployment", "cache"⟩) ∧
    ∀ u ∈ unitsOf (keyed scaledServices) none,
      u.name = "cache" → ¬ u.Stays {} (Join.ofServices scaledServices) := by
  decide +kernel

theorem scales_iff_stays_scaled : ∃ scaler, .autoscaler scaler ∈ output scaledServices {} ∧
    ¬ ∃ o ∈ output scaledServices {}, o.isWorkload ∧ o.scaleTarget = scaler.target := by
  obtain ⟨hok, ⟨_, hs, rfl⟩, _, hleaves⟩ := output_scaled
  obtain ⟨u, hu, _, htarget, hiff⟩ := scales_iff_stays (convert_output hok) hs
  have hname : u.name = "cache" := (congrArg ScaleTarget.name htarget).symm
  exact ⟨_, hs, fun hfound => hleaves u hu hname (hiff.1 hfound)⟩

/-- The workload of a service that joins another one goes, and its autoscaler is left behind. -/
theorem not_all_scale : ¬ ∀ (services : Dict Service) (opt : Options) (objects : List Object),
    convert services opt = .ok objects → ∀ scaler, .autoscaler scaler ∈ objects →
      ∃ o ∈ objects, o.isWorkload ∧ o.scaleTarget = scaler.target := by
  intro h
  obtain ⟨hok, ⟨_, hs, rfl⟩, hnone, _⟩ := output_scaled
  obtain ⟨o, ho, hw, htarget⟩ := h scaledServices {} _ (convert_output hok) _ hs
  exact hnone o ho hw htarget

end Manifests
