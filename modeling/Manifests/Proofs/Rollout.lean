import Manifests.Proofs.Origin

/-! How workloads with volumes are rolled out. -/
namespace Manifests

variable {services : Dict Service} {opt : Options} {objects : List Object} {o : Object}
  {u : WorkloadUnit}

namespace Object

/-- Old pods of the workload go before new ones come. -/
def recreates : Object → Bool
  | controller c =>
    match c.form with
    | .deployment _ strategy => strategy = some .recreate
    | .deploymentConfig _ strategy _ => strategy = .recreate
    | _ => false
  | specless (.deploymentConfig _ _ strategy _) _ => strategy = .recreate
  | _ => false

/-- New pods of the workload come while old ones are there, unless it is told otherwise. -/
def isRolledOut (o : Object) : Bool :=
  o.kind = WorkloadKind.deployment.name || o.kind = WorkloadKind.deploymentConfig.name

@[simp] theorem recreates_emptied : o.emptied.recreates = o.recreates := by
  cases o with
  | specless k m => cases k <;> rfl
  | controller | pod | service | claim | configMap | autoscaler | networkPolicy => rfl

@[simp] theorem recreates_placed : (placed opt o).recreates = o.recreates :=
  placed_observed fun _ => by
    cases o with
    | specless k m => cases k <;> rfl
    | controller | pod | service | claim | configMap | autoscaler | networkPolicy => rfl

@[simp] theorem recreates_claiming {claims : List Claim} :
    (o.claiming claims).recreates = o.recreates := by
  cases o with
  | controller c => rcases c with ⟨_, form, _, _⟩; cases form <;> rfl
  | specless k m =>
    cases k with
    | statefulSet => rw [claiming]; split <;> rfl
    | deployment | daemonSet | deploymentConfig => rfl
  | pod | service | claim | configMap | autoscaler | networkPolicy => rfl

theorem recreates_recreating : o.recreating.recreates = o.isRolledOut := by
  cases o with
  | controller c =>
    rcases c with ⟨_, form, _, _⟩
    cases form <;> simp [recreating, recreates, isRolledOut, kind, Controller.kind,
      WorkloadKind.name]
  | specless k m =>
    cases k <;> simp [recreating, recreates, isRolledOut, kind, SpeclessKind.kind,
      WorkloadKind.name, Controller.blank]
  | pod | service | claim | configMap | autoscaler | networkPolicy =>
    simp [recreating, recreates, isRolledOut, kind, WorkloadKind.name]

end Object

namespace WorkloadUnit

/-- One of the services of the unit declares a volume. -/
def DeclaresVolumes (u : WorkloadUnit) : Prop := ∃ s ∈ u.members, s.volumes ≠ []

instance : Decidable u.DeclaresVolumes := inferInstanceAs (Decidable (∃ _ ∈ _, _))

variable {kind : WorkloadKind} {s : Service} {v : Volume} {workload : String} {primary : Service}
  {spec : PodSpec} {joins : List Join} {units : List WorkloadUnit} {a : Object}

theorem volumes_underKind : (s.underKind kind).volumes = s.volumes :=
  underKind_observed _ fun _ => rfl

theorem any_servicesUnder :
    (u.servicesUnder kind).any (·.volumes ≠ []) ↔ u.DeclaresVolumes := by
  simp [servicesUnder, DeclaresVolumes, volumes_underKind]

theorem recreates_fill {replicas : Option Int} {labels annotations : Dict String} :
    ((Object.newWorkload kind u.name primary replicas opt).fill (fillTemplate labels spec)
      (annotate annotations)).left.recreates = false := by
  cases kind <;> rfl

/-- A workload is recreated exactly where its unit declares volumes. -/
theorem recreates_workload : (u.workload primary kind opt spec).left.recreates ↔
    (u.workload primary kind opt spec).left.isRolledOut ∧ u.DeclaresVolumes := by
  rw [workload]
  dsimp only
  split
  · rename_i hany
    have hdeclares : u.DeclaresVolumes := any_servicesUnder.1 hany
    rw [Object.recreates_claiming, Object.recreates_recreating, Object.isRolledOut,
      Object.isRolledOut, Object.alike_claiming.kind, Object.alike_recreating.kind]
    exact ⟨fun h => ⟨h, hdeclares⟩, And.left⟩
  · rename_i hany
    rw [recreates_fill]
    exact ⟨fun h => (Bool.false_ne_true h).elim, fun h => absurd (any_servicesUnder.2 h.2) hany⟩

/-- Claims are made for declared volumes only. -/
theorem ne_nil_of_isClaim (hv : v ∈ podVolumes workload kind opt s) (hclaim : isClaim v) :
    s.volumes ≠ [] := by
  intro hnone
  have hkept : keptVolumes workload kind opt s = [] := by
    simp [keptVolumes, Service.providedVolumes, hnone]
  rw [podVolumes, hkept, List.nil_append, List.mem_map] at hv
  obtain ⟨e, he, rfl⟩ := hv
  obtain ⟨_, _, rfl⟩ := List.mem_map.1 he
  cases hclaim

/-- A workload of the output is recreated where its own unit declares volumes. -/
theorem Origin.recreates_iff (h : Origin units opt joins u a o) (hkind : o.isRolledOut) :
    o.recreates ↔ u.DeclaresVolumes := by
  obtain ⟨spec, os, hc⟩ := h.converted
  obtain ⟨primary, _, ha⟩ := hc.workload_eq
  have hrecreates : o.recreates = a.recreates := by
    rw [h.observed fun _ => Object.recreates_emptied, Object.recreates_placed]
  have hsame : o.kind = a.kind := by
    rw [h.observed fun _ => Object.kind_emptied, kind_placed]
  rw [Object.isRolledOut, hsame, ← Object.isRolledOut, ha] at hkind
  rw [hrecreates, ha, recreates_workload]
  exact and_iff_right hkind

/-- A claim in a workload of the output is one of a unit that declares volumes. -/
theorem Origin.exists_declares (h : Origin units opt joins u a o) (hv : v ∈ o.volumes)
    (hclaim : isClaim v) : ∃ w ∈ units, w.Feeds opt joins u ∧ w.DeclaresVolumes := by
  obtain ⟨w, hw, hfeeds, hv⟩ := h.volumes v hv
  obtain ⟨s, hs, hv⟩ := List.mem_flatMap.1 (mem_of_mem_firstOfEach hv)
  obtain ⟨t, ht, rfl⟩ := List.mem_map.1 hs
  have hne := ne_nil_of_isClaim hv hclaim
  rw [volumes_underKind] at hne
  exact ⟨w, hw, hfeeds, t, ht, hne⟩

end WorkloadUnit

theorem Object.isWorkload_of_isRolledOut (h : o.isRolledOut) : o.isWorkload := by
  rw [isRolledOut, Bool.or_eq_true, decide_eq_true_eq, decide_eq_true_eq] at h
  rcases h with h | h
  · exact isWorkload_of_kind_eq h
  · exact isWorkload_of_kind_eq h

/-- Deployments are recreated exactly where the unit that they are made for declares volumes. So
one with a claim is recreated, unless the claim has come with a unit that is joined to this one. -/
theorem recreates_or_joined (h : convert services opt = .ok objects) (ho : o ∈ objects)
    (hkind : o.isRolledOut) : ∃ u ∈ unitsOf (keyed services) opt.groupMode,
      u.Stays opt (Join.ofServices services) ∧ o.name = u.name ∧
      (o.recreates ↔ u.DeclaresVolumes) ∧
      ∀ v ∈ o.volumes, WorkloadUnit.isClaim v → o.recreates ∨
        ∃ w ∈ unitsOf (keyed services) opt.groupMode, ¬ w.Stays opt (Join.ofServices services) ∧
          Join.EndsAt (Join.ofServices services) w.name u.name ∧ w.DeclaresVolumes := by
  obtain ⟨u, a, horigin⟩ := exists_origin h ho (Object.isWorkload_of_isRolledOut hkind)
  have hiff := horigin.recreates_iff hkind
  refine ⟨u, horigin.mem, horigin.stays, horigin.name_eq, hiff, fun v hv hclaim => ?_⟩
  obtain ⟨w, hw, hfeeds, hdeclares⟩ := horigin.exists_declares hv hclaim
  rcases hfeeds with rfl | ⟨hleaves, hend⟩
  · exact Or.inl (hiff.2 hdeclares)
  · exact Or.inr ⟨w, hw, hleaves, hend, hdeclares⟩

/-- A service with a volume joins another one. -/
def sharedServices : Dict Service :=
  let cache : Service :=
    { image := "redis"
      networkMode := "service:web"
      volumes := [{ volumeName := some "data", container := "/data" }] }
  .ofList [("cache", cache), ("web", { image := "nginx" })]

theorem rolled_out_shared : ∃ o ∈ output sharedServices {},
    o.isRolledOut ∧ (∃ v ∈ o.volumes, WorkloadUnit.isClaim v) ∧ ¬ o.recreates := by
  decide +kernel

theorem recreates_or_joined_shared : ∃ w ∈ unitsOf (keyed sharedServices) none,
    ¬ w.Stays {} (Join.ofServices sharedServices) ∧ w.DeclaresVolumes := by
  obtain ⟨o, ho, hkind, ⟨v, hv, hclaim⟩, hrolls⟩ := rolled_out_shared
  have hok : convert sharedServices {} = .ok (output sharedServices {}) :=
    convert_output (by decide +kernel)
  obtain ⟨u, _, _, _, _, hclaims⟩ := recreates_or_joined hok ho hkind
  obtain ⟨w, hw, hleaves, _, hdeclares⟩ := (hclaims v hv hclaim).resolve_left hrolls
  exact ⟨w, hw, hleaves, hdeclares⟩

/-- A volume that comes with a joined pod does not change how a deployment is rolled out. -/
theorem not_all_recreate : ¬ ∀ (services : Dict Service) (opt : Options) (objects : List Object),
    convert services opt = .ok objects → ∀ o ∈ objects, o.isRolledOut →
      (∃ v ∈ o.volumes, WorkloadUnit.isClaim v) → o.recreates := by
  intro h
  obtain ⟨o, ho, hkind, hclaim, hrolls⟩ := rolled_out_shared
  exact hrolls (h sharedServices {} _ (convert_output (by decide +kernel)) o ho hkind hclaim)

end Manifests
