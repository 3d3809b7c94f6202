import Manifests.Proofs.Selection

/-! Which pods the controllers of the output take for their own. -/
namespace Manifests

variable {services : Dict Service} {opt : Options} {objects : List Object} {o : Object}

namespace Object

/-- A workload that keeps the pods of a selector running. -/
def isController : Object → Bool
  | controller _ | specless .. => true
  | _ => false

/-- The labels by which a controller knows its pods. -/
def selector? (o : Object) : Option (Dict String) :=
  match o.specified with
  | controller c => some c.selector
  | _ => none

theorem isWorkload_of_isController (h : o.isController) : o.isWorkload := by
  cases o <;> simp_all [isController, isWorkload]

theorem isController_of_isDeployment (h : o.isDeployment) : o.isController := by
  cases o <;> simp_all [isDeployment, isController]

theorem isController_iff_kind :
    o.isController ↔ o.isWorkload ∧ o.kind ≠ WorkloadKind.pod.name := by
  cases o with
  | controller c =>
    rcases c with ⟨_, form, _, _⟩
    cases form <;> simp [isController, isWorkload, kind, Controller.kind, WorkloadKind.name]
  | specless k m =>
    cases k <;> simp [isController, isWorkload, kind, SpeclessKind.kind, WorkloadKind.name]
  | pod | service | claim | configMap | autoscaler | networkPolicy =>
    simp [isController, isWorkload, kind]

@[simp] theorem selector?_emptied : o.emptied.selector? = o.selector? := by
  cases o <;> rfl

@[simp] theorem selector?_placed : (placed opt o).selector? = o.selector? :=
  placed_observed fun _ => by cases o <;> rfl

@[simp] theorem selector?_recreating : o.recreating.selector? = o.selector? := by
  cases o with
  | controller c => rcases c with ⟨_, form, _, _⟩; cases form <;> rfl
  | specless k m => cases k <;> rfl
  | pod | service | claim | configMap | autoscaler | networkPolicy => rfl

@[simp] theorem selector?_claiming {claims : List Claim} :
    (o.claiming claims).selector? = o.selector? := by
  cases o with
  | controller c => rcases c with ⟨_, form, _, _⟩; cases form <;> rfl
  | specless k m =>
    cases k with
    | statefulSet => rw [claiming]; split <;> rfl
    | deployment | daemonSet | deploymentConfig => rfl
  | pod | service | claim | configMap | autoscaler | networkPolicy => rfl

end Object

namespace WorkloadUnit

variable {u : WorkloadUnit} {kind : WorkloadKind} {primary : Service} {spec : PodSpec}
  {joins : List Join} {units : List WorkloadUnit} {a : Object}

theorem selector?_fill {replicas : Option Int} {labels annotations : Dict String} :
    ((Object.newWorkload kind u.name primary replicas opt).fill (fillTemplate labels spec)
      (annotate annotations)).left.selector? =
      if kind.isController then some (selectorLabels u.name) else none := by
  cases kind <;> rfl

/-- Whatever its services declare, a controller selects by the name of its unit. -/
theorem selector?_workload : (u.workload primary kind opt spec).left.selector? =
    if kind.isController then some (selectorLabels u.name) else none := by
  rw [workload]
  dsimp only
  split
  · rw [Object.selector?_claiming, Object.selector?_recreating, selector?_fill]
  · exact selector?_fill

theorem isController_eq (hmade : o.kind = kind.name) (hw : o.isWorkload) :
    o.isController = kind.isController := by
  rw [Bool.eq_iff_iff, Object.isController_iff_kind, hmade]
  cases kind <;> simp [hw, WorkloadKind.isController, WorkloadKind.name]

theorem Origin.selector?_eq (h : Origin units opt joins u a o) (hcontroller : o.isController) :
    o.selector? = some (selectorLabels u.name) := by
  obtain ⟨spec, os, hc⟩ := h.converted
  obtain ⟨primary, _, ha⟩ := hc.workload_eq
  have hkind : (u.chosen opt).isController := by
    rwa [← isController_eq h.kind_eq (Object.isWorkload_of_isController hcontroller)]
  rw [h.observed fun _ => Object.selector?_emptied, Object.selector?_placed, ha,
    selector?_workload, if_pos hkind]

end WorkloadUnit

/-- Controllers know their own pods: the selector of one fits the pods of a workload, also those of
a bare pod with labels of its own, exactly where the two have one name. -/
theorem carries_selector_iff {a : Object} (h : convert services opt = .ok objects)
    (ha : a ∈ objects) (hcontroller : a.isController) :
    ∃ selector, a.selector? = some selector ∧
      ∀ b ∈ objects, b.isWorkload → (b.Carries selector ↔ a.name = b.name) := by
  obtain ⟨u, _, hu⟩ := exists_origin h ha (Object.isWorkload_of_isController hcontroller)
  refine ⟨selectorLabels u.name, hu.selector?_eq hcontroller, fun b hb hw => ?_⟩
  obtain ⟨v, _, hv⟩ := exists_origin h hb hw
  rw [Object.carries_selectorLabels, hv.serviceLabel?_eq, hu.name_eq, hv.name_eq, Option.some_inj]
  exact eq_comm

/-- A bare pod, labelled as if it belonged to a deployment that takes in a third service. -/
def forgedServices : Dict Service :=
  let task : Service :=
    { image := "busybox"
      restart := "no"
      networks := ["front"]
      labels := .ofList [(Label.service, "web"), (networkLabel "back", "true"), ("tier", "web")] }
  .ofList
    [("cache", { image := "redis", networkMode := "service:web" }), ("task", task),
      ("web", { image := "nginx", networks := ["front", "back"] })]

theorem carries_selector_iff_forged :
    ∃ a ∈ output forgedServices { networkPolicies := true },
      ∃ b ∈ output forgedServices { networkPolicies := true },
        b.kind = "Pod" ∧ ∃ selector, a.selector? = some selector ∧ a.Carries selector ∧
          ¬ b.Carries selector := by
  have hpods : ∃ a ∈ output forgedServices { networkPolicies := true },
      ∃ b ∈ output forgedServices { networkPolicies := true },
        a.isController ∧ b.isWorkload ∧ b.kind = "Pod" ∧ a.name ≠ b.name := by
    decide +kernel
  obtain ⟨a, ha, b, hb, hcontroller, hw, hkind, hname⟩ := hpods
  obtain ⟨selector, hselector, hiff⟩ :=
    carries_selector_iff (convert_output (by decide +kernel)) ha hcontroller
  exact ⟨a, ha, b, hb, hkind, selector, hselector,
    (hiff a ha (Object.isWorkload_of_isController hcontroller)).2 rfl,
    fun hcarries => hname ((hiff b hb hw).1 hcarries)⟩

end Manifests
