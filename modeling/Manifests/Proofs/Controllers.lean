import Manifests.Proofs.Faults
import Manifests.Proofs.References

/-! What the choice of a controller changes about a unit, and what it does not. -/
namespace Manifests

variable {opt : Options} {spec spec' : PodSpec}

/-- The same choices, but for a given cluster and controller. -/
def Options.under (opt : Options) (provider : Provider) (controller : ControllerChoice) : Options :=
  { opt with provider, controller := some controller }

/-- A pod without its volumes. -/
def PodSpec.bare (spec : PodSpec) : PodSpec := { spec with volumes := none }

namespace PodStep

variable {ctx : Context} {step step' : PodStep}

/-- Two steps that are the same, unless both add volumes. -/
inductive Akin : PodStep → PodStep → Prop
  | same (step : PodStep) : Akin step step
  | volumes (added added' : List Volume) : Akin (.volumes added) (.volumes added')

/-- What a step does to the rest of a pod does not depend on the volumes. -/
theorem bare_apply :
    (step.apply ctx spec).map PodSpec.bare = (step.apply ctx spec.bare).map PodSpec.bare := by
  cases step with
  | addContainer =>
    simp only [apply]
    cases ctx.service.newContainer <;> rfl
  | imagePullPolicy =>
    simp only [apply]
    cases PullPolicy.parse ctx.service.name ctx.service.imagePullPolicy <;> rfl
  | restartPolicy =>
    simp only [apply]
    cases RestartPolicy.parse ctx.service.name ctx.service.restart <;> rfl
  | security =>
    simp only [apply]
    cases ctx.service.containerSecurity <;> rfl
  | limits | requests | ports | spread | affinity =>
    simp only [apply]
    split <;> rfl
  | volumes | mounts | hostname | domainname | gracePeriod | serviceAccount | initContainers => rfl

theorem bare_apply_akin (hspec : spec.bare = spec'.bare) (h : step.Akin step') :
    (step.apply ctx spec).map PodSpec.bare = (step'.apply ctx spec').map PodSpec.bare := by
  cases h with
  | same =>
    -- Both runs of the step are compared with the one from the bare pod.
    rw [bare_apply, hspec, ← bare_apply]
  | volumes => exact congrArg Except.ok hspec

end PodStep

namespace WorkloadUnit

variable {u : WorkloadUnit} {kind kind' : WorkloadKind} {workload : String} {s : Service}
  {primary : Service}

theorem akin_steps :
    List.Forall₂ PodStep.Akin (steps workload kind opt s) (steps workload kind' opt s) := by
  simp only [steps, List.cons_append, List.nil_append, List.forall₂_cons, PodStep.Akin.same,
    PodStep.Akin.volumes, true_and]
  exact List.forall₂_same.2 fun step _ => .same step

theorem bare_addService (hspec : spec.bare = spec'.bare) :
    (addService workload kind opt spec s).map PodSpec.bare =
      (addService workload kind' opt spec' s).map PodSpec.bare := by
  have hrun : (spec.append ⟨s, workload⟩ (steps workload kind opt s)).map PodSpec.bare =
      (spec'.append ⟨s, workload⟩ (steps workload kind' opt s)).map PodSpec.bare := by
    refine foldlM_agree (fun _ _ _ _ hb ha => ?_) akin_steps hspec
    exact PodStep.bare_apply_akin hb ha
  rw [addService, addService, map_mapError, map_mapError, hrun]

theorem servicesUnder_eq (hkind : kind.isController) (hkind' : kind'.isController) :
    u.servicesUnder kind = u.servicesUnder kind' := by
  refine List.map_congr_left fun s _ => ?_
  rw [Service.underKind, Service.underKind, hkind, hkind']

/-- The pods that controllers run differ in nothing but their volumes. -/
theorem bare_podSpec (hkind : kind.isController) (hkind' : kind'.isController) :
    (u.podSpec kind opt).map PodSpec.bare = (u.podSpec kind' opt).map PodSpec.bare := by
  rw [podSpec, podSpec, servicesUnder_eq hkind hkind']
  refine foldlM_agree (R := Eq) (fun _ _ s _ hspec h => ?_) (List.forall₂_same.2 fun _ _ => rfl) rfl
  rw [← h]
  exact bare_addService hspec

/-- All controllers but stateful sets run the same pods. -/
theorem podSpec_eq (hkind : kind.isController) (hkind' : kind'.isController)
    (h : kind = .statefulSet ↔ kind' = .statefulSet) :
    u.podSpec kind opt = u.podSpec kind' opt := by
  have hembeds : embedsClaims kind opt = embedsClaims kind' opt := by
    simp only [embedsClaims, h]
  have hsteps : ∀ s, steps u.name kind opt s = steps u.name kind' opt s := by
    intro s
    rw [steps, steps, keptVolumes, keptVolumes, hembeds]
  have hservice : addService u.name kind opt = addService u.name kind' opt := by
    funext spec s
    rw [addService, addService, hsteps]
  rw [podSpec, podSpec, servicesUnder_eq hkind hkind', hservice]

theorem isClaim_provide {d : DeclaredVolume} {i : Nat} :
    isClaim (s.provide workload opt d i).volume ↔ d.modeUnder opt = .claim := by
  rw [Service.provide]
  cases d.modeUnder opt with
  | hostPath =>
    dsimp only
    split <;> simp [isClaim]
  | emptyDir | configMap | claim => simp [isClaim]

/-- A stateful set has its claims made outside the pod. -/
theorem isClaim_eq_false_of_statefulSet {v : Volume}
    (h : u.podSpec .statefulSet opt = .ok spec) (hv : v ∈ spec.volumeList) : isClaim v = false := by
  rw [volumeList_podSpec h] at hv
  obtain ⟨s, _, hv⟩ := List.mem_flatMap.1 (mem_of_mem_firstOfEach hv)
  rcases List.mem_append.1 hv with hv | hv
  · obtain ⟨⟨p, hp, rfl⟩, hkept⟩ := mem_keptVolumes.1 hv
    by_cases hmode : opt.volumes = .configMap
    · obtain ⟨e, _, rfl⟩ := List.mem_map.1 hp
      rw [Bool.eq_false_iff, ne_eq, isClaim_provide, DeclaredVolume.modeUnder, hmode]
      simp
    · exact hkept (by simp [embedsClaims, hmode])
  · obtain ⟨e, he, rfl⟩ := List.mem_map.1 hv
    rw [isClaim, (name_of_mem_memoryVolumes he).2]

end WorkloadUnit

namespace Object

def isStateful (o : Object) : Bool := o.kind = WorkloadKind.statefulSet.name

/-- The templates of two controllers differ at most in their volumes, and there only where just one
of the two makes its claims itself. -/
structure Agrees (o o' : Object) : Prop where
  labels : ∃ labels, o.podLabels? = some labels ∧ o'.podLabels? = some labels
  specs : ∃ spec spec', o.podSpec? = some spec ∧ o'.podSpec? = some spec' ∧
    spec.bare = spec'.bare ∧ (o.isStateful = o'.isStateful → spec.volumes = spec'.volumes)
  unclaimed : ∀ w ∈ [o, o'], w.isStateful → ∀ v ∈ w.volumes, WorkloadUnit.isClaim v = false

end Object

namespace WorkloadUnit

variable {u : WorkloadUnit} {spec spec' : PodSpec} {o o' : Object} {objects objects' : List Object}
  {provider provider' : Provider} {controller controller' : ControllerChoice}

theorem isController_chosen : (u.chosen (opt.under provider controller)).isController := by
  rw [chosen]
  split
  · rfl
  · cases controller <;> cases provider <;> rfl

theorem isStateful_iff (h : u.Converted opt spec o objects) :
    o.isStateful ↔ u.chosen opt = .statefulSet := by
  rw [Object.isStateful, decide_eq_true_eq, h.made.kind_eq]
  exact ⟨WorkloadKind.name_injective, congrArg WorkloadKind.name⟩

theorem unclaimed_of_converted (h : u.Converted opt spec o objects) (hstateful : o.isStateful) :
    ∀ v ∈ o.volumes, isClaim v = false := by
  intro v hv
  have hspec := h.podSpec_ok
  rw [(isStateful_iff h).1 hstateful] at hspec
  rw [Object.volumes, h.made.podSpec?_eq] at hv
  exact isClaim_eq_false_of_statefulSet hspec hv

/-- What two controllers make of one unit agrees. -/
theorem agrees_of_converted (h : u.Converted (opt.under provider controller) spec o objects)
    (h' : u.Converted (opt.under provider' controller') spec' o' objects') : o.Agrees o' := by
  have hkind : (u.chosen (opt.under provider controller)).isController := isController_chosen
  have hkind' : (u.chosen (opt.under provider' controller')).isController := isController_chosen
  have hspec : u.podSpec (u.chosen (opt.under provider controller)) opt = .ok spec := h.podSpec_ok
  have hspec' : u.podSpec (u.chosen (opt.under provider' controller')) opt = .ok spec' :=
    h'.podSpec_ok
  refine ⟨?_, ⟨spec, spec', h.made.podSpec?_eq, h'.made.podSpec?_eq, ?_, fun hstateful => ?_⟩, ?_⟩
  · obtain ⟨primary, _, rfl⟩ := h.workload_eq
    obtain ⟨primary', _, rfl⟩ := h'.workload_eq
    refine ⟨_, podLabels?_workload, ?_⟩
    rw [podLabels?_workload, firstLabels, firstLabels, if_pos hkind, if_pos hkind',
      servicesUnder_eq hkind' hkind]
    rfl
  · have hbare := congrArg (Except.map PodSpec.bare) hspec
    rw [bare_podSpec hkind hkind', hspec'] at hbare
    exact (Except.ok.inj hbare).symm
  · have hiff := Bool.eq_iff_iff.1 hstateful
    rw [isStateful_iff h, isStateful_iff h'] at hiff
    rw [podSpec_eq hkind hkind' hiff, hspec'] at hspec
    rw [Except.ok.inj hspec]
  · rintro w hw hstateful
    rcases List.mem_pair.1 hw with rfl | rfl
    · exact unclaimed_of_converted h hstateful
    · exact unclaimed_of_converted h' hstateful

/-- Two conversions of a unit fail alike, or make one workload each, and these agree. -/
def Agree : Except Failure (List Object) → Except Failure (List Object) → Prop
  | .error failure, .error failure' => failure = failure'
  | .ok objects, .ok objects' => ∃ o o', objects.filter Object.isWorkload = [o] ∧
      objects'.filter Object.isWorkload = [o'] ∧ o.Agrees o'
  | _, _ => False

end WorkloadUnit

/-- The controller that is asked for, and the cluster it is for, decide about nothing in the pods of
a unit but the claims among their volumes. -/
theorem agree_under_controllers (u : WorkloadUnit) (hu : u.members ≠ []) (opt : Options)
    (provider provider' : Provider) (controller controller' : ControllerChoice) :
    WorkloadUnit.Agree (u.convert (opt.under provider controller))
      (u.convert (opt.under provider' controller')) := by
  have hfailure : failure? (u.convert (opt.under provider controller)) =
      failure? (u.convert (opt.under provider' controller')) :=
    WorkloadUnit.failure?_convert.trans WorkloadUnit.failure?_convert.symm
  cases h : u.convert (opt.under provider controller) with
  | error failure =>
    rw [h] at hfailure
    rw [failure?_eq_some.1 hfailure.symm]
    rfl
  | ok objects =>
    rw [h] at hfailure
    obtain ⟨objects', h'⟩ := failure?_eq_none.1 hfailure.symm
    rw [h']
    obtain ⟨spec, o, hc⟩ := WorkloadUnit.convert_ok hu h
    obtain ⟨spec', o', hc'⟩ := WorkloadUnit.convert_ok hu h'
    exact ⟨o, o', hc.workloads, hc'.workloads, WorkloadUnit.agrees_of_converted hc hc'⟩

/-- Two services with volumes in one pod. -/
def storedUnit : WorkloadUnit where
  name := "web"
  members :=
    let data : DeclaredVolume := { volumeName := some "data", container := "/data" }
    [{ name := "web", image := "nginx", restart := "no", networks := ["front"], volumes := [data] },
      { name := "cache", image := "redis", tmpfs := ["/run"] }]

/-- What the unit is converted to, with network policies. -/
def stored (provider : Provider) (controller : ControllerChoice) : List Object :=
  (storedUnit.convert
    (Options.under { networkPolicies := true } provider controller)).toOption.getD []

theorem agree_under_controllers_stored : ∃ o ∈ stored .kubernetes .statefulSet,
    ∃ o' ∈ stored .openShift .deployment, o.Agrees o' ∧
      o.isStateful ∧ o'.kind = "DeploymentConfig" ∧ o.volumes.length = 1 ∧ o'.volumes.length = 2 := by
  have hagree := agree_under_controllers storedUnit (by decide) { networkPolicies := true }
    .kubernetes .openShift .statefulSet .deployment
  rw [ok_of_isOk (x := storedUnit.convert (Options.under _ .kubernetes .statefulSet))
    (by decide +kernel), ok_of_isOk (x := storedUnit.convert (Options.under _ .openShift .deployment))
    (by decide +kernel)] at hagree
  obtain ⟨o, o', ho, ho', h⟩ := hagree
  have hstateful : ∀ o ∈ (stored .kubernetes .statefulSet).filter Object.isWorkload,
      o.isStateful ∧ o.volumes.length = 1 := by
    decide +kernel
  have hconfig : ∀ o ∈ (stored .openShift .deployment).filter Object.isWorkload,
      o.kind = "DeploymentConfig" ∧ o.volumes.length = 2 := by
    decide +kernel
  have hmem : o ∈ (stored .kubernetes .statefulSet).filter Object.isWorkload :=
    ho ▸ List.mem_singleton_self o
  have hmem' : o' ∈ (stored .openShift .deployment).filter Object.isWorkload :=
    ho' ▸ List.mem_singleton_self o'
  obtain ⟨hkind, hlength⟩ := hstateful o hmem
  obtain ⟨hkind', hlength'⟩ := hconfig o' hmem'
  exact ⟨o, List.mem_of_mem_filter hmem, o', List.mem_of_mem_filter hmem', h, hkind, hkind',
    hlength, hlength'⟩

end Manifests
