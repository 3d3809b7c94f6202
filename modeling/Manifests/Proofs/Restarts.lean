import Manifests.Proofs.Faults
import Manifests.Proofs.GroupWorkloads
import Manifests.Proofs.Selectors

/-! Whether the containers of a pod are started again after they end. -/
namespace Manifests

variable {services : Dict Service} {mode : Option String} {opt : Options} {objects : List Object}
  {o : Object} {u : WorkloadUnit} {s : Service} {kind : WorkloadKind} {policy : RestartPolicy}

/-- The words for pods that end are those that stand for another policy than the usual one. -/
theorem parse_restart_always {name restart : String}
    (h : RestartPolicy.parse name restart = .ok policy) :
    policy = .always ↔ isPodRestart restart = false := by
  unfold RestartPolicy.parse at h
  split at h <;> cases h <;> decide

namespace Service

/-- The policy that a service asks for. -/
def restartPolicy? (s : Service) : Option RestartPolicy :=
  (RestartPolicy.parse s.name s.restart).toOption

theorem restartPolicy?_eq_some :
    s.restartPolicy? = some policy ↔ RestartPolicy.parse s.name s.restart = .ok policy := by
  rw [restartPolicy?]
  cases RestartPolicy.parse s.name s.restart <;> simp [Except.toOption]

theorem underKind_of_pod : s.underKind .pod = s := if_neg fun h => Bool.false_ne_true h.1

/-- A service that asks not to be started again is given another policy than the usual one. -/
theorem ne_always_of_isPodRestart (hrestart : isPodRestart s.restart)
    (h : s.restartPolicy? = some policy) : policy ≠ .always := by
  intro halways
  rw [(parse_restart_always (restartPolicy?_eq_some.1 h)).1 halways] at hrestart
  cases hrestart

/-- A policy that a controller keeps to is the usual one. -/
theorem restartPolicy?_underKind (hkind : kind.isController)
    (h : (s.underKind kind).restartPolicy? = some policy) : policy = .always := by
  have hparse := restartPolicy?_eq_some.1 h
  refine (parse_restart_always hparse).2 ?_
  rw [underKind]
  split
  · rfl
  · rename_i hno
    simpa [hkind] using hno

end Service

/-- Only one step writes the policy, whatever was there. -/
theorem PodStep.restartPolicy_apply {ctx : Context} {spec spec' : PodSpec} {step : PodStep}
    (h : step.apply ctx spec = .ok spec') : spec'.restartPolicy =
      if step = restartPolicy then ctx.service.restartPolicy? else spec.restartPolicy := by
  cases step with
  | restartPolicy =>
    obtain ⟨policy, hpolicy, h⟩ := bind_ok h
    cases h
    exact (Service.restartPolicy?_eq_some.2 hpolicy).symm
  | addContainer | imagePullPolicy =>
    obtain ⟨_, _, h⟩ := bind_ok h
    cases h
    rfl
  | limits | requests | ports | spread | affinity =>
    cases h
    split <;> rfl
  | security =>
    cases h
    cases ctx.service.containerSecurity <;> rfl
  | volumes | mounts | hostname | domainname | gracePeriod | serviceAccount | initContainers =>
    cases h
    rfl

/-- Bare pods are chosen only for services on their own that ask not to be started again. -/
theorem WorkloadKind.of_choose_eq_pod (h : choose s opt = .pod) :
    opt.controller = none ∧ s.inGroup = false ∧ isPodRestart s.restart := by
  rw [choose] at h
  cases hc : opt.controller with
  | some controller => cases controller <;> cases hp : opt.provider <;> simp [hc, hp] at h
  | none =>
    rw [hc] at h
    dsimp only at h
    split at h
    · rename_i hloner
      rw [Bool.and_eq_true, Bool.not_eq_true'] at hloner
      exact ⟨rfl, hloner⟩
    · cases hp : opt.provider <;> simp [hp] at h

namespace WorkloadUnit

variable {workload : String} {spec spec' : PodSpec} {units : List WorkloadUnit} {joins : List Join}
  {a : Object}

/-- Every service writes its policy over that of the services before it. -/
theorem restartPolicy_addService (h : addService workload kind opt spec s = .ok spec') :
    spec'.restartPolicy = s.restartPolicy? ∧ s.restartPolicy?.isSome := by
  constructor
  · have hrun := foldlM_observed PodSpec.restartPolicy
      (fun p step => if step = .restartPolicy then s.restartPolicy? else p)
      (fun _ _ _ => PodStep.restartPolicy_apply) (mapError_ok h)
    rw [hrun, steps]
    cases filled (s.labels.get? Label.serviceAccount) <;> simp
  · have hgood : s.refusal? = none := by
      rw [← failure?_addService, failure?_eq_none]
      exact ⟨spec', h⟩
    rw [refusal?_eq_none] at hgood
    simp only [Service.fault?, Option.or_eq_none_iff] at hgood
    have hword : failure? (RestartPolicy.parse s.name s.restart) = none := by
      rw [failure?_parse_restart]
      exact hgood.2.2
    obtain ⟨policy, hpolicy⟩ := failure?_eq_none.1 hword
    rw [Service.restartPolicy?_eq_some.2 hpolicy]
    rfl

/-- The pod has the policy of the last service, as the kind of workload makes it. -/
theorem restartPolicy_podSpec (h : u.podSpec kind opt = .ok spec) (hu : u.members ≠ []) :
    ∃ s ∈ u.members, spec.restartPolicy = (s.underKind kind).restartPolicy? ∧
      spec.restartPolicy.isSome := by
  have hunder : u.servicesUnder kind ≠ [] := by simpa [servicesUnder] using hu
  obtain ⟨t, ht, heq, hsome⟩ := foldlM_last
    (P := fun t spec => spec.restartPolicy = t.restartPolicy? ∧ t.restartPolicy?.isSome)
    (fun _ _ _ h => restartPolicy_addService h) hunder h
  obtain ⟨s, hs, rfl⟩ := List.mem_map.1 ht
  exact ⟨s, hs, heq, by rwa [heq]⟩

/-- A unit that runs as a bare pod is one service that has no group, and asks not to be started
again where no controller is asked for. -/
theorem exists_loner_of_pod (hu : u ∈ unitsOf (keyed services) mode) (h : u.chosen opt = .pod) :
    opt.controller = none ∧ ∃ key s, (key, s) ∈ services.entries ∧ Group.idOf s mode = "" ∧
      s.inGroup = false ∧ isPodRestart s.restart ∧
      u = ⟨resourceName key, [{ s with name := key }]⟩ := by
  rw [unitsOf_eq, List.mem_append] at hu
  rcases hu with hu | hu
  · obtain ⟨g, hg, rfl⟩ := List.mem_map.1 hu
    rw [chosen_unit hg] at h
    cases (WorkloadKind.of_choose_eq_pod h).2.1
  · obtain ⟨t, ht, rfl⟩ := List.mem_map.1 hu
    rw [loners, List.mem_filter, values_enrolled] at ht
    obtain ⟨ht, hfree⟩ := ht
    obtain ⟨e, he, rfl⟩ := List.mem_map.1 ht
    obtain ⟨⟨key, s⟩, hs, rfl⟩ := List.mem_map.1 he
    rw [inGroup_enroll] at hfree
    simp only [ne_eq, Bool.not_or, Bool.and_eq_true, Bool.not_eq_true', decide_not,
      Bool.not_not, decide_eq_true_eq] at hfree
    obtain ⟨hmark, hid⟩ := hfree
    have hsame : Group.enroll mode key { s with name := key } = { s with name := key } := if_pos hid
    rw [hsame] at h ⊢
    obtain ⟨hcontroller, _, hrestart⟩ := WorkloadKind.of_choose_eq_pod h
    exact ⟨hcontroller, key, s, hs, hid, hmark, hrestart, rfl⟩

end WorkloadUnit

namespace Object

/-- The policy of a workload's pods. -/
def restartPolicy? (o : Object) : Option RestartPolicy := o.podSpec?.bind (·.restartPolicy)

@[simp] theorem restartPolicy?_emptied : o.emptied.restartPolicy? = o.restartPolicy? := by
  cases o with
  | specless k m => cases k <;> rfl
  | controller c =>
    rcases c with ⟨_, _, _, template⟩
    rcases template with ⟨_, _ | _⟩ <;> rfl
  | pod | service | claim | configMap | autoscaler | networkPolicy => rfl

@[simp] theorem restartPolicy?_placed : (placed opt o).restartPolicy? = o.restartPolicy? := by
  rw [restartPolicy?, podSpec?_placed, restartPolicy?]

end Object

/-- The pods of a workload have the policy that a service of its unit asks for. -/
theorem WorkloadUnit.Converted.restartPolicy?_eq {spec : PodSpec} {a : Object} {os : List Object}
    (h : u.Converted opt spec a os) (hu : u.members ≠ []) :
    ∃ s ∈ u.members, a.restartPolicy? = (s.underKind (u.chosen opt)).restartPolicy? ∧
      a.restartPolicy?.isSome := by
  have hspec : a.restartPolicy? = spec.restartPolicy := by
    rw [Object.restartPolicy?, h.made.podSpec?_eq, Option.bind_some]
  rw [hspec]
  exact restartPolicy_podSpec h.podSpec_ok hu

/-- The service runs as a bare pod, and belongs to no group. -/
structure Service.RunsBare (s : Service) (key : String) (opt : Options) (o : Object) : Prop where
  ungrouped : Group.idOf s opt.groupMode = ""
  unmarked : s.inGroup = false
  name_eq : o.name = resourceName key
  cores : o.containers.map Container.core = [({ s with name := key } : Service).core]
  policy : o.restartPolicy? = ({ s with name := key } : Service).restartPolicy?

/-- Controllers start their pods again, whatever their services say and whatever joins bring. -/
theorem restartPolicy?_of_isController (h : convert services opt = .ok objects) (ho : o ∈ objects)
    (hcontroller : o.isController) : o.restartPolicy? = some .always := by
  have hw := Object.isWorkload_of_isController hcontroller
  obtain ⟨u, a, horigin⟩ := exists_origin h ho hw
  obtain ⟨spec, os, hc⟩ := horigin.converted
  have hsame : o.restartPolicy? = a.restartPolicy? := by
    rw [horigin.observed fun _ => Object.restartPolicy?_emptied, Object.restartPolicy?_placed]
  obtain ⟨s, _, hpolicy, hsome⟩ := hc.restartPolicy?_eq (members_ne_nil horigin.mem)
  obtain ⟨policy, hp⟩ := Option.isSome_iff_exists.1 hsome
  rw [WorkloadUnit.isController_eq horigin.kind_eq hw] at hcontroller
  rw [hp] at hpolicy
  rw [hsame, hp, Service.restartPolicy?_underKind hcontroller hpolicy.symm]

/-- A bare pod runs one service, which belongs to no group and asks not to be started again. -/
theorem exists_runsBare (h : convert services opt = .ok objects) (ho : o ∈ objects)
    (hw : o.isWorkload) (hbare : o.isController = false) :
    opt.controller = none ∧ ∃ key s, (key, s) ∈ services.entries ∧ isPodRestart s.restart ∧
      s.RunsBare key opt o ∧ o.restartPolicy?.isSome := by
  have hdeployment : o.isDeployment = false := by
    by_contra hd
    rw [Bool.not_eq_false] at hd
    rw [Object.isController_of_isDeployment hd] at hbare
    cases hbare
  obtain ⟨u, hu, spec, a, os, hc, rfl⟩ := exists_converted h ho hw hdeployment
  have hkind : (u.chosen opt).isController = false := by
    rw [← hbare]
    exact (WorkloadUnit.isController_eq (kind_placed.trans hc.made.kind_eq) hw).symm
  have hpod : u.chosen opt = .pod := by
    cases hchosen : u.chosen opt with
    | pod => rfl
    | deployment | daemonSet | statefulSet | deploymentConfig => rw [hchosen] at hkind; cases hkind
  obtain ⟨hcontroller, key, s, hs, hid, hmark, hrestart, rfl⟩ :=
    WorkloadUnit.exists_loner_of_pod hu hpod
  obtain ⟨t, ht, hpolicy, hsome⟩ := hc.restartPolicy?_eq (members_ne_nil hu)
  rw [hpod, Service.underKind_of_pod, List.mem_singleton.1 ht] at hpolicy
  have hcores := hc.cores
  refine ⟨hcontroller, key, s, hs, hrestart, ⟨hid, hmark, ?_, ?_, ?_⟩, ?_⟩
  · rw [name_placed, hc.made.name_eq]
  · rw [containers_placed]
    exact hcores
  · rw [Object.restartPolicy?_placed, hpolicy]
  · rwa [Object.restartPolicy?_placed]

/-- Controllers start their pods again, whatever the services say. A bare pod is not started again,
or only after a failure; it runs one service that has no group, where no controller is asked for. -/
theorem restarts_as_kind (h : convert services opt = .ok objects) (ho : o ∈ objects)
    (hw : o.isWorkload) :
    (o.isController → o.restartPolicy? = some .always) ∧
    (o.isController = false →
      (o.restartPolicy? = some .never ∨ o.restartPolicy? = some .onFailure) ∧
      opt.controller = none ∧ ∃ key s, (key, s) ∈ services.entries ∧ s.RunsBare key opt o) := by
  refine ⟨restartPolicy?_of_isController h ho, fun hbare => ?_⟩
  obtain ⟨hcontroller, key, s, hs, hrestart, hruns, hsome⟩ := exists_runsBare h ho hw hbare
  refine ⟨?_, hcontroller, key, s, hs, hruns⟩
  obtain ⟨policy, hp⟩ := Option.isSome_iff_exists.1 hsome
  have hne : policy ≠ .always := by
    have hasked : isPodRestart ({ s with name := key } : Service).restart := hrestart
    exact Service.ne_always_of_isPodRestart hasked (hruns.policy.symm.trans hp)
  rw [hp]
  cases policy with
  | always => exact (hne rfl).elim
  | never => exact Or.inl rfl
  | onFailure => exact Or.inr rfl

/-- Two services that are not started again. One of them has a group with a third one. -/
def endingServices : Dict Service :=
  let labels : Dict String := .singleton Label.group "backend"
  .ofList
    [("api", { image := "api", restart := "no", labels }),
      ("task", { image := "busybox", restart := "on-failure" }),
      ("worker", { image := "worker", labels })]

theorem restarts_as_kind_ending :
    ∃ a ∈ output endingServices { groupMode := some "label" },
      ∃ b ∈ output endingServices { groupMode := some "label" },
        a.containers.map (·.name) = ["api", "worker"] ∧ a.restartPolicy? = some .always ∧
          ∃ s : Service, s.RunsBare "task" { groupMode := some "label" } b := by
  have hok : convert endingServices { groupMode := some "label" } =
      .ok (output endingServices { groupMode := some "label" }) :=
    convert_output (by decide +kernel)
  have hworkloads : ∃ a ∈ output endingServices { groupMode := some "label" },
      ∃ b ∈ output endingServices { groupMode := some "label" },
        a.containers.map (·.name) = ["api", "worker"] ∧ a.isWorkload ∧ a.isController ∧
          b.isWorkload ∧ b.isController = false := by
    decide +kernel
  have honly : ∀ e ∈ endingServices.entries, Group.idOf e.2 (some "label") = "" →
      e.1 = "task" := by
    decide +kernel
  obtain ⟨a, ha, b, hb, hcontainers, haw, hcontroller, hbw, hbare⟩ := hworkloads
  obtain ⟨_, _, key, s, hs, hruns⟩ := (restarts_as_kind hok hb hbw).2 hbare
  have hkey : key = "task" := honly _ hs hruns.ungrouped
  subst hkey
  exact ⟨a, ha, b, hb, hcontainers, (restarts_as_kind hok ha haw).1 hcontroller, s, hruns⟩

end Manifests
