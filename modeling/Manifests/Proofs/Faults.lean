import Manifests.Proofs.Conversion
import Manifests.Proofs.ConversionOrder

/-! What stops a conversion: the first service at fault, or else the merge. -/
namespace Manifests

variable {s : Service} {opt : Options} {u : WorkloadUnit} {kind : WorkloadKind} {workload : String}

/-- A check that is on and says something, but has no command, no web address that is complete and
no port. -/
def HealthCheck.Malformed (c : HealthCheck) : Prop :=
  c.disable = false ∧ c ≠ {} ∧ c.test = [] ∧
    (filled c.httpPath = none ∨ nonzero c.httpPort = none) ∧ nonzero c.tcpPort = none

instance {c : HealthCheck} : Decidable c.Malformed :=
  inferInstanceAs (Decidable (_ ∧ _ ∧ _ ∧ _ ∧ _))

def PullPolicy.words : List String := ["", "Always", "Never", "IfNotPresent"]

def RestartPolicy.words : List String := ["", "always", "any", "no", "none", "on-failure"]

namespace Service

variable (s : Service)

def healthFault? : Option Failure :=
  if s.liveness.Malformed ∨ s.readiness.Malformed then some (.malformedHealthCheck s.name) else none

def pullFault? : Option Failure :=
  if s.imagePullPolicy ∈ PullPolicy.words then none
  else some (.unknownPullPolicy s.name s.imagePullPolicy)

def restartFault? : Option Failure :=
  if s.restart ∈ RestartPolicy.words then none
  else some (.unknownRestartPolicy s.name s.restart)

/-- The first fault of a service: health checks before the pull policy, and that before the restart
policy. -/
def fault? : Option Failure := s.healthFault?.or (s.pullFault?.or s.restartFault?)

/-- The first fault as a conversion reports it. -/
def refusal? : Option Failure := s.fault?.map (.converting s.name)

end Service

namespace Failure

/-- A failure to read a service. -/
def OfService : Failure → Prop
  | malformedHealthCheck _ | unknownPullPolicy .. | unknownRestartPolicy .. => True
  | _ => False

/-- A failure to join workloads. -/
def OfMerge : Failure → Prop
  | unsupportedMerge .. | mergeTargetMissing .. => True
  | _ => False

theorem ofService_of_fault? {failure : Failure} (h : s.fault? = some failure) :
    failure.OfService := by
  simp only [Service.fault?, Option.or_eq_some_iff] at h
  rcases h with h | ⟨_, h | ⟨_, h⟩⟩
  · simp only [Service.healthFault?, Option.ite_none_right_eq_some] at h
    obtain ⟨_, h⟩ := h
    cases h
    trivial
  · simp only [Service.pullFault?, Option.ite_none_left_eq_some] at h
    obtain ⟨_, h⟩ := h
    cases h
    trivial
  · simp only [Service.restartFault?, Option.ite_none_left_eq_some] at h
    obtain ⟨_, h⟩ := h
    cases h
    trivial

/-- The failure of a service names no service yet. -/
theorem inService_of_ofService {failure : Failure} (h : failure.OfService) (name : String) :
    failure.inService name = .converting name failure := by
  cases failure <;> first | rfl | cases h

end Failure

section Steps

theorem failure?_probe {c : HealthCheck} {name : String} :
    failure? (c.probe name) = if c.Malformed then some (.malformedHealthCheck name) else none := by
  rw [HealthCheck.probe]
  split
  · rename_i hoff
    rw [if_neg]
    · rfl
    · rintro ⟨hon, hsays, _⟩
      rcases hoff with hoff | hoff
      · rw [hon] at hoff
        cases hoff
      · exact hsays hoff
  · rename_i hon
    rw [not_or, Bool.not_eq_true] at hon
    by_cases htest : c.test = []
    · cases hpath : filled c.httpPath <;> cases hport : nonzero c.httpPort <;>
        cases htcp : nonzero c.tcpPort <;>
        simp [HealthCheck.handler?, HealthCheck.Malformed, failure?, hon, htest, hpath, hport, htcp]
    · simp [HealthCheck.handler?, HealthCheck.Malformed, failure?, htest]

theorem failure?_newContainer : failure? s.newContainer = s.healthFault? := by
  have hready : ∀ liveness : Option Probe, failure? (do
      let readiness ← s.readiness.probe s.name
      return ({
        name := s.container
        image := s.containerImage
        command := s.command
        args := s.containerArgs
        workingDir := filled s.workingDir
        env := s.envVars
        envFrom := s.envFrom
        liveness
        readiness
        stdin := s.stdin
        tty := s.tty } : Container)) = failure? (s.readiness.probe s.name) := by
    intro liveness
    rw [failure?_bind (g := none) fun _ => rfl, Option.or_none]
  rw [Service.newContainer, failure?_bind hready, failure?_probe, failure?_probe,
    Service.healthFault?]
  by_cases hlive : s.liveness.Malformed <;> simp [hlive]

theorem failure?_parse_pull {name policy : String} : failure? (PullPolicy.parse name policy) =
    if policy ∈ PullPolicy.words then none else some (.unknownPullPolicy name policy) := by
  unfold PullPolicy.parse
  split <;> simp_all [failure?, PullPolicy.words]

theorem failure?_parse_restart {name policy : String} :
    failure? (RestartPolicy.parse name policy) =
      if policy ∈ RestartPolicy.words then none else some (.unknownRestartPolicy name policy) := by
  unfold RestartPolicy.parse
  split <;> simp_all [failure?, RestartPolicy.words]

/-- The fault that a step finds. -/
def PodStep.fault? (s : Service) : PodStep → Option Failure
  | addContainer => s.healthFault?
  | imagePullPolicy => s.pullFault?
  | restartPolicy => s.restartFault?
  | _ => none

theorem failure?_apply {ctx : PodStep.Context} {spec : PodSpec} {step : PodStep} :
    failure? (step.apply ctx spec) = step.fault? ctx.service := by
  cases step with
  | addContainer =>
    rw [PodStep.apply, failure?_bind (g := none) fun _ => rfl, failure?_newContainer,
      Option.or_none]
    rfl
  | imagePullPolicy =>
    rw [PodStep.apply, failure?_bind (g := none) fun _ => rfl, failure?_parse_pull,
      Option.or_none]
    rfl
  | restartPolicy =>
    rw [PodStep.apply, failure?_bind (g := none) fun _ => rfl, failure?_parse_restart,
      Option.or_none]
    rfl
  | limits | requests | security | volumes | mounts | ports | hostname | domainname | gracePeriod |
    serviceAccount | spread | affinity | initContainers => rfl

end Steps

namespace WorkloadUnit

theorem findSome?_steps :
    (steps workload kind opt s).findSome? (PodStep.fault? s) = s.fault? := by
  rw [steps, Service.fault?]
  cases hhealth : s.healthFault? <;> cases hpull : s.pullFault? <;>
    cases hrestart : s.restartFault? <;>
    cases filled (s.labels.get? Label.serviceAccount) <;>
    simp [List.findSome?_cons, PodStep.fault?, hhealth, hpull, hrestart]

theorem map_inService : s.fault?.map (·.inService s.name) = s.refusal? := by
  rw [Service.refusal?]
  cases h : s.fault? with
  | none => rfl
  | some failure =>
    rw [Option.map_some, Option.map_some,
      Failure.inService_of_ofService (Failure.ofService_of_fault? h)]

theorem failure?_addService {spec : PodSpec} :
    failure? (addService workload kind opt spec s) = s.refusal? := by
  have hsteps : ∀ spec (step : PodStep), failure? (step.apply ⟨s, workload⟩ spec) = step.fault? s :=
    fun _ _ => failure?_apply
  rw [addService, failure?_mapError, PodSpec.append, failure?_foldlM hsteps, findSome?_steps,
    map_inService]

/-- A restart policy that a controller overrides was a good one. -/
theorem refusal?_underKind : (s.underKind kind).refusal? = s.refusal? := by
  rw [Service.underKind]
  split
  · rename_i h
    have hgood : s.restart ∈ RestartPolicy.words := by
      have hpod := h.2
      simp only [isPodRestart, Bool.or_eq_true, decide_eq_true_eq] at hpod
      rcases hpod with (hpod | hpod) | hpod <;> rw [hpod] <;> decide
    have hrestart : s.restartFault? = none := if_pos hgood
    simp only [Service.refusal?, Service.fault?, hrestart]
    rfl
  · rfl

theorem failure?_podSpec :
    failure? (u.podSpec kind opt) = u.members.findSome? Service.refusal? := by
  have hadd : ∀ spec s, failure? (addService u.name kind opt spec s) = s.refusal? :=
    fun _ _ => failure?_addService
  have hsame : Service.refusal? ∘ (·.underKind kind) = Service.refusal? :=
    funext fun _ => refusal?_underKind
  rw [podSpec, failure?_foldlM hadd, servicesUnder, List.findSome?_map, hsame]

/-- Of a unit, only the services can be at fault. -/
theorem failure?_convert : failure? (u.convert opt) = u.members.findSome? Service.refusal? := by
  rw [convert]
  split
  · rename_i hm
    rw [hm]
    rfl
  · simp only [failure_workload]
    rw [failure?_bind (g := none) fun _ => rfl, failure?_podSpec, Option.or_none]

end WorkloadUnit

section Merge

variable {objects : List Object} {joins final : List Join} {j : Join} {m m' : Merging}
  {failure : Failure}

theorem ofMerge_resolve (h : Join.resolve objects joins j = .error failure) : failure.OfMerge := by
  rw [Join.resolve] at h
  split at h
  split at h
  · cases h
    trivial
  · cases h

theorem ofMerge_step (h : m.step j = .error failure) : failure.OfMerge := by
  rw [Merging.step] at h
  split at h
  · cases h
  · split at h
    · cases h
      trivial
    · split at h
      · cases h
      · cases h
        trivial

theorem ofMerge_run (h : m.run final = ⟨m', some failure⟩) : failure.OfMerge := by
  induction final generalizing m with
  | nil => cases h
  | cons j final ih =>
    rw [Merging.run] at h
    cases hs : m.step j with
    | ok m₁ =>
      simp only [hs] at h
      exact ih h
    | error cause =>
      simp only [hs] at h
      cases h
      exact ofMerge_step hs

theorem ofMerge_mergeJoins {services : Dict Service}
    (h : (mergeJoins objects services).failure = some failure) : failure.OfMerge := by
  rw [mergeJoins] at h
  cases hr : Join.resolveAll objects (Join.ofServices services) with
  | error cause =>
    simp only [hr] at h
    cases h
    obtain ⟨j, _, hj⟩ := mapM_error hr
    exact ofMerge_resolve hj
  | ok final =>
    simp only [hr] at h
    split at h
    · rename_i hrun
      cases h
      exact ofMerge_run hrun
    · cases h

end Merge

section Outcome

variable {services : Dict Service} {mode : Option String}

/-- What stops the conversion of the units is the first service at fault. -/
theorem failure?_units : failure? ((unitsOf services mode).mapM (·.convert opt)) =
    (conversionOrder services mode).findSome? Service.refusal? := by
  rw [failure?_mapM (fun _ _ => WorkloadUnit.failure?_convert), ← findSome?_flatMap,
    members_eq_conversionOrder]

theorem refusal?_eq_none {s : Service} : s.refusal? = none ↔ s.fault? = none :=
  Option.map_eq_none_iff

/-- Once all units are converted, a conversion ends as the merge does. -/
theorem convert_of_units {made : List (List Object)}
    (h : (unitsOf (keyed services) opt.groupMode).mapM (·.convert opt) = .ok made) :
    (∃ failure, failure.OfMerge ∧ (joined services opt made).failure = some failure ∧
      convert services opt = .error failure) ∨
    (joined services opt made).failure = none ∧
      convert services opt = .ok (arranged opt (joined services opt made).left) := by
  rw [convert_of_made h]
  cases hf : (joined services opt made).failure with
  | some failure => exact Or.inl ⟨failure, ofMerge_mergeJoins hf, rfl, rfl⟩
  | none => exact Or.inr ⟨rfl, rfl⟩

theorem convert_of_fault {before after : List Service} {s : Service} {cause : Failure}
    (horder : conversionOrder (keyed services) opt.groupMode = before ++ s :: after)
    (hbefore : ∀ t ∈ before, t.fault? = none) (hcause : s.fault? = some cause) :
    convert services opt = .error (.converting s.name cause) := by
  apply convert_of_failure
  rw [← failure?_eq_some, failure?_units, List.findSome?_eq_some_iff]
  refine ⟨before, s, after, horder, ?_, fun t ht => refusal?_eq_none.2 (hbefore t ht)⟩
  rw [Service.refusal?, hcause, Option.map_some]

theorem units_of_no_fault
    (h : ∀ s ∈ conversionOrder (keyed services) opt.groupMode, s.fault? = none) :
    ∃ made, (unitsOf (keyed services) opt.groupMode).mapM (·.convert opt) = .ok made := by
  rw [← failure?_eq_none, failure?_units, List.findSome?_eq_none_iff]
  exact fun s hs => refusal?_eq_none.2 (h s hs)

/-- A failure of the units is one of a service, and names it once. -/
theorem ofService_of_units {failure : Failure}
    (h : (unitsOf (keyed services) opt.groupMode).mapM (·.convert opt) = .error failure) :
    ∃ name cause, failure = .converting name cause ∧ cause.OfService := by
  have hfirst := failure?_eq_some.2 h
  rw [failure?_units] at hfirst
  obtain ⟨s, _, hs⟩ := List.exists_of_findSome?_eq_some hfirst
  obtain ⟨cause, hcause, rfl⟩ := Option.map_eq_some_iff.1 hs
  exact ⟨s.name, cause, rfl, Failure.ofService_of_fault? hcause⟩

/-- A conversion ends with the first service at fault, whatever comes behind it. Without such a
service it ends as the merge does. No failure is told in two services, and none comes from a kind
of workload or a duration. -/
theorem convert_outcome (services : Dict Service) (opt : Options) :
    Orderly (keyed services) opt.groupMode ∧
    (∀ before s after cause,
      conversionOrder (keyed services) opt.groupMode = before ++ s :: after →
      (∀ t ∈ before, t.fault? = none) → s.fault? = some cause →
      convert services opt = .error (.converting s.name cause)) ∧
    ((∀ s ∈ conversionOrder (keyed services) opt.groupMode, s.fault? = none) →
      ∃ made, (unitsOf (keyed services) opt.groupMode).mapM (·.convert opt) = .ok made ∧
        ((∃ failure, failure.OfMerge ∧ (joined services opt made).failure = some failure ∧
          convert services opt = .error failure) ∨
        (joined services opt made).failure = none ∧
          convert services opt = .ok (arranged opt (joined services opt made).left))) ∧
    ∀ failure, convert services opt = .error failure →
      failure.OfMerge ∨ ∃ name cause, failure = .converting name cause ∧ cause.OfService := by
  refine ⟨orderly_keyed services opt.groupMode, fun _ _ _ _ => convert_of_fault, ?_, ?_⟩
  · intro hnone
    obtain ⟨made, hmade⟩ := units_of_no_fault hnone
    exact ⟨made, hmade, convert_of_units hmade⟩
  · intro failure hfailure
    cases hunits : (unitsOf (keyed services) opt.groupMode).mapM (·.convert opt) with
    | error refusal =>
      have hsame := convert_of_failure hunits
      rw [hfailure] at hsame
      cases hsame
      exact Or.inr (ofService_of_units hunits)
    | ok made =>
      rcases convert_of_units hunits with ⟨cause, hmerge, _, hconvert⟩ | ⟨_, hconvert⟩
      · rw [hfailure] at hconvert
        cases hconvert
        exact Or.inl hmerge
      · rw [hfailure] at hconvert
        cases hconvert

/-- A member of a group. -/
def storeMember (name : String) : Service where
  name
  labels := .singleton Label.group "store"
  inGroup := true

/-- Two services at fault, the second of them in two ways and in a group. -/
def faultyServices : Dict Service :=
  .ofList
    [("api", { restart := "sometimes" }),
      ("db", storeMember "db"),
      ("worker",
        { storeMember "worker" with
          readiness := { interval := some 10 }
          imagePullPolicy := "Often" })]

theorem convert_outcome_worker : convert faultyServices { groupMode := some "label" } =
    .error (.converting "worker" (.malformedHealthCheck "worker")) :=
  (convert_outcome faultyServices { groupMode := some "label" }).2.1 [storeMember "db"]
    { storeMember "worker" with
      readiness := { interval := some 10 }
      imagePullPolicy := "Often" }
    [{ name := "api", restart := "sometimes" }] _ (by decide +kernel) (by decide +kernel)
    (by decide +kernel)

end Outcome

end Manifests
