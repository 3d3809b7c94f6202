import Manifests.Proofs.ContainerSteps

/-! A service keeps its container to itself, whatever shares the pod with it. -/
namespace Manifests

section Steps

variable {ctx : PodStep.Context} {steps : List PodStep} {spec spec' : PodSpec} {c : Container}

theorem containers_append (h : spec.append ctx steps = .ok spec') : spec'.containers =
    steps.foldl (fun l step => step.onContainers ctx.service l) spec.containers :=
  foldlM_observed PodSpec.containers (fun l step => step.onContainers ctx.service l)
    (fun _ _ _ => PodStep.containers_apply) h

/-- Steps of a service leave the containers of other names alone. -/
theorem getElem?_append {i : Nat} (hname : c.name ≠ ctx.service.container)
    (hc : spec.containers[i]? = some c) (h : spec.append ctx steps = .ok spec') :
    spec'.containers[i]? = some c := by
  refine foldlM_keeps (P := fun spec => spec.containers[i]? = some c) ?_ hc h
  intro spec spec' step _ h hc
  rcases PodStep.getElem?_apply h hc with hsame | ⟨htuned, _⟩
  · exact hsame
  · exact absurd htuned hname

end Steps

namespace WorkloadUnit

variable {u : WorkloadUnit} {kind : WorkloadKind} {opt : Options} {workload : String}
  {s : Service} {spec spec' : PodSpec} {before after : List Service}

theorem container_underKind : (s.underKind kind).container = s.container :=
  underKind_observed Service.container fun _ => rfl

theorem podSpec_singleton : podSpec ⟨workload, [s]⟩ kind opt =
    addService workload kind opt {} (s.underKind kind) := by
  simp [podSpec, servicesUnder]

/-- A service of a new name adds the container that it has on its own. -/
theorem containers_addService (hname : s.container ∉ spec.containers.map (·.name))
    (h : addService workload kind opt spec s = .ok spec') :
    ∃ c solo, spec'.containers = spec.containers ++ [c] ∧ c.name = s.container ∧
      addService workload kind opt {} s = .ok solo ∧ solo.containers = [c] := by
  obtain ⟨solo, hsolo⟩ : ∃ solo, addService workload kind opt {} s = .ok solo := by
    have hgood : s.refusal? = none :=
      failure?_addService.symm.trans (failure?_eq_none.2 ⟨spec', h⟩)
    exact failure?_eq_none.1 (failure?_addService.trans hgood)
  have hcores : solo.containers.map Container.core = [s.core] := cores_addService hsolo
  obtain ⟨c, hc, hcore⟩ := List.map_eq_singleton_iff.1 hcores
  refine ⟨c, solo, ?_, congrArg ContainerCore.name hcore, hsolo, hc⟩
  have hshared := containers_append (mapError_ok h)
  have halone := containers_append (mapError_ok hsolo)
  rw [← hc, hshared, halone, ← PodStep.foldl_onContainers_append hname, List.append_nil]

/-- Services of other names leave a container alone. -/
theorem getElem?_addServices {l : List Service} {c : Container} {i : Nat}
    (hnames : ∀ t ∈ l, c.name ≠ t.container) (hc : spec.containers[i]? = some c)
    (h : l.foldlM (addService workload kind opt) spec = .ok spec') :
    spec'.containers[i]? = some c := by
  have hstep : ∀ spec spec', ∀ t ∈ l, addService workload kind opt spec t = .ok spec' →
      spec.containers[i]? = some c → spec'.containers[i]? = some c := by
    intro spec spec' t ht h hkept
    have hrun : spec.append ⟨t, workload⟩ (steps workload kind opt t) = .ok spec' := mapError_ok h
    refine getElem?_append ?_ hkept hrun
    exact hnames t ht
  exact foldlM_keeps (P := fun spec => spec.containers[i]? = some c) hstep hc h

theorem names_podSpec (h : u.podSpec kind opt = .ok spec) :
    spec.containers.map (·.name) = u.members.map Service.container := by
  have hcores : (spec.containers.map Container.core).map ContainerCore.name =
      (u.members.map Service.core).map ContainerCore.name :=
    congrArg (List.map ContainerCore.name) (cores_podSpec h)
  rw [List.map_map, List.map_map] at hcores
  exact hcores

/-- The container of a service whose name is its own is the one that it has in a pod of its own. -/
theorem container_podSpec (h : u.podSpec kind opt = .ok spec)
    (hu : u.members = before ++ s :: after)
    (hname : s.container ∉ (before ++ after).map Service.container) :
    ∃ c solo, spec.containers[before.length]? = some c ∧
      podSpec ⟨u.name, [s]⟩ kind opt = .ok solo ∧ solo.containers = [c] := by
  rw [List.map_append, List.mem_append, not_or] at hname
  obtain ⟨hbefore, hafter⟩ := hname
  rw [podSpec, servicesUnder, hu, List.map_append, List.map_cons, List.foldlM_append] at h
  obtain ⟨mid, hmid, h⟩ := bind_ok h
  rw [List.foldlM_cons] at h
  obtain ⟨joined, hjoined, hrest⟩ := bind_ok h
  -- What the service finds is the pod of the services before it.
  have hnames : mid.containers.map (·.name) = before.map Service.container :=
    names_podSpec (u := ⟨u.name, before⟩) hmid
  have hlength : mid.containers.length = before.length := by
    simpa using congrArg List.length hnames
  have hnew : (s.underKind kind).container ∉ mid.containers.map (·.name) := by
    rw [container_underKind, hnames]
    exact hbefore
  obtain ⟨c, solo, hjoins, hcname, hsolo, hc⟩ := containers_addService hnew hjoined
  have hadded : joined.containers[before.length]? = some c := by
    rw [hjoins, ← hlength, List.getElem?_concat_length]
  have hothers : ∀ t ∈ after.map (·.underKind kind), c.name ≠ t.container := by
    intro t ht hsame
    obtain ⟨r, hr, rfl⟩ := List.mem_map.1 ht
    rw [hcname, container_underKind, container_underKind] at hsame
    exact hafter (List.mem_map.2 ⟨r, hr, hsame.symm⟩)
  exact ⟨c, solo, getElem?_addServices hothers hadded hrest, podSpec_singleton.trans hsolo, hc⟩

end WorkloadUnit

/-- The containers of all workloads. -/
def workloadContainers (objects : List Object) : List Container :=
  (objects.filter Object.isWorkload).flatMap Object.containers

namespace WorkloadUnit

variable {u : WorkloadUnit} {opt : Options} {objects : List Object}

theorem containers_convert (h : u.convert opt = .ok objects) :
    ∃ spec, u.podSpec (u.chosen opt) opt = .ok spec ∧
      workloadContainers objects = spec.containers := by
  by_cases hu : u.members = []
  · have hnone : objects = [] := by
      rw [convert, hu] at h
      cases h
      rfl
    refine ⟨{}, ?_, ?_⟩
    · rw [podSpec, servicesUnder, hu]
      rfl
    · rw [hnone]
      rfl
  · obtain ⟨spec, o, hmade⟩ := convert_ok hu h
    refine ⟨spec, hmade.podSpec_ok, ?_⟩
    rw [workloadContainers, hmade.workloads, List.flatMap_singleton, Object.containers,
      hmade.made.podSpec?_eq, Option.getD_some]

/-- A unit is converted to one container for each of its services, in order. A container whose name
is used once is, in every field, the one that its service gets as the only one of such a unit. -/
theorem own_containers (h : u.convert opt = .ok objects) :
    ∃ spec, u.podSpec (u.chosen opt) opt = .ok spec ∧
      workloadContainers objects = spec.containers ∧
      spec.containers.map Container.core = u.members.map Service.core ∧
      ∀ before s after, u.members = before ++ s :: after →
        s.container ∉ (before ++ after).map Service.container →
        ∃ c solo, spec.containers[before.length]? = some c ∧
          podSpec ⟨u.name, [s]⟩ (u.chosen opt) opt = .ok solo ∧ solo.containers = [c] ∧
          (chosen ⟨u.name, [s]⟩ opt = u.chosen opt →
            ∃ alone, convert ⟨u.name, [s]⟩ opt = .ok alone ∧ workloadContainers alone = [c]) := by
  obtain ⟨spec, hspec, hcontainers⟩ := containers_convert h
  refine ⟨spec, hspec, hcontainers, cores_podSpec hspec, ?_⟩
  intro before s after hu hname
  obtain ⟨c, solo, hc, hsolo, hown⟩ := container_podSpec hspec hu hname
  refine ⟨c, solo, hc, hsolo, hown, fun hkind => ?_⟩
  have hgood : failure? (convert ⟨u.name, [s]⟩ opt) = none := by
    rw [failure?_convert, ← failure?_podSpec, hsolo]
    rfl
  obtain ⟨alone, halone⟩ := failure?_eq_none.1 hgood
  obtain ⟨spec', hspec', hsame⟩ := containers_convert halone
  rw [hkind, hsolo] at hspec'
  cases hspec'
  exact ⟨alone, halone, hsame.trans hown⟩

/-- A member of a group that is limited and mounts a directory in memory. -/
def limitedMember (name : String) : Service where
  name := name
  image := "nginx"
  memoryLimit := 64
  tmpfs := ["/run"]
  inGroup := true

/-- A service between two others, which go by one name. -/
def crowd : WorkloadUnit where
  name := "shop"
  members := [limitedMember "web", { limitedMember "api" with memoryLimit := 0 },
    { limitedMember "www" with containerName := some "web" }]

theorem own_containers_crowd : ∃ objects c alone, crowd.convert {} = .ok objects ∧
    (workloadContainers objects)[1]? = some c ∧
    convert ⟨"shop", [{ limitedMember "api" with memoryLimit := 0 }]⟩ {} = .ok alone ∧
    workloadContainers alone = [c] := by
  obtain ⟨objects, h⟩ : ∃ objects, crowd.convert {} = .ok objects :=
    failure?_eq_none.1 (by decide +kernel)
  obtain ⟨spec, _, hcontainers, _, hown⟩ := own_containers h
  obtain ⟨c, _, hc, _, _, hconvert⟩ := hown [limitedMember "web"]
    { limitedMember "api" with memoryLimit := 0 }
    [{ limitedMember "www" with containerName := some "web" }] rfl (by decide +kernel)
  obtain ⟨alone, halone, hsame⟩ := hconvert (by decide +kernel)
  exact ⟨objects, c, alone, h, by rw [hcontainers]; exact hc, halone, hsame⟩

end WorkloadUnit

end Manifests
