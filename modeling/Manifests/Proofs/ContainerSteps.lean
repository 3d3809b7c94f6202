import Manifests.Proofs.Faults
import Manifests.Proofs.PodSteps

/-! What each step does to the containers of a pod: it sets something in the first one of its
service's name, or it adds one. -/
namespace Manifests

section ChangeFirst

variable {l m : List Container} {c : Container} {n k : String} {f g : Container → Container}

/-- Containers of other names in front are passed over. -/
theorem changeFirst_append_of_notMem (h : n ∉ l.map (·.name)) :
    changeFirst n f (l ++ m) = l ++ changeFirst n f m := by
  induction l with
  | nil => rfl
  | cons c l ih =>
    rw [List.map_cons, List.mem_cons, not_or] at h
    rw [List.cons_append, changeFirst, if_neg (Ne.symm h.1), ih h.2, List.cons_append]

/-- A container is as it was, or it is the one that is changed. -/
theorem getElem?_changeFirst {i : Nat} (h : l[i]? = some c) :
    (changeFirst n f l)[i]? = some c ∨ c.name = n ∧ (changeFirst n f l)[i]? = some (f c) := by
  induction l generalizing i with
  | nil => simp at h
  | cons d l ih =>
    rw [changeFirst]
    cases i with
    | zero =>
      obtain rfl : d = c := by simpa using h
      by_cases hd : d.name = n
      · simp [hd]
      · simp [hd]
    | succ i =>
      rw [List.getElem?_cons_succ] at h
      split
      · exact Or.inl h
      · exact ih h

theorem mem_changeFirst (h : c ∈ changeFirst n f l) : c ∈ l ∨ ∃ d ∈ l, c = f d := by
  rw [changeFirst_eq] at h
  rcases mem_changeFirstWhere h with h | ⟨d, hd, _, rfl⟩
  · exact Or.inl h
  · exact Or.inr ⟨d, hd, rfl⟩

/-- Two changes that keep the names find the same containers one after the other, in whichever
order they are made. -/
theorem changeFirst_comm (hf : ∀ c, (f c).name = c.name) (hg : ∀ c, (g c).name = c.name)
    (h : ∀ c, f (g c) = g (f c)) :
    changeFirst n f (changeFirst k g l) = changeFirst k g (changeFirst n f l) := by
  induction l with
  | nil => rfl
  | cons c l ih =>
    simp only [changeFirst]
    by_cases hn : c.name = n
    · by_cases hk : c.name = k
      · simp only [if_pos hn, if_pos hk, changeFirst, hf, hg, h]
      · simp only [if_pos hn, if_neg hk, changeFirst, hf]
    · by_cases hk : c.name = k
      · simp only [if_neg hn, if_pos hk, changeFirst, hg]
      · simp only [if_neg hn, if_neg hk, changeFirst, ih]

theorem changeFirst_changeFirst (hg : ∀ c, (g c).name = c.name) :
    changeFirst n f (changeFirst n g l) = changeFirst n (fun c => f (g c)) l := by
  induction l with
  | nil => rfl
  | cons c l ih => by_cases hn : c.name = n <;> simp [changeFirst, hn, hg, ih]

end ChangeFirst

namespace Container

variable {c : Container} {added : List VolumeMount}

theorem mountList_addMounts : (c.addMounts added).mountList = unionMounts c.mountList added :=
  getD_nonempty?

theorem addMounts_addMounts : (c.addMounts added).addMounts added = c.addMounts added := by
  have hunion : unionMounts (c.addMounts added).mountList added = unionMounts c.mountList added := by
    rw [mountList_addMounts]
    exact unionBy_unionBy_self
  exact congrArg (fun l => { c with mounts := nonempty? l }) hunion

end Container

namespace PodStep

variable {ctx : Context} {spec spec' : PodSpec} {step : PodStep} {steps : List PodStep}
  {s : Service} {c : Container}

/-- What a step sets in the container of its service. -/
def tune (s : Service) (step : PodStep) (c : Container) : Container :=
  match step with
  | limits =>
    let limits := Quantity.resources s.memoryLimit s.cpuLimit (filled s.ephemeralLimit)
    if limits.isEmpty then c else { c with limits }
  | requests =>
    let requests :=
      Quantity.resources s.memoryReservation s.cpuReservation (filled s.ephemeralRequest)
    if requests.isEmpty then c else { c with requests }
  | security => { c with security := s.containerSecurity.or c.security }
  | mounts added => c.addMounts added
  | ports => if s.containerPorts = [] then c else { c with ports := s.containerPorts }
  | imagePullPolicy =>
    match PullPolicy.parse s.name s.imagePullPolicy with
    | .ok policy => { c with imagePullPolicy := policy }
    | .error _ => c
  | _ => c

/-- The containers that a step adds. -/
def added (s : Service) : PodStep → List Container
  | addContainer => s.newContainer.toOption.toList
  | _ => []

/-- The containers of a pod after a step. -/
def onContainers (s : Service) (step : PodStep) (l : List Container) : List Container :=
  changeFirst s.container (step.tune s) l ++ step.added s

theorem newContainer_of_mem_added (h : c ∈ step.added s) : s.newContainer = .ok c := by
  cases step with
  | addContainer =>
    cases hnew : s.newContainer with
    | error failure => simp [added, hnew, Except.toOption] at h
    | ok d =>
      obtain rfl : c = d := by simpa [added, hnew, Except.toOption] using h
      rfl
  | limits | requests | security | volumes | mounts | ports | imagePullPolicy | restartPolicy |
    hostname | domainname | gracePeriod | serviceAccount | spread | affinity | initContainers =>
    cases h

theorem initContainer?_of_mem_addedInits (h : c ∈ step.addedInits s) :
    s.initContainer? = some c := by
  cases step with
  | initContainers => exact Option.mem_toList.1 h
  | addContainer | limits | requests | security | volumes | mounts | ports | imagePullPolicy |
    restartPolicy | hostname | domainname | gracePeriod | serviceAccount | spread | affinity =>
    cases h

theorem core_tune : (step.tune s c).core = c.core := by
  cases step with
  | limits | requests | ports | imagePullPolicy =>
    simp only [tune]
    split <;> rfl
  | addContainer | security | volumes | mounts | restartPolicy | hostname | domainname |
    gracePeriod | serviceAccount | spread | affinity | initContainers => rfl

theorem name_tune : (step.tune s c).name = c.name := congrArg ContainerCore.name core_tune

section Containers

variable {n : String} {l m : List Container} {f : Container → Container}

theorem changeFirst_eq_onContainers (hf : ∀ c, step.tune s c = f c) (hadded : step.added s = []) :
    changeFirst s.container f l = step.onContainers s l := by
  rw [onContainers, show step.tune s = f from funext hf, hadded, List.append_nil]

theorem changeFirst_tune_id (hf : ∀ c, step.tune s c = c) : changeFirst n (step.tune s) l = l := by
  rw [show step.tune s = id from funext hf, changeFirst_id]

theorem eq_onContainers (hf : ∀ c, step.tune s c = c) (hadded : step.added s = []) :
    l = step.onContainers s l := by
  rw [onContainers, changeFirst_tune_id hf, hadded, List.append_nil]

/-- Containers of other names in front have no part in a step. -/
theorem onContainers_append (h : s.container ∉ l.map (·.name)) :
    step.onContainers s (l ++ m) = l ++ step.onContainers s m := by
  rw [onContainers, changeFirst_append_of_notMem h, List.append_assoc, onContainers]

theorem foldl_onContainers_append (h : s.container ∉ l.map (·.name)) :
    steps.foldl (fun l step => step.onContainers s l) (l ++ m) =
      l ++ steps.foldl (fun l step => step.onContainers s l) m := by
  induction steps generalizing m with
  | nil => rfl
  | cons step steps ih => rw [List.foldl_cons, onContainers_append h, ih, List.foldl_cons]

end Containers

/-- All that a step does to the containers of a pod. -/
theorem containers_apply (h : step.apply ctx spec = .ok spec') :
    spec'.containers = step.onContainers ctx.service spec.containers := by
  cases step with
  | addContainer =>
    obtain ⟨c, hc, h⟩ := bind_ok h
    cases h
    rw [onContainers, changeFirst_tune_id fun _ => rfl]
    simp [added, hc, Except.toOption, PodSpec.addContainer]
  | imagePullPolicy =>
    obtain ⟨policy, hpolicy, h⟩ := bind_ok h
    cases h
    exact changeFirst_eq_onContainers (fun c => by simp only [tune, hpolicy]) rfl
  | restartPolicy =>
    obtain ⟨policy, _, h⟩ := bind_ok h
    cases h
    exact eq_onContainers (fun _ => rfl) rfl
  | limits | requests | ports =>
    cases h
    split
    · rename_i hnone
      exact eq_onContainers (fun _ => if_pos hnone) rfl
    · rename_i hsome
      exact changeFirst_eq_onContainers (fun _ => if_neg hsome) rfl
  | security =>
    cases h
    cases hs : ctx.service.containerSecurity with
    | none => exact eq_onContainers (fun _ => by simp only [tune, hs, Option.none_or]) rfl
    | some granted =>
      exact changeFirst_eq_onContainers (fun _ => by simp only [tune, hs, Option.some_or]) rfl
  | mounts =>
    cases h
    exact changeFirst_eq_onContainers (fun _ => rfl) rfl
  | spread | affinity =>
    cases h
    split <;> exact eq_onContainers (fun _ => rfl) rfl
  | volumes | hostname | domainname | gracePeriod | serviceAccount | initContainers =>
    cases h
    exact eq_onContainers (fun _ => rfl) rfl

/-- A container keeps its place. A step for a service of its name may set something in it. -/
theorem getElem?_apply {i : Nat} (h : step.apply ctx spec = .ok spec')
    (hc : spec.containers[i]? = some c) : spec'.containers[i]? = some c ∨
      c.name = ctx.service.container ∧ spec'.containers[i]? = some (step.tune ctx.service c) := by
  have hplace : ∀ {l m : List Container} {d}, l[i]? = some d → (l ++ m)[i]? = some d := by
    intro l m d hd
    rw [List.getElem?_append_left (List.getElem?_eq_some_iff.1 hd).1, hd]
  rw [containers_apply h, onContainers]
  rcases getElem?_changeFirst hc with hsame | ⟨hname, htuned⟩
  · exact Or.inl (hplace hsame)
  · exact Or.inr ⟨hname, hplace htuned⟩

end PodStep

end Manifests
