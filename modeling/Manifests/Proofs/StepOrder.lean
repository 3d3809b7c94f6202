import Manifests.Proofs.ContainerSteps

/-! Steps of different concerns do not get in each other's way. Each of them reads and writes fields
of its own, in the pod and in the container of its service. -/
namespace Manifests

/-- Fields of a record, dealt out to owners. -/
structure Ownership (κ α : Type) where
  /-- The second value, with what an owner has as in the first. -/
  graft : κ → α → α → α
  graft_self : ∀ k x, graft k x x = x
  graft_comm : ∀ {k k'}, k ≠ k' → ∀ x y z, graft k x (graft k' y z) = graft k' y (graft k x z)

namespace Ownership

variable {κ α : Type} {own : Ownership κ α} {k k' : κ} {f g : α → α}

/-- A change that looks at nothing but what the owner has, and leaves all else as it is. -/
def Within (own : Ownership κ α) (k : κ) (f : α → α) : Prop :=
  ∀ x y, f (own.graft k x y) = own.graft k (f x) y

theorem Within.frame (h : own.Within k f) (x : α) : own.graft k (f x) x = f x := by
  have hself := h x x
  rw [own.graft_self] at hself
  exact hself.symm

/-- A change on behalf of one owner is not seen by another. -/
theorem Within.unseen (hk : k ≠ k') (hg : own.Within k' g) (x : α) :
    own.graft k x (g x) = g x := by
  calc own.graft k x (g x) = own.graft k x (own.graft k' (g x) x) := by rw [hg.frame]
    _ = own.graft k' (g x) (own.graft k x x) := own.graft_comm hk x (g x) x
    _ = g x := by rw [own.graft_self, hg.frame]

theorem Within.comm (hk : k ≠ k') (hf : own.Within k f) (hg : own.Within k' g) (x : α) :
    f (g x) = g (f x) := by
  calc f (g x) = f (own.graft k x (g x)) := by rw [hg.unseen hk]
    _ = own.graft k (f x) (g x) := hf x (g x)
    _ = own.graft k (f x) (own.graft k' (g x) x) := by rw [hg.frame]
    _ = own.graft k' (g x) (own.graft k (f x) x) := own.graft_comm hk _ _ _
    _ = own.graft k' (g x) (f x) := by rw [hf.frame]
    _ = g (own.graft k' x (f x)) := (hg x (f x)).symm
    _ = g (f x) := by rw [hf.unseen hk.symm]

end Ownership

/-- What a step is about, whatever it brings with it. -/
inductive Concern where
  | container
  | limits
  | requests
  | security
  | volumes
  | mounts
  | ports
  | imagePullPolicy
  | restartPolicy
  | hostname
  | domainname
  | gracePeriod
  | serviceAccount
  | spread
  | affinity
  | initContainers
deriving DecidableEq

namespace Concern

/-- Something is set in a container that is there. -/
def isTuning : Concern → Bool
  | limits | requests | security | mounts | ports | imagePullPolicy => true
  | _ => false

end Concern

/-- Containers are no fields of their own here: they are changed one by one. -/
def PodSpec.graft (k : Concern) (x y : PodSpec) : PodSpec :=
  match k with
  | .container => { y with imagePullSecrets := x.imagePullSecrets }
  | .security => { y with security := x.security, hostPid := x.hostPid }
  | .volumes => { y with volumes := x.volumes }
  | .restartPolicy => { y with restartPolicy := x.restartPolicy }
  | .hostname => { y with hostname := x.hostname }
  | .domainname => { y with subdomain := x.subdomain }
  | .gracePeriod => { y with gracePeriod := x.gracePeriod }
  | .serviceAccount => { y with serviceAccount := x.serviceAccount }
  | .spread => { y with spread := x.spread }
  | .affinity => { y with affinity := x.affinity }
  | .initContainers => { y with initContainers := x.initContainers }
  | .limits | .requests | .mounts | .ports | .imagePullPolicy => y

def Container.graft (k : Concern) (x y : Container) : Container :=
  match k with
  | .limits => { y with limits := x.limits }
  | .requests => { y with requests := x.requests }
  | .security => { y with security := x.security }
  | .mounts => { y with mounts := x.mounts }
  | .ports => { y with ports := x.ports }
  | .imagePullPolicy => { y with imagePullPolicy := x.imagePullPolicy }
  | _ => y

def podFields : Ownership Concern PodSpec where
  graft := PodSpec.graft
  graft_self k x := by cases k <;> rfl
  graft_comm {k k'} h x y z := by cases k <;> cases k' <;> first | rfl | exact absurd rfl h

def containerFields : Ownership Concern Container where
  graft := Container.graft
  graft_self k x := by cases k <;> rfl
  graft_comm {k k'} h x y z := by cases k <;> cases k' <;> first | rfl | exact absurd rfl h

namespace PodStep

variable {ctx ctx' : Context} {spec : PodSpec} {a b step : PodStep} {s t : Service} {c : Container}
  {l : List Container}

def concern : PodStep → Concern
  | addContainer => .container
  | limits => .limits
  | requests => .requests
  | security => .security
  | volumes _ => .volumes
  | mounts _ => .mounts
  | ports => .ports
  | imagePullPolicy => .imagePullPolicy
  | restartPolicy => .restartPolicy
  | hostname => .hostname
  | domainname => .domainname
  | gracePeriod => .gracePeriod
  | serviceAccount _ => .serviceAccount
  | spread => .spread
  | affinity => .affinity
  | initContainers => .initContainers

/-- The steps are about different things, and it is not that one adds a container in which the
other may set something. -/
def Independent (a b : PodStep) : Prop :=
  a.concern ≠ b.concern ∧ ¬ (a.concern = .container ∧ b.concern.isTuning) ∧
    ¬ (b.concern = .container ∧ a.concern.isTuning)

instance : Decidable (Independent a b) := inferInstanceAs (Decidable (_ ∧ _ ∧ _))

section Containers

theorem within_tune : containerFields.Within step.concern (step.tune s) := by
  intro x y
  cases step with
  | limits | requests | ports | imagePullPolicy =>
    simp only [tune]
    split <;> rfl
  | addContainer | security | volumes | mounts | restartPolicy | hostname | domainname |
    gracePeriod | serviceAccount | spread | affinity | initContainers => rfl

theorem tune_tune : step.tune s (step.tune s c) = step.tune s c := by
  cases step with
  | limits | requests | ports | imagePullPolicy =>
    simp only [tune]
    split <;> rfl
  | security =>
    simp only [tune]
    cases s.containerSecurity <;> rfl
  | mounts => exact Container.addMounts_addMounts
  | addContainer | volumes | restartPolicy | hostname | domainname | gracePeriod |
    serviceAccount | spread | affinity | initContainers => rfl

theorem added_eq_nil (h : step.concern ≠ .container) : step.added s = [] := by
  cases step with
  | addContainer => exact absurd rfl h
  | limits | requests | security | volumes | mounts | ports | imagePullPolicy | restartPolicy |
    hostname | domainname | gracePeriod | serviceAccount | spread | affinity | initContainers => rfl

theorem tune_eq (h : step.concern.isTuning = false) : step.tune s c = c := by
  cases step with
  | limits | requests | security | mounts | ports | imagePullPolicy => cases h
  | addContainer | volumes | restartPolicy | hostname | domainname | gracePeriod |
    serviceAccount | spread | affinity | initContainers => rfl

theorem onContainers_eq_self (hadds : step.concern ≠ .container)
    (htunes : step.concern.isTuning = false) : step.onContainers s l = l :=
  (eq_onContainers (fun _ => tune_eq htunes) (added_eq_nil hadds)).symm

theorem onContainers_comm (h : a.Independent b) :
    a.onContainers s (b.onContainers t l) = b.onContainers t (a.onContainers s l) := by
  obtain ⟨hne, hab, hba⟩ := h
  by_cases ha : a.concern = .container
  · have hb : ∀ l, b.onContainers t l = l := fun l =>
      onContainers_eq_self (ha ▸ hne.symm) (by simpa [ha] using hab)
    rw [hb, hb]
  · by_cases hb : b.concern = .container
    · have ha : ∀ l, a.onContainers s l = l := fun l =>
        onContainers_eq_self ha (by simpa [hb] using hba)
      rw [ha, ha]
    · simp only [onContainers, added_eq_nil ha, added_eq_nil hb, List.append_nil]
      apply changeFirst_comm (fun _ => name_tune) (fun _ => name_tune)
      intro c
      exact Ownership.Within.comm hne within_tune within_tune c

theorem onContainers_onContainers (h : step.concern ≠ .container) :
    step.onContainers s (step.onContainers s l) = step.onContainers s l := by
  simp only [onContainers, added_eq_nil h, List.append_nil]
  rw [changeFirst_changeFirst fun _ => name_tune]
  simp only [tune_tune]

end Containers

section Effect

/-- What a step makes of a pod. A step that fails leaves it alone. -/
def effect (ctx : Context) (step : PodStep) (spec : PodSpec) : PodSpec :=
  (step.apply ctx spec).toOption.getD spec

/-- What a step makes of all in a pod but its containers. -/
def rest (ctx : Context) (step : PodStep) (spec : PodSpec) : PodSpec :=
  { step.effect ctx spec with containers := spec.containers }

theorem within_rest : podFields.Within step.concern (step.rest ctx) := by
  intro x y
  cases step with
  | addContainer =>
    simp only [rest, effect, apply]
    cases ctx.service.newContainer <;> rfl
  | imagePullPolicy =>
    simp only [rest, effect, apply]
    cases PullPolicy.parse ctx.service.name ctx.service.imagePullPolicy <;> rfl
  | restartPolicy =>
    simp only [rest, effect, apply]
    cases RestartPolicy.parse ctx.service.name ctx.service.restart <;> rfl
  | security =>
    simp only [rest, effect, apply]
    cases ctx.service.containerSecurity <;> rfl
  | limits | requests | ports | spread | affinity =>
    simp only [rest, effect, apply]
    split <;> rfl
  | volumes | mounts | hostname | domainname | gracePeriod | serviceAccount | initContainers => rfl

theorem graft_withContainers (k : Concern) (x : PodSpec) :
    podFields.graft k x { spec with containers := l } =
      { podFields.graft k x spec with containers := l } := by
  cases k <;> rfl

/-- The containers have no part in it. -/
theorem rest_withContainers : step.rest ctx { spec with containers := l } =
    { step.rest ctx spec with containers := l } := by
  calc step.rest ctx { spec with containers := l }
      = step.rest ctx (podFields.graft step.concern spec { spec with containers := l }) := by
        rw [graft_withContainers, podFields.graft_self]
    _ = podFields.graft step.concern (step.rest ctx spec) { spec with containers := l } :=
        within_rest _ _
    _ = { step.rest ctx spec with containers := l } := by
        rw [graft_withContainers, within_rest.frame]

theorem rest_rest (hcontainer : step.concern ≠ .container) (hinit : step.concern ≠ .initContainers) :
    step.rest ctx (step.rest ctx spec) = step.rest ctx spec := by
  cases step with
  | addContainer => exact absurd rfl hcontainer
  | initContainers => exact absurd rfl hinit
  | volumes added =>
    have hunion : unionVolumes (spec.addVolumes added).volumeList added =
        unionVolumes spec.volumeList added := by
      rw [PodSpec.volumeList_addVolumes]
      exact unionBy_unionBy_self
    exact congrArg (fun l => { spec with volumes := nonempty? l }) hunion
  | imagePullPolicy =>
    simp only [rest, effect, apply]
    cases PullPolicy.parse ctx.service.name ctx.service.imagePullPolicy <;> rfl
  | restartPolicy =>
    simp only [rest, effect, apply]
    cases RestartPolicy.parse ctx.service.name ctx.service.restart <;> rfl
  | security =>
    simp only [rest, effect, apply]
    cases ctx.service.containerSecurity <;> cases ctx.service.podSecurity <;>
      simp [Except.toOption, PodSpec.changeContainer]
  | hostname =>
    simp only [rest, effect, apply]
    cases filled ctx.service.hostname <;> rfl
  | domainname =>
    simp only [rest, effect, apply]
    cases filled ctx.service.domainname <;> rfl
  | gracePeriod =>
    simp only [rest, effect, apply]
    cases ctx.service.gracePeriod? <;> rfl
  | limits | requests | ports | spread | affinity =>
    simp only [rest, effect, apply]
    split <;> rfl
  | mounts | serviceAccount => rfl

section Success

variable (h : step.fault? ctx.service = none)

include h

/-- A step that finds no fault succeeds on every pod. -/
theorem apply_eq_ok : step.apply ctx spec = .ok (step.effect ctx spec) := by
  obtain ⟨spec', hok⟩ := failure?_eq_none.1 (failure?_apply.trans h)
  rw [effect, hok]
  rfl

theorem effect_eq : step.effect ctx spec =
    { step.rest ctx spec with containers := step.onContainers ctx.service spec.containers } := by
  rw [← containers_apply (apply_eq_ok h)]
  rfl

/-- The containers and the rest go their own ways. -/
theorem effect_effect {other : PodStep} (hother : other.fault? ctx'.service = none) :
    step.effect ctx (other.effect ctx' spec) =
      { step.rest ctx (other.rest ctx' spec) with
        containers :=
          step.onContainers ctx.service (other.onContainers ctx'.service spec.containers) } := by
  rw [effect_eq h, effect_eq hother, rest_withContainers]

end Success

theorem effect_comm (h : a.Independent b) (ha : a.fault? ctx.service = none)
    (hb : b.fault? ctx'.service = none) :
    a.effect ctx (b.effect ctx' spec) = b.effect ctx' (a.effect ctx spec) := by
  have hrest : a.rest ctx (b.rest ctx' spec) = b.rest ctx' (a.rest ctx spec) :=
    Ownership.Within.comm h.1 within_rest within_rest spec
  rw [effect_effect ha hb, effect_effect hb ha, hrest, onContainers_comm h]

end Effect

/-- Of two steps both succeed, or none of them leaves a pod. -/
theorem toOption_apply_apply : (a.apply ctx spec >>= fun spec => b.apply ctx' spec).toOption =
    if a.fault? ctx.service = none ∧ b.fault? ctx'.service = none then
      some (b.effect ctx' (a.effect ctx spec))
    else none := by
  cases ha : a.fault? ctx.service with
  | some failure =>
    rw [failure?_eq_some.1 (failure?_apply.trans ha)]
    simp [bind, Except.bind, Except.toOption]
  | none =>
    cases hb : b.fault? ctx'.service with
    | some failure =>
      have hfails : b.apply ctx' (a.effect ctx spec) = .error failure :=
        failure?_eq_some.1 (failure?_apply.trans hb)
      rw [apply_eq_ok ha]
      simp [bind, Except.bind, hfails, Except.toOption]
    | none =>
      rw [apply_eq_ok ha]
      simp [bind, Except.bind, apply_eq_ok hb, Except.toOption]

/-- Steps of different concerns can be made in either order, for one service or two: both ways they
fail, or both ways they make the same of a pod. All steps but those that add a container can be
repeated without effect. -/
theorem apply_in_either_order (a : PodStep) (ctx : Context) (spec : PodSpec) :
    (∀ (b : PodStep) (ctx' : Context), a.Independent b →
      (a.apply ctx spec >>= fun spec => b.apply ctx' spec).toOption =
        (b.apply ctx' spec >>= fun spec => a.apply ctx spec).toOption) ∧
    (a.concern ≠ .container → a.concern ≠ .initContainers →
      (a.apply ctx spec >>= fun spec => a.apply ctx spec) = a.apply ctx spec) := by
  constructor
  · intro b ctx' h
    rw [toOption_apply_apply, toOption_apply_apply]
    by_cases ha : a.fault? ctx.service = none
    · by_cases hb : b.fault? ctx'.service = none
      · simp [ha, hb, effect_comm h ha hb]
      · simp [hb]
    · simp [ha]
  · intro hcontainer hinit
    cases ha : a.fault? ctx.service with
    | some failure => rw [failure?_eq_some.1 (failure?_apply.trans ha)]; rfl
    | none =>
      have htwice : a.effect ctx (a.effect ctx spec) = a.effect ctx spec := by
        rw [effect_effect ha ha, rest_rest hcontainer hinit,
          onContainers_onContainers hcontainer, ← effect_eq ha]
      rw [apply_eq_ok ha]
      exact (apply_eq_ok ha).trans (congrArg Except.ok htwice)

/-- A pod in which two containers go by the name of one service. -/
def twins : PodSpec where
  containers := [{ name := "web", image := "nginx" }, { name := "web", image := "redis" }]

/-- The service is limited, and what it is limited to counts for the first container. -/
def limitedWeb : Context := ⟨{ name := "web", memoryLimit := 64 }, "web"⟩

/-- Another service that is told to run under the same name. -/
def mountedWeb : Context := ⟨{ name := "api", containerName := some "web" }, "api"⟩

theorem apply_in_either_order_twins :
    (limits.apply limitedWeb twins >>= fun spec =>
        (mounts [⟨"data", "/data", none, none⟩]).apply mountedWeb spec).toOption =
      ((mounts [⟨"data", "/data", none, none⟩]).apply mountedWeb twins >>= fun spec =>
        limits.apply limitedWeb spec).toOption ∧
    (limits.apply limitedWeb twins >>= fun spec => limits.apply limitedWeb spec) =
      limits.apply limitedWeb twins := by
  obtain ⟨horder, htwice⟩ := apply_in_either_order limits limitedWeb twins
  exact ⟨horder _ mountedWeb (by decide), htwice (by decide) (by decide)⟩

end PodStep

end Manifests
