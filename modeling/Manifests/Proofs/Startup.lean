import Manifests.Proofs.Arrivals
import Manifests.Proofs.Membership

/-! What the containers of a pod need before they start. -/
namespace Manifests

variable {services : Dict Service} {mode : Option String} {opt : Options} {objects : List Object}
  {units : List WorkloadUnit} {joins : List Join} {key : String} {s : Service}
  {u w : WorkloadUnit} {a o : Object}

namespace Object

def imagePullSecrets (o : Object) : List String := (o.podSpec?.getD {}).secretList

@[simp] theorem imagePullSecrets_emptied : o.emptied.imagePullSecrets = o.imagePullSecrets := by
  cases o with
  | specless k m => cases k <;> rfl
  | controller c =>
    rcases c with ⟨_, _, _, template⟩
    rcases template with ⟨_, _ | _⟩ <;> rfl
  | pod | service | claim | configMap | autoscaler | networkPolicy => rfl

end Object

/-- The pod of a workload has what the container of a service needs before it starts: the secret
that its image is pulled with, and the container that runs before it. -/
structure Service.StartsIn (s : Service) (o : Object) : Prop where
  secret : ∀ secret, filled s.imagePullSecret = some secret → secret ∈ o.imagePullSecrets
  initContainer : ∀ c, s.initContainer? = some c → c ∈ o.initContainers

/-- What a service needs before it starts, services of the unit ask for. -/
structure WorkloadUnit.Prepares (u : WorkloadUnit) (s : Service) : Prop where
  secret : ∀ secret, filled s.imagePullSecret = some secret →
    ∃ m ∈ u.members, filled m.imagePullSecret = some secret
  initContainer : ∀ c, s.initContainer? = some c → ∃ m ∈ u.members, m.initContainer? = some c

namespace WorkloadUnit

theorem prepares_of_mem (h : s ∈ u.members) : u.Prepares s :=
  ⟨fun _ hsecret => ⟨s, h, hsecret⟩, fun _ hinit => ⟨s, h, hinit⟩⟩

theorem mem_pullSecrets {secret : String} :
    secret ∈ u.pullSecrets ↔ ∃ m ∈ u.members, filled m.imagePullSecret = some secret := by
  rw [pullSecrets, mem_firstOfEach_id]
  simp

theorem mem_initContainers {c : Container} :
    c ∈ u.initContainers ↔ ∃ m ∈ u.members, m.initContainer? = some c := by
  simp [initContainers]

/-- The joins bring containers and volumes only. What a pod needs before it starts, it has for the
services of its own unit, as before. -/
theorem Origin.imagePullSecrets_eq (h : Origin units opt joins u a o) :
    o.imagePullSecrets = u.pullSecrets := by
  obtain ⟨spec, os, hc⟩ := h.converted
  rw [h.observed fun _ => Object.imagePullSecrets_emptied, Object.imagePullSecrets,
    podSpec?_placed, hc.made.podSpec?_eq]
  exact secretList_podSpec hc.podSpec_ok

theorem Origin.initContainers_eq (h : Origin units opt joins u a o) :
    o.initContainers = u.initContainers := by
  obtain ⟨spec, os, hc⟩ := h.converted
  rw [h.observed fun _ => Object.initContainers_emptied, initContainers_placed,
    Object.initContainers, hc.made.podSpec?_eq]
  exact initContainers_podSpec hc.podSpec_ok

theorem Origin.startsIn_iff (h : Origin units opt joins u a o) : s.StartsIn o ↔ u.Prepares s := by
  constructor
  · rintro ⟨hsecret, hinit⟩
    rw [h.imagePullSecrets_eq] at hsecret
    rw [h.initContainers_eq] at hinit
    exact ⟨fun secret hs => mem_pullSecrets.1 (hsecret secret hs),
      fun c hc => mem_initContainers.1 (hinit c hc)⟩
  · rintro ⟨hsecret, hinit⟩
    constructor
    · intro secret hs
      rw [h.imagePullSecrets_eq]
      exact mem_pullSecrets.2 (hsecret secret hs)
    · intro c hc
      rw [h.initContainers_eq]
      exact mem_initContainers.2 (hinit c hc)

end WorkloadUnit

/-- Grouping changes nothing but the name of a service and its mark. -/
theorem afterGrouping_observed {α : Type} (obs : Service → α)
    (h : ∀ name inGroup, obs { s with name, inGroup } = obs s) :
    obs (afterGrouping mode key s) = obs s := by
  rw [afterGrouping, Group.enroll]
  split
  · exact h key s.inGroup
  · exact h key true

theorem WorkloadUnit.prepares_of_afterGrouping (h : afterGrouping mode key s ∈ u.members) :
    u.Prepares s := by
  obtain ⟨hsecret, hinit⟩ := prepares_of_mem h
  rw [afterGrouping_observed Service.imagePullSecret fun _ _ => rfl] at hsecret
  rw [afterGrouping_observed Service.initContainer? fun _ _ => rfl] at hinit
  exact ⟨hsecret, hinit⟩

/-- Every service that comes without the mark is a member of a unit. -/
theorem exists_unit_of_service (mode : Option String)
    (hfree : ∀ s ∈ services.values, s.inGroup = false) (hs : (key, s) ∈ services.entries) :
    ∃ w ∈ unitsOf (keyed services) mode, afterGrouping mode key s ∈ w.members := by
  have hmem : afterGrouping mode key s ∈ (enrolled (keyed services) mode).values := by
    rw [values_enrolled]
    exact List.mem_map.2 ⟨(key, { s with name := key }), List.mem_map.2 ⟨(key, s), hs, rfl⟩, rfl⟩
  rw [← (members_unitsOf mode (inGroup_keyed hfree)).mem_iff] at hmem
  exact List.mem_flatMap.1 hmem

theorem find?_name (hnames : (units.map (·.name)).Nodup) (hw : w ∈ units) :
    units.find? (·.name = w.name) = some w := by
  rw [← mem_firstOfEach_iff, firstOfEach_of_nodup hnames]
  exact hw

/-- The containers of every service run in a workload of the output. What one of them needs before
it starts, a workload has exactly where services of the workload's own unit ask for it. That is so
where the service has stayed in the workload of its unit; a join brings nothing of this kind. -/
theorem startsIn_iff_prepares (h : convert services opt = .ok objects)
    (hfree : ∀ s ∈ services.values, s.inGroup = false)
    (hnames : ((unitsOf (keyed services) opt.groupMode).map (·.name)).Nodup)
    (hs : (key, s) ∈ services.entries) :
    ∃ w ∈ unitsOf (keyed services) opt.groupMode,
      afterGrouping opt.groupMode key s ∈ w.members ∧
      (w.name ∉ (Join.ofServices services).map (·.source) →
        ∃ o ∈ objects, o.isWorkload ∧ o.name = w.name ∧ w.RunsIn opt o ∧ s.StartsIn o) ∧
      (w.name ∈ (Join.ofServices services).map (·.source) →
        ∃ o ∈ objects, o.isWorkload ∧ Join.EndsAt (Join.ofServices services) w.name o.name ∧
          w.RunsIn opt o) ∧
      ∀ o ∈ objects, o.isWorkload →
        ∃ u ∈ unitsOf (keyed services) opt.groupMode, u.name = o.name ∧
          (s.StartsIn o ↔ u.Prepares s) := by
  obtain ⟨w, hw, hmember⟩ := exists_unit_of_service opt.groupMode hfree hs
  have hfirst := find?_name hnames hw
  refine ⟨w, hw, hmember, fun hn => ?_, fun hn => ?_, fun o ho hwork => ?_⟩
  · obtain ⟨o, ho, hkind, hname, hruns⟩ := exists_runsIn_of_kept h hfirst hn
    have hwork := Object.isWorkload_of_kind_eq hkind
    obtain ⟨u, _, horigin⟩ := exists_origin h ho hwork
    have hsame : u = w :=
      List.inj_on_of_nodup_map hnames horigin.mem hw (horigin.name_eq.symm.trans hname)
    subst hsame
    exact ⟨o, ho, hwork, hname, hruns,
      horigin.startsIn_iff.2 (WorkloadUnit.prepares_of_afterGrouping hmember)⟩
  · obtain ⟨_, o, ho, hd, hend, hruns⟩ := exists_runsIn_of_joined h hfirst hn
    exact ⟨o, ho, Object.isWorkload_of_isDeployment hd, hend, hruns⟩
  · obtain ⟨u, _, horigin⟩ := exists_origin h ho hwork
    exact ⟨u, horigin.mem, horigin.name_eq.symm, horigin.startsIn_iff⟩

/-- A service that needs a secret and a container to run first. -/
def guarded (networkMode : String) : Service where
  image := "redis"
  networkMode := networkMode
  imagePullSecret := some "regcred"
  labels := .singleton Label.initImage "busybox"

/-- Two such services, of which one joins a third service that needs neither. -/
def guardedServices : Dict Service :=
  .ofList [("cache", guarded "service:web"), ("store", guarded ""), ("web", { image := "nginx" })]

theorem mem_guarded : ("cache", guarded "service:web") ∈ guardedServices.entries ∧
    ("store", guarded "") ∈ guardedServices.entries := by
  decide +kernel

theorem convert_guarded : convert guardedServices {} = .ok (output guardedServices {}) :=
  convert_output (by decide +kernel)

/-- The service that stays finds what it needs, the one that joins another does not. -/
theorem startsIn_iff_prepares_guarded :
    (∃ o ∈ output guardedServices {}, o.name = "store" ∧ (guarded "").StartsIn o) ∧
    ∃ o ∈ output guardedServices {}, o.name = "web" ∧ ¬ (guarded "service:web").StartsIn o := by
  obtain ⟨hcache, hstore⟩ := mem_guarded
  have hfree : ∀ s ∈ guardedServices.values, s.inGroup = false := by decide +kernel
  have hnames : ((unitsOf (keyed guardedServices) none).map (·.name)).Nodup := by decide +kernel
  constructor
  · have hkept : ∀ w ∈ unitsOf (keyed guardedServices) none,
        afterGrouping none "store" (guarded "") ∈ w.members →
          w.name = "store" ∧ w.name ∉ (Join.ofServices guardedServices).map (·.source) := by
      decide +kernel
    obtain ⟨w, hw, hmember, hstays, _⟩ :=
      startsIn_iff_prepares convert_guarded hfree hnames hstore
    obtain ⟨hname, hn⟩ := hkept w hw hmember
    obtain ⟨o, ho, _, hsame, _, hstarts⟩ := hstays hn
    exact ⟨o, ho, hsame.trans hname, hstarts⟩
  · have hweb : ∃ o ∈ output guardedServices {}, o.isWorkload ∧ o.name = "web" := by
      decide +kernel
    have hnone : ∀ u ∈ unitsOf (keyed guardedServices) none, u.name = "web" →
        ∀ m ∈ u.members, filled m.imagePullSecret = none := by
      decide +kernel
    obtain ⟨o, ho, hwork, hname⟩ := hweb
    obtain ⟨_, _, _, _, _, hiff⟩ := startsIn_iff_prepares convert_guarded hfree hnames hcache
    obtain ⟨u, hu, hsame, hprepares⟩ := hiff o ho hwork
    refine ⟨o, ho, hname, fun hstarts => ?_⟩
    obtain ⟨m, hm, hsecret⟩ := (hprepares.1 hstarts).secret "regcred" rfl
    rw [hnone u hu (hsame.trans hname) m hm] at hsecret
    cases hsecret

/-- A container that moves with a join leaves behind what it needs to start. -/
theorem not_all_start : ¬ ∀ (services : Dict Service) (opt : Options) (objects : List Object)
    (key : String) (s : Service), convert services opt = .ok objects →
      (∀ s ∈ services.values, s.inGroup = false) →
      ((unitsOf (keyed services) opt.groupMode).map (·.name)).Nodup →
      (key, s) ∈ services.entries → ∀ o ∈ objects,
        (afterGrouping opt.groupMode key s).core ∈ o.containers.map Container.core →
          s.StartsIn o := by
  intro h
  have hmoved : ∃ o ∈ output guardedServices {},
      (afterGrouping none "cache" (guarded "service:web")).core ∈
        o.containers.map Container.core ∧ o.imagePullSecrets = [] := by
    decide +kernel
  obtain ⟨o, ho, hcore, hnone⟩ := hmoved
  have hstarts := h guardedServices {} _ "cache" _ convert_guarded (by decide +kernel)
    (by decide +kernel) mem_guarded.1 o ho hcore
  have hsecret := hstarts.secret "regcred" rfl
  rw [hnone] at hsecret
  cases hsecret

end Manifests
