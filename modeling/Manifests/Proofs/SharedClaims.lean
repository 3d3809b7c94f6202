import Manifests.Proofs.PodVolumes
import Manifests.Proofs.References

/-! Who may write to a volume that several services claim. -/
namespace Manifests

variable {services : Dict Service} {opt : Options} {objects : List Object} {o : Object}
  {v : Volume} {n : String} {r : Bool}

theorem ofMode_eq_readOnlyMany {d : DeclaredVolume} :
    AccessMode.ofMode d.mode = .readOnlyMany ↔ d.isReadOnly := by
  rw [DeclaredVolume.isReadOnly]
  cases d.mode with
  | none => simp [AccessMode.ofMode]
  | some mode =>
    rw [AccessMode.ofMode, Option.getD_some]
    split <;> simp_all

/-- The volume of a pod for a declared volume that becomes the claim `n`. -/
def DeclaredVolume.claimVolume (n : String) (d : DeclaredVolume) : Volume :=
  ⟨n, .claim n d.isReadOnly⟩

def Volume.claims (n : String) (v : Volume) : Bool := WorkloadUnit.isClaim v && v.name = n

def Claim.isNamed (n : String) (c : Claim) : Bool := (Object.claim c).name = n

def Object.isClaimNamed (n : String) : Object → Bool := isNamed "PersistentVolumeClaim" n

namespace Service

variable {s : Service} {workload : String}

/-- The volumes of a service that become the claim `n`, in order. -/
def claimers (s : Service) (workload : String) (opt : Options) (n : String) :
    List DeclaredVolume :=
  (s.volumes.zipIdx.filter fun e => !e.1.isSocket && (e.1.modeUnder opt = .claim &&
    s.volumeName workload opt e.1 e.2 = n)).map (·.1)

/-- What is provided for the claim `n` is provided for the volumes that become it. -/
theorem filter_provided {β : Type} {f : ProvidedVolume → Option β} {p : β → Bool}
    {g : DeclaredVolume → β} (h : ∀ d i, (f (s.provide workload opt d i)).filter p =
      if d.modeUnder opt = .claim ∧ s.volumeName workload opt d i = n then some (g d) else none) :
    ((s.providedVolumes workload opt).filterMap f).filter p =
      (s.claimers workload opt n).map g := by
  rw [providedVolumes, claimers, List.filterMap_map, List.filter_filterMap, List.filterMap_filter,
    List.map_map, ← List.filterMap_eq_map, List.filterMap_filter]
  refine List.filterMap_congr fun e _ => ?_
  rw [Function.comp_apply, h]
  by_cases hsocket : e.1.isSocket <;> simp [hsocket]

theorem filter_claims : ((s.providedVolumes workload opt).filterMap (·.claim)).filter (·.isNamed n) =
    (s.claimers workload opt n).map (·.claimNamed n opt) := by
  refine filter_provided fun d i => ?_
  rw [provide]
  cases hmode : d.modeUnder opt with
  | hostPath =>
    dsimp only
    split <;> simp
  | emptyDir | configMap => simp
  | claim =>
    by_cases hname : s.volumeName workload opt d i = n <;>
      simp [hname, Claim.isNamed, Object.name, Object.metadata, DeclaredVolume.claimNamed]

theorem filter_volumes :
    ((s.providedVolumes workload opt).map (·.volume)).filter (·.claims n) =
      (s.claimers workload opt n).map (·.claimVolume n) := by
  rw [← List.filterMap_eq_map]
  refine filter_provided fun d i => ?_
  rw [Function.comp_apply, provide]
  cases hmode : d.modeUnder opt with
  | hostPath =>
    dsimp only
    split <;> simp [Volume.claims, WorkloadUnit.isClaim]
  | emptyDir | configMap => simp [Volume.claims, WorkloadUnit.isClaim]
  | claim =>
    by_cases hname : s.volumeName workload opt d i = n <;>
      simp [hname, Volume.claims, WorkloadUnit.isClaim, DeclaredVolume.claimVolume]

theorem claimers_underKind {kind : WorkloadKind} :
    (s.underKind kind).claimers workload opt n = s.claimers workload opt n :=
  WorkloadUnit.underKind_observed (·.claimers workload opt n) fun _ => rfl

end Service

namespace WorkloadUnit

variable {u : WorkloadUnit} {kind : WorkloadKind} {s : Service} {workload : String}

/-- The volumes that the services of a unit declare for the claim `n`, in order. -/
def claimers (u : WorkloadUnit) (opt : Options) (n : String) : List DeclaredVolume :=
  u.members.flatMap fun s => s.claimers u.name opt n

theorem filter_podVolumes : (podVolumes workload kind opt s).filter (·.claims n) =
    if embedsClaims kind opt then [] else (s.claimers workload opt n).map (·.claimVolume n) := by
  have hmemory : ((s.memoryVolumes workload).map (·.2)).filter (·.claims n) = [] := by
    rw [List.filter_eq_nil_iff]
    intro v hv
    obtain ⟨e, he, rfl⟩ := List.mem_map.1 hv
    simp [Volume.claims, isClaim, (name_of_mem_memoryVolumes he).2]
  rw [podVolumes, List.filter_append, hmemory, List.append_nil, keptVolumes]
  split
  · rw [List.filter_filter, List.filter_eq_nil_iff]
    intro v _
    cases hclaim : isClaim v <;> simp [Volume.claims, hclaim]
  · exact Service.filter_volumes

theorem filter_siblings_isClaimNamed :
    (siblings workload kind opt s).filter (Object.isClaimNamed n) =
      if embedsClaims kind opt then []
      else (s.claimers workload opt n).map fun d => .claim (d.claimNamed n opt) := by
  have hclaims : (((s.providedVolumes workload opt).filterMap (·.claim)).filter
      fun c => (Object.claim c).isClaimNamed n).map Object.claim =
        (s.claimers workload opt n).map fun d => .claim (d.claimNamed n opt) := by
    have hnamed : ∀ c : Claim, (Object.claim c).isClaimNamed n = c.isNamed n := fun _ => rfl
    simp only [hnamed, Service.filter_claims, List.map_map, Function.comp_def]
  simp only [siblings, List.filter_append, apply_ite (List.filter _), List.filter_map,
    Function.comp_def, hclaims]
  simp [Object.isClaimNamed, Object.isNamed, Object.kind]

/-- Whether claims are made by the workload itself is the same for all units. -/
theorem embedsClaims_chosen (hu : u.members ≠ []) : embedsClaims (u.chosen opt) opt =
    (opt.controller = some .statefulSet && opt.volumes != .configMap) := by
  rw [chosen]
  split
  · rename_i hm
    exact (hu hm).elim
  · rw [embedsClaims, WorkloadKind.choose]
    cases opt.controller with
    | none => cases opt.provider <;> dsimp only <;> split <;> rfl
    | some controller => cases controller <;> cases opt.provider <;> rfl

/-- A claim in the pod of a unit is the first that its services declare for it. -/
theorem claim_of_mem_ownVolumes (hv : v ∈ u.ownVolumes opt) (hsource : v.source = .claim n r) :
    v.name = n ∧ embedsClaims (u.chosen opt) opt = false ∧
      ∃ d, (u.claimers opt n).head? = some d ∧ r = d.isReadOnly := by
  have hfirst := mem_firstOfEach_iff.1 hv
  have hall : ((u.servicesUnder (u.chosen opt)).flatMap
      (podVolumes u.name (u.chosen opt) opt)).filter (·.claims v.name) =
        if embedsClaims (u.chosen opt) opt then []
        else (u.claimers opt v.name).map (·.claimVolume v.name) := by
    rw [List.filter_flatMap, servicesUnder, List.flatMap_map]
    simp only [filter_podVolumes, Service.claimers_underKind]
    split <;> simp [claimers, List.map_flatMap]
  have hclaims : v.claims v.name := by
    simp [Volume.claims, isClaim, hsource]
  -- It is the first volume of its name, so it is the first claim of this name as well.
  have hhead : (if embedsClaims (u.chosen opt) opt then []
      else (u.claimers opt v.name).map (·.claimVolume v.name)).head? = some v := by
    rw [← hall, List.head?_filter]
    obtain ⟨_, before, after, heq, hbefore⟩ := List.find?_eq_some_iff_append.1 hfirst
    refine List.find?_eq_some_iff_append.2 ⟨hclaims, before, after, heq, fun w hw => ?_⟩
    have hne := hbefore w hw
    simp only [Bool.not_eq_true', decide_eq_false_iff_not] at hne
    simp [Volume.claims, hne]
  split at hhead
  · cases hhead
  · rename_i hembeds
    rw [List.head?_map, Option.map_eq_some_iff] at hhead
    obtain ⟨d, hd, he⟩ := hhead
    have hsame := (congrArg Volume.source he).trans hsource
    obtain ⟨hname, hreadOnly⟩ := VolumeSource.claim.inj hsame
    rw [hname] at hd
    exact ⟨hname, by simpa using hembeds, d, hd, hreadOnly.symm⟩

end WorkloadUnit

/-- The volumes that the services of an application declare for the claim `n`, in the order of the
conversion. -/
def claimers (services : Dict Service) (opt : Options) (n : String) : List DeclaredVolume :=
  (unitsOf (keyed services) opt.groupMode).flatMap (·.claimers opt n)

/-- Of the claims of one name, the first that is declared is in the output. -/
theorem filter_isClaimNamed (h : convert services opt = .ok objects)
    (hembeds : ∀ u ∈ unitsOf (keyed services) opt.groupMode,
      WorkloadUnit.embedsClaims (u.chosen opt) opt = false) :
    objects.filter (Object.isClaimNamed n) = ((claimers services opt n).head?.map fun d =>
      placed opt (.claim (d.claimNamed n opt))).toList := by
  have hclaims : (siblingsMade services opt).filter (Object.isClaimNamed n) =
      (claimers services opt n).map fun d => .claim (d.claimNamed n opt) := by
    rw [siblingsMade, claimers, List.filter_flatMap, List.map_flatMap]
    refine List.flatMap_congr fun u hu => ?_
    simp only [List.filter_flatMap, WorkloadUnit.filter_siblings_isClaimNamed, hembeds u hu,
      Bool.false_eq_true, if_false, WorkloadUnit.servicesUnder, List.flatMap_map,
      Service.claimers_underKind, WorkloadUnit.claimers, List.map_flatMap]
  have hspace : ∀ o ∈ (siblingsMade services opt).filter (Object.isClaimNamed n),
      o.metadata.namespaceName = none := by
    rw [hclaims]
    intro o ho
    obtain ⟨d, _, rfl⟩ := List.mem_map.1 ho
    rfl
  have hfirst : objects.filter (Object.isClaimNamed n) =
      (((siblingsMade services opt).filter (Object.isClaimNamed n)).head?.map (placed opt)).toList :=
    filter_convert h (by decide) (by decide) (by decide) hspace
  rw [hfirst, hclaims, List.head?_map, Option.map_map]
  rfl

/-- Neither the source of a volume nor the claim that it stands for is for reading only. -/
structure Volume.AllowsWriting (objects : List Object) (v : Volume) : Prop where
  source : ∀ n r, v.source = .claim n r → r = false
  claim : ∀ n r, v.source = .claim n r →
    ∀ c, .claim c ∈ objects → c.isNamed n → c.accessMode ≠ .readOnlyMany

theorem allowsWriting_of_source (hsource : v.source = .claim n r) : v.AllowsWriting objects ↔
    r = false ∧ ∀ c, .claim c ∈ objects → c.isNamed n → c.accessMode ≠ .readOnlyMany := by
  constructor
  · exact fun h => ⟨h.source n r hsource, h.claim n r hsource⟩
  · rintro ⟨hwritable, hclaims⟩
    have hsame : ∀ m q, v.source = .claim m q → n = m ∧ r = q :=
      fun m q hq => VolumeSource.claim.inj (hsource.symm.trans hq)
    constructor
    · intro m q hq
      rw [← (hsame m q hq).2, hwritable]
    · intro m q hq
      rw [← (hsame m q hq).1]
      exact hclaims

/-- In the pod of the unit `u`, the claim `n` is as `d` declares it: the first declaration in the
first of the units whose pods come there that has a volume of this name. -/
def WorkloadUnit.ClaimsAs (units : List WorkloadUnit) (opt : Options) (joins : List Join)
    (u : WorkloadUnit) (n : String) (d : DeclaredVolume) : Prop :=
  ∃ w, holder? (inPod units opt joins u) opt n = some w ∧ (w.claimers opt n).head? = some d

theorem accessMode_of_placed {c : Claim} {d : DeclaredVolume}
    (h : placed opt (.claim (d.claimNamed n opt)) = .claim c) : c.accessMode = .ofMode d.mode := by
  obtain ⟨f, hf⟩ := exists_mapMetadata opt (.claim (d.claimNamed n opt))
  rw [hf] at h
  cases h
  rfl

/-- A claim of one name is in the output, and what it allows is told by the first declaration. -/
theorem all_claims_iff {d : DeclaredVolume} (h : objects.filter (Object.isClaimNamed n) =
    [placed opt (.claim (d.claimNamed n opt))]) :
    (∀ c, .claim c ∈ objects → c.isNamed n → c.accessMode ≠ .readOnlyMany) ↔
      d.isReadOnly = false := by
  have hmem : ∀ c, .claim c ∈ objects ∧ c.isNamed n ↔
      placed opt (.claim (d.claimNamed n opt)) = .claim c := by
    intro c
    have hc : .claim c ∈ objects ∧ (Object.claim c).isClaimNamed n ↔
        .claim c ∈ [placed opt (.claim (d.claimNamed n opt))] := by
      rw [← h, List.mem_filter]
    rw [List.mem_singleton, eq_comm (a := Object.claim c)] at hc
    exact hc
  have hiff := ofMode_eq_readOnlyMany (d := d)
  constructor
  · intro hall
    obtain ⟨c, hc⟩ := Object.eq_claim_of_kind
      (o := placed opt (.claim (d.claimNamed n opt))) kind_placed
    obtain ⟨hc', hnamed⟩ := (hmem c).2 hc
    have hmode := hall c hc' hnamed
    rw [accessMode_of_placed hc, ne_eq, hiff] at hmode
    simpa using hmode
  · intro hwritable c hc hnamed
    rw [accessMode_of_placed ((hmem c).1 ⟨hc, hnamed⟩), ne_eq, hiff, hwritable]
    exact Bool.false_ne_true

/-- Of the services that claim one volume, the first decides what is allowed: the first of those
whose containers are in one pod for that pod, and the first of all for the claim. -/
theorem allowsWriting_iff (h : convert services opt = .ok objects) (ho : o ∈ objects)
    (hw : o.isWorkload) (hv : v ∈ o.volumes) (hsource : v.source = .claim n r) :
    v.name = n ∧ ∃ u used made,
      WorkloadUnit.Makes (unitsOf (keyed services) opt.groupMode) opt u o ∧
      u.Stays opt (Join.ofServices services) ∧
      u.ClaimsAs (unitsOf (keyed services) opt.groupMode) opt (Join.ofServices services) n used ∧
      (claimers services opt n).head? = some made ∧
      objects.filter (Object.isClaimNamed n) = [placed opt (.claim (made.claimNamed n opt))] ∧
      r = used.isReadOnly ∧
      (v.AllowsWriting objects ↔ used.isReadOnly = false ∧ made.isReadOnly = false) := by
  obtain ⟨u, hu, hstays, hvolumes⟩ := volumes_convert h ho hw
  rw [hvolumes] at hv
  obtain ⟨w, hholder, hown⟩ := WorkloadUnit.holder?_of_mem hv
  obtain ⟨hname, hembeds, used, hused, hr⟩ := WorkloadUnit.claim_of_mem_ownVolumes hown hsource
  rw [hname] at hholder
  have hwu := WorkloadUnit.mem_of_mem_inPod (WorkloadUnit.mem_of_makes hu)
    (List.mem_of_find?_eq_some hholder)
  -- One unit has a claim in its pod, so no unit makes its claims by itself.
  have hsame : ∀ x ∈ unitsOf (keyed services) opt.groupMode,
      WorkloadUnit.embedsClaims (x.chosen opt) opt = false := by
    intro x hx
    rw [WorkloadUnit.embedsClaims_chosen (members_ne_nil hx),
      ← WorkloadUnit.embedsClaims_chosen (members_ne_nil hwu), hembeds]
  have hsome : ∃ made, (claimers services opt n).head? = some made := by
    have hmem : used ∈ claimers services opt n :=
      List.mem_flatMap.2 ⟨w, hwu, List.mem_of_mem_head? hused⟩
    exact ⟨_, List.head?_eq_some_head (List.ne_nil_of_mem hmem)⟩
  obtain ⟨made, hmade⟩ := hsome
  have hfilter := filter_isClaimNamed (n := n) h hsame
  rw [hmade] at hfilter
  refine ⟨hname, u, used, made, hu, hstays, ⟨w, hholder, hused⟩, hmade, hfilter, hr, ?_⟩
  rw [allowsWriting_of_source hsource, all_claims_iff hfilter, hr]

/-- Two services run in the pod of a third, and the first of them only reads the volume that the
other one writes to, as a service with a pod of its own does. -/
def sharingServices : Dict Service :=
  let data (mode : String) : DeclaredVolume :=
    { volumeName := some "data", container := "/data", mode := some mode }
  .ofList
    [("archive", { image := "nginx", volumes := [data "rw"] }),
      ("reader", { image := "nginx", networkMode := "service:web", volumes := [data "ro"] }),
      ("web", { image := "nginx" }),
      ("writer", { image := "redis", networkMode := "service:web", volumes := [data "rw"] })]

/-- The reader is the first to bring the volume to the pod. -/
theorem output_sharing : (convert sharingServices {}).isOk ∧
    (∃ o ∈ output sharingServices {}, o.isWorkload ∧ (o.kind = "Deployment" ∧ o.name = "web") ∧
      ∃ m ∈ o.mounts, m.readOnly ≠ some true ∧
        ∃ v ∈ o.volumes, v.name = m.name ∧ v.source = .claim "data" true) ∧
    let units := unitsOf (keyed sharingServices) none
    ((units.find? fun u => (u.chosen {}).name = "Deployment" && u.name = "web").bind fun u =>
      ((WorkloadUnit.inPod units {} (Join.ofServices sharingServices) u).find? fun w =>
        "data" ∈ (w.ownVolumes {}).map Volume.name).bind fun w =>
          (w.claimers {} "data").head?).map (·.isReadOnly) = some true := by
  decide +kernel

theorem allowsWriting_iff_sharing : ∃ o ∈ output sharingServices {}, ∃ m ∈ o.mounts,
    m.readOnly ≠ some true ∧ ∃ v ∈ o.volumes, v.name = m.name ∧
      v.source = .claim "data" true ∧ ¬ v.AllowsWriting (output sharingServices {}) := by
  obtain ⟨hok, ⟨o, ho, hw, ⟨hkind, hnames⟩, m, hm, hwrites, v, hv, hname, hsource⟩, hfirst⟩ :=
    output_sharing
  obtain ⟨_, u, used, made, hu, _, ⟨w, hholder, hused⟩, _, _, _, hiff⟩ :=
    allowsWriting_iff (convert_output hok) ho hw hv hsource
  rw [WorkloadUnit.Makes, hkind, hnames] at hu
  rw [WorkloadUnit.holder?] at hholder
  have hreadOnly : used.isReadOnly = true := by
    dsimp only at hfirst
    rw [hu, Option.bind_some, hholder, Option.bind_some, hused] at hfirst
    simpa using hfirst
  refine ⟨o, ho, m, hm, hwrites, v, hv, hname, hsource, fun hallows => ?_⟩
  exact Bool.false_ne_true ((hiff.1 hallows).1.symm.trans hreadOnly)

/-- One service reads a volume to which the other one writes. -/
def mixedServices : Dict Service :=
  let data (mode : String) : DeclaredVolume :=
    { volumeName := some "data", container := "/data", mode := some mode }
  .ofList
    [("reader", { image := "nginx", volumes := [data "ro"] }),
      ("writer", { image := "redis", volumes := [data "rw"] })]

/-- The second service mounts the volume for writing. -/
theorem output_mixed : (convert mixedServices {}).isOk ∧
    (∃ o ∈ output mixedServices {}, o.isWorkload ∧ ∃ m ∈ o.mounts, m.readOnly ≠ some true ∧
      ∃ v ∈ o.volumes, v.name = m.name ∧ v.source = .claim "data" false) ∧
    (claimers mixedServices {} "data").head?.map (·.isReadOnly) = some true ∧
    ∃ o ∈ output mixedServices {}, o = .claim
      { metadata := { name := some "data", labels := some (selectorLabels "data") }
        accessMode := .readOnlyMany
        size := "100Mi"
        selector := none
        storageClass := none } := by
  decide +kernel

/-- The claim is for reading only, as the first service declares it. -/
theorem not_all_allow_writing : ¬ ∀ (services : Dict Service) (opt : Options)
    (objects : List Object), convert services opt = .ok objects → ∀ o ∈ objects, o.isWorkload →
      ∀ m ∈ o.mounts, m.readOnly ≠ some true → ∀ v ∈ o.volumes, v.name = m.name →
        WorkloadUnit.isClaim v → v.AllowsWriting objects := by
  intro h
  obtain ⟨hok, ⟨o, ho, hw, m, hm, hwrites, v, hv, hname, hsource⟩, _, _, hc, rfl⟩ := output_mixed
  have hallows := h mixedServices {} _ (convert_output hok) o ho hw m hm hwrites v hv hname
    (by simp [WorkloadUnit.isClaim, hsource])
  exact hallows.claim "data" false hsource _ hc (by decide) rfl

end Manifests
