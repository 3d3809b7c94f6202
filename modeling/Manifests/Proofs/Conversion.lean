import Mathlib.Data.List.Perm.Basic
import Manifests.Proofs.Grouping
import Manifests.Proofs.MergeFrame
import Manifests.Proofs.Workload

/-! From the objects of the units to all objects of an application. -/
namespace Manifests

variable {services : Dict Service} {opt : Options} {objects merged : List Object} {o : Object}

/-- An object in the namespace of the conversion, if that has one. -/
def placed (opt : Options) (o : Object) : Object :=
  match filled opt.namespaceName with
  | some name => o.mapMetadata (Metadata.inNamespace name)
  | none => o

section Placed

theorem exists_mapMetadata (opt : Options) (o : Object) : ∃ f, placed opt o = o.mapMetadata f := by
  rw [placed]
  split
  · exact ⟨_, rfl⟩
  · exact ⟨id, by cases o <;> rfl⟩

theorem placed_observed {α : Type} {obs : Object → α}
    (h : ∀ name, obs (o.mapMetadata (Metadata.inNamespace name)) = obs o) :
    obs (placed opt o) = obs o := by
  rw [placed]
  split
  · exact h _
  · rfl

@[simp] theorem kind_placed : (placed opt o).kind = o.kind :=
  placed_observed fun _ => by cases o <;> rfl

@[simp] theorem name_placed : (placed opt o).name = o.name :=
  placed_observed fun _ => by cases o <;> rfl

@[simp] theorem isWorkload_placed : (placed opt o).isWorkload = o.isWorkload :=
  placed_observed fun _ => by cases o <;> rfl

@[simp] theorem isDeployment_placed : (placed opt o).isDeployment = o.isDeployment :=
  placed_observed fun _ => by cases o <;> rfl

@[simp] theorem podSpec?_placed : (placed opt o).podSpec? = o.podSpec? :=
  placed_observed fun _ => by cases o <;> rfl

@[simp] theorem containers_placed : (placed opt o).containers = o.containers :=
  placed_observed fun _ => by cases o <;> rfl

@[simp] theorem initContainers_placed : (placed opt o).initContainers = o.initContainers :=
  placed_observed fun _ => by cases o <;> rfl

@[simp] theorem volumes_placed : (placed opt o).volumes = o.volumes :=
  placed_observed fun _ => by cases o <;> rfl

@[simp] theorem mounts_placed : (placed opt o).mounts = o.mounts :=
  placed_observed fun _ => by cases o <;> rfl

@[simp] theorem podLabels?_placed : (placed opt o).podLabels? = o.podLabels? :=
  placed_observed fun _ => by cases o <;> rfl

@[simp] theorem isService_placed : (placed opt o).isService = o.isService :=
  placed_observed fun _ => by cases o <;> rfl

@[simp] theorem claimTemplates_placed : (placed opt o).claimTemplates = o.claimTemplates :=
  placed_observed fun _ => by cases o <;> rfl

theorem emptied_placed : (placed opt o).emptied = placed opt o.emptied := by
  rw [placed, placed]
  split
  · cases o with
    | specless k m => cases k <;> rfl
    | controller | pod | service | claim | configMap | autoscaler | networkPolicy => rfl
  · rfl

theorem key_placed : (placed opt o).key =
    ⟨o.kind, (filled opt.namespaceName).or o.metadata.namespaceName, o.name⟩ := by
  rw [Object.key, kind_placed, name_placed, placed]
  cases filled opt.namespaceName with
  | none => rfl
  | some name => cases o <;> rfl

end Placed

theorem arranged_eq : arranged opt objects =
    ObjectList.servicesFirst (ObjectList.distinct (objects.map (placed opt))) := by
  rw [arranged]
  cases h : filled opt.namespaceName with
  | some name =>
    have hp : placed opt = Object.mapMetadata (Metadata.inNamespace name) := by
      funext o
      rw [placed, h]
    rw [hp]
    rfl
  | none =>
    have hp : placed opt = id := by
      funext o
      rw [placed, h]
      rfl
    rw [hp, List.map_id]

theorem mem_servicesFirst : o ∈ ObjectList.servicesFirst objects ↔ o ∈ objects := by
  rw [ObjectList.servicesFirst, List.mem_append, List.mem_filter, List.mem_filter]
  cases o.isService <;> simp

theorem exists_of_mem_arranged (h : o ∈ arranged opt objects) :
    ∃ a ∈ objects, o = placed opt a := by
  rw [arranged_eq, mem_servicesFirst] at h
  obtain ⟨a, ha, rfl⟩ := List.mem_map.1 (mem_of_mem_firstOfEach h)
  exact ⟨a, ha, rfl⟩

/-- No key is lost. -/
theorem exists_mem_arranged (opt : Options) (h : o ∈ objects) :
    ∃ a ∈ arranged opt objects, a.key = (placed opt o).key := by
  rw [arranged_eq]
  obtain ⟨a, ha, hk⟩ := exists_mem_firstOfEach Object.key
    (List.mem_map_of_mem (f := placed opt) h)
  exact ⟨a, mem_servicesFirst.2 ha, hk⟩

theorem isService_eq_false (h : o.isWorkload) : o.isService = false := by
  cases o <;> simp_all [Object.isWorkload, Object.isService]

theorem isWorkload_eq_false (h : o.isService) : o.isWorkload = false := by
  cases o <;> simp_all [Object.isWorkload, Object.isService]

theorem filter_servicesFirst {p : Object → Bool} {b : Bool} (hp : ∀ o, p o → o.isService = b) :
    (ObjectList.servicesFirst objects).filter p = objects.filter p := by
  have hsort : ∀ c : Bool, (objects.filter fun o => o.isService == c).filter p =
      if c = b then objects.filter p else [] := by
    intro c
    rw [List.filter_filter]
    split
    · rename_i hc
      apply List.filter_congr
      intro o _
      rw [Bool.and_eq_left_iff_imp]
      intro hpo
      simp [hp o hpo, hc]
    · rename_i hc
      rw [List.filter_eq_nil_iff]
      intro o _ ho
      rw [Bool.and_eq_true, beq_iff_eq] at ho
      exact hc (ho.2.symm.trans (hp o ho.1))
  have htrue := hsort true
  have hfalse := hsort false
  simp only [beq_true, beq_false] at htrue hfalse
  rw [ObjectList.servicesFirst, List.filter_append, htrue, hfalse]
  cases b <;> simp

/-- Of the objects of some kinds and names, the first of each key stays. -/
theorem filter_arranged {p : Object → Bool} {b : Bool} (hp : ∀ o, p o → o.isService = b)
    (hsame : ∀ a b : Object, a.kind = b.kind → a.name = b.name → p a = p b) :
    (arranged opt objects).filter p =
      firstOfEach Object.key ((objects.filter p).map (placed opt)) := by
  have hplaced : (objects.map (placed opt)).filter p = (objects.filter p).map (placed opt) := by
    rw [List.filter_map]
    congr 1
    exact List.filter_congr fun o _ => hsame _ _ kind_placed name_placed
  rw [arranged_eq, filter_servicesFirst hp, ObjectList.distinct, firstOfEach, filter_unionBy,
    List.filter_nil, hplaced, firstOfEach]
  exact fun a b hab => hsame a b (congrArg ObjectKey.kind hab) (congrArg ObjectKey.name hab)

theorem filter_workloads_arranged : (arranged opt objects).filter Object.isWorkload =
    firstOfEach Object.key ((objects.filter Object.isWorkload).map (placed opt)) :=
  filter_arranged (fun _ => isService_eq_false) fun _ _ h _ => Object.isWorkload_of_kind h

/-- Workloads of different names all stay, in order. -/
theorem workloads_arranged (opt : Options)
    (h : ((objects.filter Object.isWorkload).map Object.name).Nodup) :
    (arranged opt objects).filter Object.isWorkload =
      (objects.filter Object.isWorkload).map (placed opt) := by
  have hkeys : (((objects.filter Object.isWorkload).map (placed opt)).map Object.key).Nodup := by
    refine List.Nodup.of_map ObjectKey.name ?_
    have hnames : (((objects.filter Object.isWorkload).map (placed opt)).map Object.key).map
        ObjectKey.name = (objects.filter Object.isWorkload).map Object.name := by
      rw [List.map_map, List.map_map]
      exact List.map_congr_left fun _ _ => name_placed
    rwa [hnames]
  rw [filter_workloads_arranged, firstOfEach_of_nodup hkeys]

/-- The units have one workload each, in order. -/
theorem workloads_made {units : List WorkloadUnit} {made : List (List Object)}
    (hmembers : ∀ u ∈ units, u.members ≠ [])
    (h : List.Forall₂ (fun u os => u.convert opt = .ok os) units made) :
    List.Forall₂ (fun u o => ∃ spec os, u.Converted opt spec o os) units
      (made.flatten.filter Object.isWorkload) := by
  induction h with
  | nil => exact .nil
  | @cons u os units made hu _ ih =>
    obtain ⟨spec, o, hc⟩ := WorkloadUnit.convert_ok (hmembers u List.mem_cons_self) hu
    rw [List.flatten_cons, List.filter_append, hc.workloads]
    exact .cons ⟨spec, os, hc⟩ (ih fun v hv => hmembers v (List.mem_cons_of_mem _ hv))

/-- What is no workload and no autoscaler stands beside a unit's workload, service by service. -/
theorem filter_made {p : Object → Bool} {units : List WorkloadUnit} {made : List (List Object)}
    (hp : ∀ o, p o → o.isWorkload = false) (hscaling : ∀ a, p (.autoscaler a) = false)
    (hmembers : ∀ u ∈ units, u.members ≠ [])
    (h : List.Forall₂ (fun u os => u.convert opt = .ok os) units made) :
    made.flatten.filter p = units.flatMap fun u =>
      (u.servicesUnder (u.chosen opt)).flatMap fun s =>
        (WorkloadUnit.siblings u.name (u.chosen opt) opt s).filter p := by
  induction h with
  | nil => rfl
  | @cons u os units made hu _ ih =>
    obtain ⟨spec, o, hc⟩ := WorkloadUnit.convert_ok (hmembers u List.mem_cons_self) hu
    rw [List.flatten_cons, List.filter_append, List.flatMap_cons, hc.filter_siblings hp hscaling,
      ih fun v hv => hmembers v (List.mem_cons_of_mem _ hv)]

/-- The joins of an application, over the objects of its units. -/
def joined (services : Dict Service) (opt : Options) (made : List (List Object)) :
    Attempt (List Object) :=
  mergeJoins made.flatten (enrolled (keyed services) opt.groupMode)

theorem convert_of_failure {failure : Failure}
    (h : (unitsOf (keyed services) opt.groupMode).mapM (·.convert opt) = .error failure) :
    convert services opt = .error failure := by
  rw [convert, h]
  rfl

/-- Once all units are converted, only the merge can fail. -/
theorem convert_of_made {made : List (List Object)}
    (h : (unitsOf (keyed services) opt.groupMode).mapM (·.convert opt) = .ok made) :
    convert services opt = match (joined services opt made).failure with
      | some failure => .error failure
      | none => .ok (arranged opt (joined services opt made).left) := by
  rw [convert, h, joined]
  simp only [bind, Except.bind]
  cases (mergeJoins made.flatten (enrolled (keyed services) opt.groupMode)).failure <;> rfl

theorem joined_of_convert (h : convert services opt = .ok objects) : ∃ made merged,
    (unitsOf (keyed services) opt.groupMode).mapM (·.convert opt) = .ok made ∧
    joined services opt made = ⟨merged, none⟩ ∧ objects = arranged opt merged := by
  cases hmade : (unitsOf (keyed services) opt.groupMode).mapM (·.convert opt) with
  | error failure =>
    rw [convert_of_failure hmade] at h
    cases h
  | ok made =>
    rw [convert_of_made hmade] at h
    generalize hm : joined services opt made = attempt at h
    rcases attempt with ⟨merged, _ | failure⟩
    · cases h
      exact ⟨made, merged, rfl, hm, rfl⟩
    · cases h

/-- A conversion that succeeds has made all units, merged the joins and arranged the rest. -/
theorem convert_ok (h : convert services opt = .ok objects) : ∃ made merged,
    List.Forall₂ (fun u os => u.convert opt = .ok os) (unitsOf (keyed services) opt.groupMode)
      made ∧
    mergeJoins made.flatten (enrolled (keyed services) opt.groupMode) = ⟨merged, none⟩ ∧
    objects = arranged opt merged := by
  obtain ⟨made, merged, hmade, hmerge, hobjects⟩ := joined_of_convert h
  exact ⟨made, merged, mapM_ok hmade, hmerge, hobjects⟩

/-- What is no workload was made for a unit, and nothing but its namespace has changed. -/
theorem exists_made_of_mem (h : convert services opt = .ok objects) (ho : o ∈ objects)
    (hw : o.isWorkload = false) : ∃ u ∈ unitsOf (keyed services) opt.groupMode,
      ∃ os, u.convert opt = .ok os ∧ ∃ b ∈ os, o = placed opt b := by
  obtain ⟨made, merged, hmade, hmerge, rfl⟩ := convert_ok h
  obtain ⟨b, hb, rfl⟩ := exists_of_mem_arranged ho
  rw [isWorkload_placed] at hw
  obtain ⟨os, hos, hb⟩ := List.mem_flatten.1 ((mem_mergeJoins_iff hmerge hw).1 hb)
  obtain ⟨u, hu, hconvert⟩ := exists_left hmade hos
  exact ⟨u, hu, os, hconvert, b, hb, rfl⟩

/-- All that is made to stand beside the workloads of an application, but for autoscalers. -/
def siblingsMade (services : Dict Service) (opt : Options) : List Object :=
  (unitsOf (keyed services) opt.groupMode).flatMap fun u =>
    (u.servicesUnder (u.chosen opt)).flatMap (WorkloadUnit.siblings u.name (u.chosen opt) opt)

section Named

variable {a b : Object} {k n : String}

def Object.isNamed (k n : String) (o : Object) : Bool := o.kind = k && o.name = n

theorem Object.isNamed_iff : o.isNamed k n ↔ o.kind = k ∧ o.name = n := by
  rw [isNamed, Bool.and_eq_true, decide_eq_true_eq, decide_eq_true_eq]

theorem Object.isNamed_congr (hkind : a.kind = b.kind) (hname : a.name = b.name) :
    a.isNamed k n = b.isNamed k n := by
  rw [isNamed, isNamed, hkind, hname]

end Named

/-- Of what stands beside the workloads under one kind and name, the first that is made is in the
output. -/
theorem filter_convert {k n : String} (h : convert services opt = .ok objects)
    (hwork : k ∉ WorkloadKind.all.map WorkloadKind.name) (hservice : k ≠ "Service")
    (hscaling : k ≠ "HorizontalPodAutoscaler")
    (hspace : ∀ o ∈ (siblingsMade services opt).filter (Object.isNamed k n),
      o.metadata.namespaceName = none) :
    objects.filter (Object.isNamed k n) =
      (((siblingsMade services opt).filter (Object.isNamed k n)).head?.map (placed opt)).toList := by
  obtain ⟨made, merged, hmade, hmerge, rfl⟩ := convert_ok h
  have hnotWorkload : ∀ o : Object, o.isNamed k n → o.isWorkload = false := by
    intro o ho
    rw [← Bool.not_eq_true, Object.isWorkload_iff_kind, (Object.isNamed_iff.1 ho).1]
    exact hwork
  have hnotService : ∀ o : Object, o.isNamed k n → o.isService = false := by
    intro o ho
    rw [← Bool.not_eq_true, Object.isService_iff_kind, (Object.isNamed_iff.1 ho).1]
    exact hservice
  have hsiblings : made.flatten.filter (Object.isNamed k n) =
      (siblingsMade services opt).filter (Object.isNamed k n) := by
    simp only [filter_made hnotWorkload (fun a => by simp [Object.isNamed, Object.kind, hscaling.symm])
      (fun _ => members_ne_nil) hmade, siblingsMade, List.filter_flatMap]
  -- They are made without a namespace, so they all get one key.
  have hkey : ∀ a ∈ ((siblingsMade services opt).filter (Object.isNamed k n)).map (placed opt),
      a.key = ⟨k, filled opt.namespaceName, n⟩ := by
    intro a ha
    obtain ⟨o, ho, rfl⟩ := List.mem_map.1 ha
    obtain ⟨hk, hn⟩ := Object.isNamed_iff.1 (List.mem_filter.1 ho).2
    rw [key_placed, hspace o ho, Option.or_none, hk, hn]
  rw [filter_arranged hnotService fun _ _ => Object.isNamed_congr,
    filter_mergeJoins hnotWorkload hmerge, hsiblings, firstOfEach_of_forall_eq hkey, List.head?_map]

/-- The objects of a conversion that succeeds. -/
def output (services : Dict Service) (opt : Options) : List Object :=
  (convert services opt).toOption.getD []

theorem convert_output (h : (convert services opt).isOk) :
    convert services opt = .ok (output services opt) :=
  ok_of_isOk h

end Manifests
