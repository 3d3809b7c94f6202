import Manifests.Proofs.Arrivals

/-! Which volumes a workload has in the end: those of its own pod, and behind them those that the
joins bring, one pod after another. -/
namespace Manifests

section Merge

variable {objects objects' merged : List Object} {joins : List Join} {services : Dict Service}
  {o : Object} {n : String} {q : Object → Bool}

namespace Merging

variable {m m' : Merging} {j : Join}

/-- The workloads whose pods the joins bring to a deployment, in the order of the joins. -/
def deliveries (objects : List Object) (joins : List Join) (o : Object) : List Object :=
  if o.isDeployment then
    (joins.filter (·.target = o.name)).filterMap fun j => ObjectList.workload? j.source objects
  else []

theorem deliveries_cons : deliveries objects (j :: joins) o =
    deliveries objects [j] o ++ deliveries objects joins o := by
  rw [deliveries, deliveries, deliveries]
  split
  · rw [← List.filterMap_append, ← List.filter_append, List.singleton_append]
  · rfl

theorem deliveries_singleton : deliveries objects [j] o =
    if o.isDeployment && o.name = j.target then (ObjectList.workload? j.source objects).toList
    else [] := by
  by_cases hd : o.isDeployment
  · by_cases ht : j.target = o.name
    · cases hs : ObjectList.workload? j.source objects <;> simp [deliveries, hd, ht, hs]
    · simp [deliveries, hd, ht, eq_comm]
  · simp [deliveries, hd]

theorem deliveries_absorbAll {sources : List Object} :
    deliveries objects joins (o.absorbAll sources) = deliveries objects joins o := by
  rw [deliveries, deliveries, Object.isDeployment_absorbAll, Object.name_absorbAll]

theorem deliveries_congr (h : ∀ r ∈ joins,
    ObjectList.workload? r.source objects' = ObjectList.workload? r.source objects) :
    deliveries objects' joins o = deliveries objects joins o := by
  rw [deliveries, deliveries]
  congr 1
  exact List.filterMap_congr fun r hr => h r (List.mem_of_mem_filter hr)

/-- Workloads of other names are found as they were. -/
theorem step_other (h : m.step j = .ok m') (hn : n ≠ j.target) :
    ObjectList.workload? n m'.objects = ObjectList.workload? n m.objects := by
  rcases step_cases h with ⟨_, rfl⟩ | ⟨s, t, _, _, _, _, rfl⟩
  · rfl
  · rw [workload?_moved]
    cases ho : ObjectList.workload? n m.objects with
    | none => rfl
    | some o =>
      have hname : o.name ≠ j.target := by rwa [(ObjectList.workload?_some ho).2.2]
      simp [hname]

variable (hq : ∀ a b : Object, a.kind = b.kind → a.name = b.name → q a = q b)

include hq

/-- What a search finds after a step has taken in the source, if it is where the join leads. -/
theorem step_find? (h : m.step j = .ok m') : m'.objects.find? q =
    (m.objects.find? q).map fun o => o.absorbAll (deliveries m.objects [j] o) := by
  simp only [deliveries_singleton]
  rcases step_cases h with ⟨hnone, rfl⟩ | ⟨s, t, hs, _, _, _, rfl⟩
  · simp only [hnone, Option.toList_none, ite_self, Object.absorbAll, List.foldl_nil,
      Option.map_id']
  · rw [find?_moved hq, hs]
    congr 1
    funext o
    split <;> rfl

/-- A whole run, by induction on the joins: what they bring was there at the beginning, because
nothing moves to the source of a join. -/
theorem run_find? (h : m.run joins = ⟨m', none⟩)
    (hends : ∀ r ∈ joins, ∀ r' ∈ joins, r'.source ≠ r.target) : m'.objects.find? q =
      (m.objects.find? q).map fun o => o.absorbAll (deliveries m.objects joins o) := by
  induction joins generalizing m with
  | nil =>
    cases h
    simp [deliveries, Object.absorbAll]
  | cons j joins ih =>
    obtain ⟨m₁, hstep, hrun⟩ := run_cons h
    have hrest := ih hrun fun r hr r' hr' =>
      hends r (List.mem_cons_of_mem _ hr) r' (List.mem_cons_of_mem _ hr')
    have hsame : ∀ o, deliveries m₁.objects joins o = deliveries m.objects joins o := by
      refine fun o => deliveries_congr fun r hr => step_other hstep ?_
      exact hends j List.mem_cons_self r (List.mem_cons_of_mem _ hr)
    rw [hrest, step_find? hq hstep, Option.map_map]
    congr 1
    funext o
    rw [Function.comp_apply, deliveries_absorbAll, hsame, ← Object.absorbAll_append,
      ← deliveries_cons]

end Merging

open Merging

/-- Of what stays, the first of a kind and name has taken in the pods that the joins bring to it. -/
theorem mergeJoins_find? (h : mergeJoins objects services = ⟨merged, none⟩)
    (hq : ∀ a b : Object, a.kind = b.kind → a.name = b.name → q a = q b)
    (hstays : ∀ o, q o → leaves (Join.ofServices services) o = false) : merged.find? q =
      (objects.find? q).map fun o =>
        o.absorbAll (deliveries objects (Join.toEnds (Join.ofServices services)) o) := by
  obtain ⟨hresolved, _⟩ := mergeJoins_ok h
  obtain ⟨m, hrun, hmerged⟩ := mergeJoins_run h
  rw [hmerged q hstays]
  exact run_find? hq hrun fun r hr r' hr' => hresolved.target_ne_source hr hr'

theorem Object.volumes_deliveries {sources : List Object} (h : sources = deliveries objects joins o) :
    (o.absorbAll sources).volumes = unionVolumes o.volumes (sources.flatMap Object.volumes) := by
  by_cases hd : o.isDeployment
  · exact Object.volumes_absorbAll hd
  · obtain rfl : sources = [] := by rw [h, deliveries, if_neg hd]
    rfl

end Merge

namespace WorkloadUnit

variable {u w : WorkloadUnit} {units : List WorkloadUnit} {opt : Options} {joins : List Join}
  {base : List Object} {a o : Object} {v : Volume} {n : String}

/-- The units whose pods are in the workload of a unit, in the order in which they come there: the
unit itself, and for a deployment those whose joins end there, join by join. -/
def inPod (units : List WorkloadUnit) (opt : Options) (joins : List Join) (u : WorkloadUnit) :
    List WorkloadUnit :=
  u :: if u.chosen opt = .deployment then
      ((Join.toEnds joins).filter (·.target = u.name)).filterMap fun j => units.find? (·.name = j.source)
    else []

/-- A workload was made for the unit, the first of the workload's kind and name. -/
def Makes (units : List WorkloadUnit) (opt : Options) (u : WorkloadUnit) (o : Object) : Prop :=
  units.find? (fun u => (u.chosen opt).name = o.kind && u.name = o.name) = some u

/-- The first unit that has a volume of this name. -/
def holder? (units : List WorkloadUnit) (opt : Options) (n : String) : Option WorkloadUnit :=
  units.find? fun u => n ∈ (u.ownVolumes opt).map Volume.name

theorem mem_of_makes (h : Makes units opt u o) : u ∈ units := List.mem_of_find?_eq_some h

theorem mem_of_mem_inPod (hu : u ∈ units) (hw : w ∈ inPod units opt joins u) : w ∈ units := by
  rcases List.mem_cons.1 hw with rfl | hw
  · exact hu
  · split at hw
    · obtain ⟨j, _, hj⟩ := List.mem_filterMap.1 hw
      exact List.mem_of_find?_eq_some hj
    · cases hw

/-- A volume that is the first of its name comes from the first unit that has one. -/
theorem holder?_of_mem (h : v ∈ firstOfEach Volume.name (units.flatMap (·.ownVolumes opt))) :
    ∃ w, holder? units opt v.name = some w ∧ v ∈ w.ownVolumes opt := by
  rw [mem_firstOfEach_iff, List.find?_flatMap, List.findSome?_eq_some_iff] at h
  obtain ⟨before, w, behind, rfl, hw, hbefore⟩ := h
  have hv := List.mem_of_find?_eq_some hw
  refine ⟨w, List.find?_eq_some_iff_append.2 ⟨?_, before, behind, rfl, fun x hx => ?_⟩, hv⟩
  · exact decide_eq_true (List.mem_map_of_mem hv)
  · have hnone := List.find?_eq_none.1 (hbefore x hx)
    simpa using hnone

section Units

variable (hunits : List.Forall₂ (fun u o => ∃ spec os, u.Converted opt spec o os) units
  (base.filter Object.isWorkload))

include hunits

theorem exists_makes (hw : o.isWorkload) (ha : base.find? (Object.isNamed o.kind o.name) = some a) :
    ∃ u, Makes units opt u o ∧ ∃ spec os, u.Converted opt spec a os := by
  have hkind : ∀ b : Object, b.isNamed o.kind o.name → b.isWorkload := by
    intro b hb
    rwa [Object.isWorkload_of_kind (Object.isNamed_iff.1 hb).1]
  have hrel := rel_find? hunits (p := fun u => (u.chosen opt).name = o.kind && u.name = o.name)
    (q := Object.isNamed o.kind o.name) fun u b ⟨spec, os, hc⟩ => by
      rw [Object.isNamed, hc.made.kind_eq, hc.made.name_eq]
  have hsame : (base.filter Object.isWorkload).find? (Object.isNamed o.kind o.name) = some a := by
    rw [List.find?_filter, ← ha]
    congr 1
    funext b
    by_cases hb : b.isNamed o.kind o.name
    · simp [hb, hkind b hb]
    · simp [hb]
  rw [hsame] at hrel
  generalize hu : units.find? _ = found at hrel
  cases hrel with
  | some hc => exact ⟨_, hu, hc⟩

/-- The workloads that are joined to that of a unit were made for the units in its pod. -/
theorem converted_inPod (hc : ∃ spec os, u.Converted opt spec a os) :
    List.Forall₂ (fun u o => ∃ spec os, u.Converted opt spec o os) (inPod units opt joins u)
      (a :: Merging.deliveries base (Join.toEnds joins) a) := by
  refine .cons hc ?_
  obtain ⟨spec, os, hc⟩ := hc
  have hdeployment : a.isDeployment ↔ u.chosen opt = .deployment := by
    rw [Object.isDeployment_iff_kind, hc.made.kind_eq]
    exact ⟨fun h => WorkloadKind.name_injective h, fun h => congrArg WorkloadKind.name h⟩
  rw [Merging.deliveries, hc.made.name_eq]
  by_cases hd : u.chosen opt = .deployment
  · rw [if_pos hd, if_pos (hdeployment.2 hd)]
    exact List.rel_filterMap (fun j r hr => hr ▸ rel_workload? hunits)
      (List.forall₂_same.2 fun _ _ => rfl)
  · rw [if_neg hd, if_neg fun h => hd (hdeployment.1 h)]
    exact .nil

theorem volumes_inPod (hc : ∃ spec os, u.Converted opt spec a os) :
    (a.absorbAll (Merging.deliveries base (Join.toEnds joins) a)).volumes =
      firstOfEach Volume.name ((inPod units opt joins u).flatMap (·.ownVolumes opt)) := by
  have hall : (a :: Merging.deliveries base (Join.toEnds joins) a).map Object.volumes =
      (inPod units opt joins u).map (·.ownVolumes opt) :=
    map_eq_map ((converted_inPod hunits hc).imp fun _ _ ⟨_, _, hc⟩ => hc.volumes)
  obtain ⟨spec, os, hc⟩ := hc
  have hdistinct : (a.volumes.map Volume.name).Nodup := by
    rw [hc.volumes]
    exact nodup_unionBy List.nodup_nil
  rw [Object.volumes_deliveries rfl, List.flatMap_def (l := inPod units opt joins u), ← hall,
    ← List.flatMap_def, List.flatMap_cons, firstOfEach, unionBy_append, ← firstOfEach,
    firstOfEach_of_nodup hdistinct, unionVolumes]

end Units

end WorkloadUnit

section Conversion

open WorkloadUnit

variable {services : Dict Service} {opt : Options} {objects : List Object} {o : Object}

/-- The volumes of a workload in the output are those of the pods that come there, in order, and the
first counts where two have one name. -/
theorem volumes_convert (h : convert services opt = .ok objects) (ho : o ∈ objects)
    (hw : o.isWorkload) : ∃ u, Makes (unitsOf (keyed services) opt.groupMode) opt u o ∧
      u.Stays opt (Join.ofServices services) ∧
      o.volumes = firstOfEach Volume.name ((inPod (unitsOf (keyed services) opt.groupMode) opt
        (Join.ofServices services) u).flatMap (·.ownVolumes opt)) := by
  obtain ⟨v, _, hv⟩ := exists_origin h ho hw
  have hstays : ∀ kind : WorkloadKind, kind.name = o.kind →
      ¬ (kind = .deployment ∧ o.name ∈ (Join.ofServices services).map (·.source)) := by
    rintro kind hkind ⟨rfl, hsource⟩
    rw [hv.kind_eq] at hkind
    rw [hv.name_eq] at hsource
    exact hv.stays ⟨(WorkloadKind.name_injective hkind).symm, hsource⟩
  have hleaves : ∀ x : Object, x.isNamed o.kind o.name →
      leaves (Join.ofServices services) x = false := by
    intro x hx
    rw [Object.isNamed_iff] at hx
    rw [leaves, ← Bool.not_eq_true, Bool.and_eq_true, decide_eq_true_eq,
      Object.isDeployment_iff_kind, hx.1, hx.2]
    exact fun hx => hstays .deployment hx.1.symm ⟨rfl, hx.2⟩
  obtain ⟨made, merged, hmade, hmerge, hobjects⟩ := convert_ok h
  have hunits := workloads_made (fun _ => members_ne_nil) hmade
  -- After the joins, the workload is the first of its kind and name.
  have hfirst : ∃ x, merged.find? (Object.isNamed o.kind o.name) = some x ∧ o = placed opt x := by
    obtain ⟨y, hy, hoy⟩ := exists_of_mem_arranged (hobjects ▸ ho)
    have hnamed : y.isNamed o.kind o.name := by
      rw [hoy, kind_placed, name_placed, Object.isNamed_iff]
      exact ⟨rfl, rfl⟩
    obtain ⟨x, hx⟩ := Option.isSome_iff_exists.1 (List.find?_isSome.2 ⟨y, hy, hnamed⟩)
    have hnames := Object.isNamed_iff.1 (List.find?_some hx)
    refine ⟨x, hx, (eq_of_kind_of_name h ho ?_ hw ?_ ?_).symm⟩
    · rw [hobjects]
      exact placed_mem_arranged (fun _ _ => Object.isNamed_congr) hx
    · rw [kind_placed, hnames.1]
    · rw [name_placed, hnames.2]
  obtain ⟨x, hx, hox⟩ := hfirst
  have hsearch := mergeJoins_find? hmerge (fun _ _ => Object.isNamed_congr) (by rwa [ofServices_enrolled])
  rw [ofServices_enrolled, hx, eq_comm, Option.map_eq_some_iff] at hsearch
  obtain ⟨a, ha, rfl⟩ := hsearch
  obtain ⟨u, hu, hc⟩ := exists_makes hunits hw ha
  refine ⟨u, hu, ?_, ?_⟩
  · have hmade := List.find?_some hu
    rw [Bool.and_eq_true, decide_eq_true_eq, decide_eq_true_eq] at hmade
    rw [Stays, hmade.2]
    exact hstays _ hmade.1
  · rw [hox, volumes_placed]
    exact volumes_inPod hunits hc

end Conversion

end Manifests
