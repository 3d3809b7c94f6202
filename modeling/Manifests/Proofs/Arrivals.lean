import Manifests.Proofs.CanonicalList
import Manifests.Proofs.Origin

/-! Where the pod of a unit is after the joins, whatever the names of the workloads. -/
namespace Manifests

section Lists

variable {α : Type} {p q : α → Bool} {f : α → α} {l : List α}

/-- A search meets the changed element in its place, if it meets it at all. -/
theorem find?_changeFirstWhere (hf : ∀ a, q (f a) = q a) (hpq : ∀ a b, p a → p b → q a = q b) :
    (changeFirstWhere p f l).find? q = (l.find? q).map fun a => if p a then f a else a := by
  induction l with
  | nil => rfl
  | cons a l ih =>
    rw [changeFirstWhere]
    by_cases hp : p a
    · rw [if_pos hp]
      by_cases hq : q a
      · have hqf : q (f a) := (hf a).trans hq
        rw [List.find?_cons_of_pos hqf, List.find?_cons_of_pos hq, Option.map_some, if_pos hp]
      · have hqf : ¬ q (f a) := by rwa [hf a]
        rw [List.find?_cons_of_neg hqf, List.find?_cons_of_neg hq]
        cases hfound : l.find? q with
        | none => rfl
        | some b =>
          have hpb : ¬ p b := fun hpb => hq ((hpq a b hp hpb).trans (List.find?_some hfound))
          rw [Option.map_some, if_neg hpb]
    · rw [if_neg hp]
      by_cases hq : q a
      · rw [List.find?_cons_of_pos hq, List.find?_cons_of_pos hq, Option.map_some, if_neg hp]
      · rw [List.find?_cons_of_neg hq, List.find?_cons_of_neg hq, ih]

end Lists

section Merge

variable {objects merged : List Object} {joins : List Join} {services : Dict Service}
  {a o s t : Object} {n : String}

/-- A workload as it was, but for what has come to it, behind its own containers. -/
structure Object.Grown (a o : Object) : Prop where
  emptied : o.emptied = a.emptied
  containers : a.containers <+: o.containers

namespace Object

theorem Grown.refl : Grown a a := ⟨rfl, List.prefix_rfl⟩

theorem Grown.trans (h : Grown a o) (h' : Grown o t) : Grown a t :=
  ⟨h'.emptied.trans h.emptied, h.containers.trans h'.containers⟩

theorem grown_absorb {source : Option PodSpec} (h : a.isDeployment) :
    Grown a (a.absorb source) := by
  refine ⟨emptied_absorb, ?_⟩
  rw [containers_absorb h]
  exact List.prefix_append _ _

theorem Grown.isDeployment_eq (h : Grown a o) : o.isDeployment = a.isDeployment := by
  rw [← isDeployment_emptied, h.emptied, isDeployment_emptied]

end Object

namespace Merging

variable {m m' : Merging} {j r : Join}

/-- A step that moves a pod finds again what is told by kind and name, and the first deployment of
the target's name with the pod. -/
theorem find?_moved {q : Object → Bool} {target : String} {source : Option PodSpec}
    (hq : ∀ a b : Object, a.kind = b.kind → a.name = b.name → q a = q b) :
    (changeFirstWhere (fun o => o.isDeployment && o.name = target)
      (Object.absorb source) objects).find? q = (objects.find? q).map fun o =>
        if o.isDeployment && o.name = target then o.absorb source else o := by
  refine find?_changeFirstWhere (fun o => hq _ _ Object.kind_absorb Object.name_absorb)
    fun a b ha hb => ?_
  rw [Bool.and_eq_true, decide_eq_true_eq, Object.isDeployment_iff_kind] at ha hb
  exact hq a b (ha.1.trans hb.1.symm) (ha.2.trans hb.2.symm)

theorem workload?_moved {target : String} {source : Option PodSpec} :
    ObjectList.workload? n (changeFirstWhere (fun o => o.isDeployment && o.name = target)
      (Object.absorb source) objects) = (ObjectList.workload? n objects).map fun o =>
        if o.isDeployment && o.name = target then o.absorb source else o :=
  find?_moved fun a b hkind hname => by rw [Object.isWorkload_of_kind hkind, hname]

theorem step_grown (h : m.step j = .ok m') (ha : ObjectList.workload? n m.objects = some a) :
    ∃ o, ObjectList.workload? n m'.objects = some o ∧ a.Grown o := by
  rcases step_cases h with ⟨_, rfl⟩ | ⟨s, t, _, _, _, _, rfl⟩
  · exact ⟨a, ha, .refl⟩
  · rw [workload?_moved, ha, Option.map_some]
    refine ⟨_, rfl, ?_⟩
    split
    · rename_i hd
      rw [Bool.and_eq_true] at hd
      exact Object.grown_absorb hd.1
    · exact .refl

/-- The containers of a source go behind those of its target. -/
theorem step_arrival (h : m.step j = .ok m')
    (hs : ObjectList.workload? j.source m.objects = some s) :
    ∃ t, ObjectList.workload? j.target m'.objects = some t ∧ t.isDeployment ∧
      s.containers <:+ t.containers := by
  rcases step_cases h with ⟨hnone, _⟩ | ⟨s', t, hs', ht, _, hdt, rfl⟩
  · rw [hs] at hnone
    cases hnone
  · rw [hs] at hs'
    cases hs'
    have hd : (t.isDeployment && t.name = j.target) = true := by
      simp [hdt, (ObjectList.workload?_some ht).2.2]
    rw [workload?_moved, ht, Option.map_some, if_pos hd]
    refine ⟨_, rfl, by rwa [Object.isDeployment_absorb], ?_⟩
    rw [Object.containers_absorb hdt]
    exact List.suffix_append _ _

theorem run_grown (h : m.run joins = ⟨m', none⟩)
    (ha : ObjectList.workload? n m.objects = some a) :
    ∃ o, ObjectList.workload? n m'.objects = some o ∧ a.Grown o := by
  refine run_invariant (P := fun m' => ∃ o, ObjectList.workload? n m'.objects = some o ∧ a.Grown o)
    (fun j _ m₁ m₂ hs hm => ?_) h ⟨a, ha, .refl⟩
  obtain ⟨b, hb, hgrown⟩ := hm
  obtain ⟨o, ho, hgrown'⟩ := step_grown hs hb
  exact ⟨o, ho, hgrown.trans hgrown'⟩

/-- What a join brings stays where it is, by induction on the joins: those before grow the source,
those behind grow the target. -/
theorem run_arrival (h : m.run joins = ⟨m', none⟩) (hr : r ∈ joins)
    (hs : ObjectList.workload? r.source m.objects = some s) :
    ∃ t, ObjectList.workload? r.target m'.objects = some t ∧ t.isDeployment ∧
      s.containers <:+: t.containers := by
  induction joins generalizing m s with
  | nil => cases hr
  | cons j joins ih =>
    obtain ⟨m₁, hstep, hrun⟩ := run_cons h
    rcases List.mem_cons.1 hr with rfl | hr
    · obtain ⟨t, ht, hd, harrived⟩ := step_arrival hstep hs
      obtain ⟨o, ho, hgrown⟩ := run_grown hrun ht
      exact ⟨o, ho, by rwa [hgrown.isDeployment_eq],
        harrived.isInfix.trans hgrown.containers.isInfix⟩
    · obtain ⟨s₁, hs₁, hgrown⟩ := step_grown hstep hs
      obtain ⟨t, ht, hd, harrived⟩ := ih hrun hr hs₁
      exact ⟨t, ht, hd, hgrown.containers.isInfix.trans harrived⟩

end Merging

/-- Only deployments that have the name of a source are dropped in the end. -/
theorem mergeJoins_run (h : mergeJoins objects services = ⟨merged, none⟩) :
    ∃ m, Merging.run ⟨objects, []⟩ (Join.toEnds (Join.ofServices services)) = ⟨m, none⟩ ∧
      ∀ q : Object → Bool, (∀ o, q o → leaves (Join.ofServices services) o = false) →
        merged.find? q = m.objects.find? q := by
  obtain ⟨hresolved, m, hrun, rfl⟩ := mergeJoins_ok h
  obtain ⟨_, hmoved, hdeployments⟩ := Merging.run_emptied hrun
  rw [List.nil_append] at hmoved
  refine ⟨m, hrun, fun q hq => ?_⟩
  have hkeep : ∀ o : Object, q o → o.key ∉ m.moved := by
    intro o ho hmem
    rw [hmoved] at hmem
    obtain ⟨s, hs, hkey⟩ := List.mem_map.1 hmem
    have hds := hdeployments s hs
    obtain ⟨r, hr, hs⟩ := List.mem_filterMap.1 hs
    have hkind : s.kind = o.kind := congrArg ObjectKey.kind hkey
    have hname : s.name = o.name := congrArg ObjectKey.name hkey
    have hleaves : leaves (Join.ofServices services) o := by
      rw [leaves, Bool.and_eq_true, decide_eq_true_eq, Object.isDeployment_iff_kind, ← hkind,
        ← Object.isDeployment_iff_kind, ← hresolved.sources_eq, ← hname,
        (ObjectList.workload?_some hs).2.2]
      exact ⟨hds, List.mem_map_of_mem hr⟩
    rw [hq o ho] at hleaves
    cases hleaves
  rw [List.find?_filter]
  congr 1
  funext o
  by_cases ho : q o
  · simp [hkeep o ho]
  · simp [ho]

/-- No workload whose name is the source of no join is dropped. -/
theorem leaves_of_notMem {joins : List Join} (hn : n ∉ joins.map (·.source))
    (ho : o.isWorkload && o.name = n) : leaves joins o = false := by
  rw [Bool.and_eq_true, decide_eq_true_eq] at ho
  rw [leaves, ho.2, decide_eq_false hn, Bool.and_false]

/-- A workload whose name is the source of no join stays. -/
theorem mergeJoins_kept (h : mergeJoins objects services = ⟨merged, none⟩)
    (hn : n ∉ (Join.ofServices services).map (·.source))
    (ha : ObjectList.workload? n objects = some a) :
    ∃ o, ObjectList.workload? n merged = some o ∧ a.Grown o := by
  obtain ⟨m, hrun, hmerged⟩ := mergeJoins_run h
  rw [ObjectList.workload?, hmerged _ fun _ => leaves_of_notMem hn]
  exact Merging.run_grown hrun ha

/-- The pod of a workload whose name is the source of a join is at an end of the joins. -/
theorem mergeJoins_arrived (h : mergeJoins objects services = ⟨merged, none⟩)
    (hn : n ∈ (Join.ofServices services).map (·.source))
    (ha : ObjectList.workload? n objects = some a) :
    ∃ t, ObjectList.workload? t.name merged = some t ∧ t.isDeployment ∧
      Join.EndsAt (Join.ofServices services) n t.name ∧ a.containers <:+: t.containers := by
  obtain ⟨hresolved, _⟩ := mergeJoins_ok h
  obtain ⟨m, hrun, hmerged⟩ := mergeJoins_run h
  rw [← hresolved.sources_eq] at hn
  obtain ⟨r, hr, rfl⟩ := List.mem_map.1 hn
  obtain ⟨t, ht, hd, harrived⟩ := Merging.run_arrival hrun hr ha
  have hend := hresolved.endsAt hr
  have hname : t.name = r.target := (ObjectList.workload?_some ht).2.2
  rw [← hname] at ht hend
  refine ⟨t, ?_, hd, hend, harrived⟩
  rw [ObjectList.workload?, hmerged _ fun _ => leaves_of_notMem (Join.not_leads_iff.1 hend.2)]
  exact ht

end Merge

section Arranged

variable {objects : List Object} {opt : Options} {o : Object} {n : String}

theorem ObjectList.workload?_eq_find? : ObjectList.workload? n objects =
    (objects.filter Object.isWorkload).find? (·.name = n) := by
  rw [workload?, List.find?_filter]
  congr 1
  funext o
  simp

/-- What comes first of a kind and name comes first under its key as well. -/
theorem placed_mem_arranged {q : Object → Bool}
    (hq : ∀ a b : Object, a.kind = b.kind → a.name = b.name → q a = q b)
    (h : objects.find? q = some o) : placed opt o ∈ arranged opt objects := by
  have hfirst : (objects.map (placed opt)).find? (·.key = (placed opt o).key) =
      some (placed opt o) := by
    rw [List.find?_map, Option.map_eq_some_iff]
    refine ⟨o, ?_, rfl⟩
    rw [List.find?_eq_some_iff_append] at h ⊢
    obtain ⟨ho, before, behind, hlist, hnone⟩ := h
    refine ⟨by simp, before, behind, hlist, fun b hb => ?_⟩
    have hother := hnone b hb
    rw [Bool.not_eq_true', ← Bool.not_eq_true] at hother ⊢
    intro hsame
    rw [Function.comp_apply, decide_eq_true_eq, key_placed, key_placed, ObjectKey.mk.injEq] at hsame
    obtain ⟨hkind, _, hname⟩ := hsame
    exact hother ((hq b o hkind hname).trans ho)
  rw [arranged_eq, mem_servicesFirst]
  exact mem_firstOfEach_iff.2 hfirst

theorem placed_mem_of_workload? (h : ObjectList.workload? n objects = some o) :
    placed opt o ∈ arranged opt objects :=
  placed_mem_arranged (fun a b hkind hname => by rw [Object.isWorkload_of_kind hkind, hname]) h

end Arranged

namespace WorkloadUnit

variable {u : WorkloadUnit} {opt : Options} {o a b : Object} {units : List WorkloadUnit}
  {joins : List Join} {n : String}

/-- The containers made for a unit, one for each of its services, run in a workload side by side
and in order. -/
def RunsIn (u : WorkloadUnit) (opt : Options) (o : Object) : Prop :=
  ∃ spec, u.podSpec (u.chosen opt) opt = .ok spec ∧
    spec.containers.map Container.core = u.members.map Service.core ∧
    spec.containers <:+: o.containers

theorem Converted.runsIn {spec : PodSpec} {os : List Object} (h : Converted u opt spec a os)
    (hin : a.containers <:+: o.containers) : u.RunsIn opt (placed opt o) := by
  refine ⟨spec, h.podSpec_ok, cores_podSpec h.podSpec_ok, ?_⟩
  rw [containers_placed]
  rwa [Object.containers, h.made.podSpec?_eq] at hin

/-- By its kind and its name a workload of the output is told apart. -/
theorem Origin.key_eq (h : Origin units opt joins u a o) : o.key =
    ⟨(u.chosen opt).name, (filled opt.namespaceName).or opt.namespaceName, u.name⟩ := by
  obtain ⟨spec, os, hc⟩ := h.converted
  rw [h.observed fun _ => Object.key_emptied, key_placed, hc.made.kind_eq, hc.made.namespaceName,
    hc.made.name_eq]

end WorkloadUnit

section Conversion

variable {services : Dict Service} {opt : Options} {objects base : List Object}
  {units : List WorkloadUnit} {u : WorkloadUnit} {o o' : Object} {n : String}

theorem eq_of_kind_of_name (h : convert services opt = .ok objects) (ho : o ∈ objects)
    (ho' : o' ∈ objects) (hw : o.isWorkload) (hkind : o'.kind = o.kind)
    (hname : o'.name = o.name) : o' = o := by
  have hw' : o'.isWorkload := by rwa [Object.isWorkload_of_kind hkind]
  obtain ⟨u, _, hu⟩ := exists_origin h ho hw
  obtain ⟨v, _, hv⟩ := exists_origin h ho' hw'
  refine List.inj_on_of_nodup_map (nodup_keys_convert h) ho' ho ?_
  rw [hv.key_eq, hu.key_eq, ← hv.kind_eq, ← hu.kind_eq, ← hv.name_eq, ← hu.name_eq, hkind, hname]

section Units

variable (hunits : List.Forall₂ (fun u o => ∃ spec os, u.Converted opt spec o os) units
  (base.filter Object.isWorkload))

include hunits

/-- The first unit of a name has the first workload of this name. -/
theorem rel_workload? : Option.Rel (fun u o => ∃ spec os, u.Converted opt spec o os)
    (units.find? (·.name = n)) (ObjectList.workload? n base) := by
  rw [ObjectList.workload?_eq_find?]
  refine rel_find? hunits fun v a ⟨spec, os, hc⟩ => ?_
  rw [hc.made.name_eq]

theorem exists_workload?_of_units (hu : units.find? (·.name = n) = some u) :
    ∃ a, ObjectList.workload? n base = some a ∧ ∃ spec os, u.Converted opt spec a os := by
  have hrel := rel_workload? hunits (n := n)
  rw [hu] at hrel
  generalize ObjectList.workload? n base = found at hrel
  cases hrel with
  | some hc => exact ⟨_, rfl, hc⟩

end Units

variable (h : convert services opt = .ok objects)
  (hu : (unitsOf (keyed services) opt.groupMode).find? (·.name = n) = some u)

include h hu

/-- Of the units of one name, the first keeps its workload where no join starts at the name. -/
theorem exists_runsIn_of_kept (hn : n ∉ (Join.ofServices services).map (·.source)) :
    ∃ o ∈ objects, o.kind = (u.chosen opt).name ∧ o.name = n ∧ u.RunsIn opt o := by
  obtain ⟨made, merged, hmade, hmerge, rfl⟩ := convert_ok h
  obtain ⟨a, ha, spec, os, hc⟩ :=
    exists_workload?_of_units (workloads_made (fun _ => members_ne_nil) hmade) hu
  rw [← ofServices_enrolled opt.groupMode] at hn
  obtain ⟨o, ho, hgrown⟩ := mergeJoins_kept hmerge hn ha
  refine ⟨placed opt o, placed_mem_of_workload? ho, ?_, ?_, hc.runsIn hgrown.containers.isInfix⟩
  · rw [kind_placed, ← Object.kind_emptied, hgrown.emptied, Object.kind_emptied, hc.made.kind_eq]
  · rw [name_placed, (ObjectList.workload?_some ho).2.2]

/-- Its containers move together with a join that starts at the name. -/
theorem exists_runsIn_of_joined (hn : n ∈ (Join.ofServices services).map (·.source)) :
    u.chosen opt = .deployment ∧ ∃ o ∈ objects, o.isDeployment ∧
      Join.EndsAt (Join.ofServices services) n o.name ∧ u.RunsIn opt o := by
  obtain ⟨made, merged, hmade, hmerge, rfl⟩ := convert_ok h
  obtain ⟨a, ha, spec, os, hc⟩ :=
    exists_workload?_of_units (workloads_made (fun _ => members_ne_nil) hmade) hu
  rw [← ofServices_enrolled opt.groupMode] at hn ⊢
  obtain ⟨t, ht, hd, hend, harrived⟩ := mergeJoins_arrived hmerge hn ha
  constructor
  · obtain ⟨j, hj, rfl⟩ := List.mem_map.1 hn
    have hmoves := (mergeJoins_emptied hmerge).2 a (List.mem_filterMap.2 ⟨j, hj, ha⟩)
    rw [Object.isDeployment_iff_kind, hc.made.kind_eq] at hmoves
    exact WorkloadKind.name_injective hmoves
  · refine ⟨placed opt t, placed_mem_of_workload? ht, ?_, ?_, hc.runsIn harrived⟩
    · rw [Object.isDeployment_iff_kind, kind_placed, ← Object.isDeployment_iff_kind]
      exact hd
    · rwa [name_placed]

/-- A workload of this kind and name is there where no join starts at the name, and only there. -/
theorem kept_iff : (∃ o ∈ objects, o.kind = (u.chosen opt).name ∧ o.name = n) ↔
    n ∉ (Join.ofServices services).map (·.source) := by
  constructor
  · rintro ⟨o, ho, hkind, hname⟩ hn
    obtain ⟨hchosen, _⟩ := exists_runsIn_of_joined h hu hn
    obtain ⟨v, _, hv⟩ := exists_origin h ho (Object.isWorkload_of_kind_eq hkind)
    rw [hv.kind_eq, hchosen] at hkind
    rw [hv.name_eq] at hname
    exact hv.stays ⟨WorkloadKind.name_injective hkind, hname ▸ hn⟩
  · intro hn
    obtain ⟨o, ho, hkind, hname, _⟩ := exists_runsIn_of_kept h hu hn
    exact ⟨o, ho, hkind, hname⟩

/-- It is this unit's. -/
theorem runsIn_of_name (ho : o ∈ objects) (hkind : o.kind = (u.chosen opt).name)
    (hname : o.name = n) : u.RunsIn opt o := by
  have hn := (kept_iff h hu).1 ⟨o, ho, hkind, hname⟩
  obtain ⟨o', ho', hkind', hname', hruns⟩ := exists_runsIn_of_kept h hu hn
  rwa [eq_of_kind_of_name h ho ho' (Object.isWorkload_of_kind_eq hkind) (hkind'.trans hkind.symm)
    (hname'.trans hname.symm)] at hruns

end Conversion

end Manifests
