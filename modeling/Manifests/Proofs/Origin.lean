import Manifests.Proofs.Conversion

/-! From which units the workloads of the output come, and what these hold. -/
namespace Manifests

variable {services : Dict Service} {opt : Options} {objects base merged : List Object}
  {joins final : List Join} {a b o s t : Object}

section Merge

/-- The pod of one workload is in another in the end: it was there, or it comes with the joins. -/
def Object.Feeds (joins : List Join) (b a : Object) : Prop :=
  b = a ∨ b.isDeployment ∧ b.name ∈ joins.map (·.source) ∧ Join.EndsAt joins b.name a.name

/-- An object as it was, but for what the pods of others have brought to it. -/
structure Object.Drawn (base : List Object) (joins : List Join) (a o : Object) : Prop where
  emptied : o.emptied = a.emptied
  containers : ∀ c ∈ o.containers, ∃ b ∈ base, b.Feeds joins a ∧ c ∈ b.containers
  volumes : ∀ v ∈ o.volumes, ∃ b ∈ base, b.Feeds joins a ∧ v ∈ b.volumes

namespace Object

theorem drawn_self (ha : a ∈ base) : Drawn base joins a a :=
  ⟨rfl, fun _ hc => ⟨a, ha, Or.inl rfl, hc⟩, fun _ hv => ⟨a, ha, Or.inl rfl, hv⟩⟩

namespace Drawn

variable (h : Drawn base joins a o)

include h

theorem name_eq : o.name = a.name := by
  rw [← name_emptied, h.emptied, name_emptied]

theorem key_eq : o.key = a.key := by
  rw [← key_emptied, h.emptied, key_emptied]

theorem isDeployment_eq : o.isDeployment = a.isDeployment := by
  rw [← isDeployment_emptied, h.emptied, isDeployment_emptied]

theorem isWorkload_eq : o.isWorkload = a.isWorkload := by
  rw [← isWorkload_emptied, h.emptied, isWorkload_emptied]

/-- What feeds a workload goes on with it. Nothing else has come by joins, as none of them ends
where another one starts. -/
theorem feeds_target (hd : o.isDeployment) (hsource : o.name ∈ joins.map (·.source))
    (hend : Join.EndsAt joins o.name t.name) (hb : b.Feeds joins a) : b.Feeds joins t := by
  rw [h.isDeployment_eq] at hd
  rw [h.name_eq] at hsource hend
  rcases hb with rfl | ⟨_, _, hstop⟩
  · exact Or.inr ⟨hd, hsource, hend⟩
  · exact absurd hsource (Join.not_leads_iff.1 hstop.2)

end Drawn

/-- A deployment takes in the pod of another one, whose joins end there. -/
theorem Drawn.absorb (ht : Drawn base joins a t) (hs : Drawn base joins b s)
    (hdt : t.isDeployment) (hds : s.isDeployment) (hsource : s.name ∈ joins.map (·.source))
    (hend : Join.EndsAt joins s.name t.name) : Drawn base joins a (t.absorb s.podSpec?) := by
  rw [ht.name_eq] at hend
  refine ⟨emptied_absorb.trans ht.emptied, fun c hc => ?_, fun v hv => ?_⟩
  · rw [containers_absorb hdt, List.mem_append] at hc
    rcases hc with hc | hc
    · exact ht.containers c hc
    · obtain ⟨x, hx, hfeeds, hc⟩ := hs.containers c hc
      exact ⟨x, hx, hs.feeds_target hds hsource hend hfeeds, hc⟩
  · rw [volumes_absorb hdt] at hv
    rcases mem_of_mem_unionBy hv with hv | hv
    · exact ht.volumes v hv
    · obtain ⟨x, hx, hfeeds, hv⟩ := hs.volumes v hv
      exact ⟨x, hx, hs.feeds_target hds hsource hend hfeeds, hv⟩

end Object

/-- All objects so far come from those at the beginning. -/
def Merging.Drawn (base : List Object) (joins : List Join) (m : Merging) : Prop :=
  ∀ o ∈ m.objects, ∃ a ∈ base, Object.Drawn base joins a o

namespace Merging

variable {m m' : Merging} {j : Join}

theorem step_drawn (hsource : j.source ∈ joins.map (·.source))
    (hend : Join.EndsAt joins j.source j.target) (h : m.step j = .ok m')
    (hm : m.Drawn base joins) : m'.Drawn base joins := by
  rcases step_cases h with ⟨_, rfl⟩ | ⟨s, t, hs, _, hds, _, rfl⟩
  · exact hm
  · obtain ⟨hsm, _, hsn⟩ := ObjectList.workload?_some hs
    -- The source of the join has taken in nothing, so all it brings was its own at the beginning.
    obtain ⟨b, _, hb⟩ := hm s hsm
    intro o ho
    rcases mem_changeFirstWhere ho with ho | ⟨t, ht, hp, rfl⟩
    · exact hm o ho
    · rw [Bool.and_eq_true, decide_eq_true_eq] at hp
      obtain ⟨a, ha, hdrawn⟩ := hm t ht
      rw [← hsn] at hsource
      rw [← hsn, ← hp.2] at hend
      exact ⟨a, ha, hdrawn.absorb hb hp.1 hds hsource hend⟩

/-- A run keeps what a step keeps. -/
theorem run_drawn (hresolved : Join.Resolved joins final) (h : m.run final = ⟨m', none⟩)
    (hm : m.Drawn base joins) : m'.Drawn base joins := by
  refine run_invariant (fun j hj _ _ hs => ?_) h hm
  have hsource : j.source ∈ joins.map (·.source) := by
    rw [← hresolved.sources_eq]
    exact List.mem_map_of_mem hj
  exact step_drawn hsource (hresolved.endsAt hj) hs

end Merging

/-- What a merge leaves was there before, and does not depart. -/
theorem mergeJoins_drawn (h : mergeJoins base services = ⟨merged, none⟩) (ho : o ∈ merged) :
    ∃ a ∈ base, Object.Drawn base (Join.ofServices services) a o ∧
      a.key ∉ (Merging.departures base (Join.ofServices services)).map Object.key := by
  obtain ⟨hemptied, _⟩ := mergeJoins_emptied h
  obtain ⟨hresolved, m, hrun, hmerged⟩ := mergeJoins_ok h
  have hbase : Merging.Drawn base (Join.ofServices services) ⟨base, []⟩ :=
    fun a ha => ⟨a, ha, Object.drawn_self ha⟩
  have hom : o ∈ m.objects := List.mem_of_mem_filter (hmerged ▸ ho)
  obtain ⟨a, ha, hdrawn⟩ := Merging.run_drawn hresolved hrun hbase o hom
  have hmem := List.mem_map_of_mem (f := Object.emptied) ho
  rw [hemptied] at hmem
  obtain ⟨x, hx, he⟩ := List.mem_map.1 hmem
  obtain ⟨_, hkey⟩ := List.mem_filter.1 hx
  refine ⟨a, ha, hdrawn, ?_⟩
  rw [← hdrawn.key_eq, ← Object.key_emptied, ← he, Object.key_emptied]
  rwa [Bool.not_eq_true', ← Bool.not_eq_true, List.contains_iff_mem] at hkey

end Merge

/-- The workload of a unit is not joined to another one. -/
def WorkloadUnit.Stays (u : WorkloadUnit) (opt : Options) (joins : List Join) : Prop :=
  ¬ (u.chosen opt = .deployment ∧ u.name ∈ joins.map (·.source))

instance {u : WorkloadUnit} {joins : List Join} : Decidable (u.Stays opt joins) :=
  inferInstanceAs (Decidable (¬ _))

/-- Of two units, the workload of one is joined to that of the other, unless they are the same. -/
def WorkloadUnit.Feeds (opt : Options) (joins : List Join) (w u : WorkloadUnit) : Prop :=
  w = u ∨ ¬ w.Stays opt joins ∧ Join.EndsAt joins w.name u.name

/-- A workload of the output is one that a unit was converted to, with what the pods of other units
have brought to it. -/
structure WorkloadUnit.Origin (units : List WorkloadUnit) (opt : Options) (joins : List Join)
    (u : WorkloadUnit) (a o : Object) : Prop where
  mem : u ∈ units
  stays : u.Stays opt joins
  converted : ∃ spec os, u.Converted opt spec a os
  emptied : o.emptied = (placed opt a).emptied
  containers : ∀ c ∈ o.containers, ∃ w ∈ units, w.Feeds opt joins u ∧
    ∃ s ∈ w.members, c.core = s.core
  volumes : ∀ v ∈ o.volumes, ∃ w ∈ units, w.Feeds opt joins u ∧ v ∈ w.ownVolumes opt

section Units

variable {units : List WorkloadUnit} {u w : WorkloadUnit} {spec : PodSpec} {claims : List Claim}

/-- What is told by the rest of a workload has not changed since the unit was converted. -/
theorem WorkloadUnit.Origin.observed {α : Type} {obs : Object → α}
    (h : Origin units opt joins u a o) (hobs : ∀ o : Object, obs o.emptied = obs o) :
    obs o = obs (placed opt a) := by
  rw [← hobs o, h.emptied, hobs]

theorem WorkloadUnit.Origin.name_eq (h : Origin units opt joins u a o) : o.name = u.name := by
  obtain ⟨spec, os, hc⟩ := h.converted
  rw [h.observed fun _ => Object.name_emptied, name_placed, hc.made.name_eq]

theorem WorkloadUnit.Origin.kind_eq (h : Origin units opt joins u a o) :
    o.kind = (u.chosen opt).name := by
  obtain ⟨spec, os, hc⟩ := h.converted
  rw [h.observed fun _ => Object.kind_emptied, kind_placed, hc.made.kind_eq]

theorem WorkloadUnit.Origin.serviceLabel?_eq (h : Origin units opt joins u a o) :
    o.serviceLabel? = some u.name := by
  obtain ⟨spec, os, hc⟩ := h.converted
  rw [Object.serviceLabel?, h.observed fun _ => Object.podLabels?_emptied, podLabels?_placed,
    ← Object.serviceLabel?, hc.made.serviceLabel?]

variable (hunits : List.Forall₂ (fun u o => ∃ spec os, u.Converted opt spec o os) units
    (base.filter Object.isWorkload))

include hunits

/-- A workload departs with its joins unless it stays, also when others have its name. -/
theorem key_mem_departures_iff
    (hdeployments : ∀ s ∈ Merging.departures base joins, s.isDeployment) (ha : a ∈ base)
    (hmade : u.Made (u.chosen opt) opt spec claims a) :
    a.key ∈ (Merging.departures base joins).map Object.key ↔ ¬ u.Stays opt joins := by
  rw [WorkloadUnit.Stays, not_not]
  constructor
  · intro hmem
    obtain ⟨s, hs, hkey⟩ := List.mem_map.1 hmem
    have hkind := Object.isDeployment_iff_kind.1 (hdeployments s hs)
    obtain ⟨j, hj, hs⟩ := List.mem_filterMap.1 hs
    have hsame : s.kind = a.kind := congrArg ObjectKey.kind hkey
    have hname : s.name = a.name := congrArg ObjectKey.name hkey
    refine ⟨WorkloadKind.name_injective ?_, List.mem_map.2 ⟨j, hj, ?_⟩⟩
    · rw [← hmade.kind_eq, ← hsame, hkind]
      rfl
    · rw [← hmade.name_eq, ← hname, (ObjectList.workload?_some hs).2.2]
  · rintro ⟨hchosen, hname⟩
    obtain ⟨j, hj, hname⟩ := List.mem_map.1 hname
    cases hs : ObjectList.workload? j.source base with
    | none =>
      have hno := List.find?_eq_none.1 hs a ha
      simp [hmade.isWorkload, hmade.name_eq, hname] at hno
    | some s =>
      obtain ⟨hsm, hsw, hsn⟩ := ObjectList.workload?_some hs
      have hmem : s ∈ Merging.departures base joins := List.mem_filterMap.2 ⟨j, hj, hs⟩
      obtain ⟨v, _, _, _, hc⟩ := exists_left hunits (List.mem_filter.2 ⟨hsm, hsw⟩)
      have hkind : s.kind = a.kind := by
        rw [Object.isDeployment_iff_kind.1 (hdeployments s hmem), hmade.kind_eq, hchosen]
        rfl
      have hspace : s.metadata.namespaceName = a.metadata.namespaceName := by
        rw [hc.made.namespaceName, hmade.namespaceName]
      have hnames : s.name = a.name := by
        rw [hsn, hname, hmade.name_eq]
      refine List.mem_map.2 ⟨s, hmem, ?_⟩
      rw [Object.key, Object.key, hkind, hspace, hnames]

/-- What feeds the workload of a unit was made for a unit that feeds it. -/
theorem exists_feeds (hb : b ∈ base) (hfeeds : b.Feeds joins a) (hu : u ∈ units)
    (hc : ∃ spec os, u.Converted opt spec a os) :
    ∃ w ∈ units, w.Feeds opt joins u ∧ ∃ spec os, w.Converted opt spec b os := by
  rcases hfeeds with rfl | ⟨hd, hsource, hend⟩
  · exact ⟨u, hu, Or.inl rfl, hc⟩
  · have hw := Object.isWorkload_of_isDeployment hd
    obtain ⟨w, hwu, spec, os, hcw⟩ := exists_left hunits (List.mem_filter.2 ⟨hb, hw⟩)
    obtain ⟨_, _, hcu⟩ := hc
    rw [hcw.made.name_eq] at hsource hend
    rw [hcu.made.name_eq] at hend
    have hkind := Object.isDeployment_iff_kind.1 hd
    rw [hcw.made.kind_eq] at hkind
    have hchosen : w.chosen opt = .deployment := WorkloadKind.name_injective hkind
    exact ⟨w, hwu, Or.inr ⟨not_not_intro ⟨hchosen, hsource⟩, hend⟩, spec, os, hcw⟩

/-- Every workload of the output comes from a unit that stays. -/
theorem exists_origin_of_mem (hmerge : mergeJoins base services = ⟨merged, none⟩)
    (ho : o ∈ arranged opt merged) (hw : o.isWorkload) :
    ∃ u a, WorkloadUnit.Origin units opt (Join.ofServices services) u a o := by
  obtain ⟨x, hx, rfl⟩ := exists_of_mem_arranged ho
  obtain ⟨a, ha, hdrawn, hkey⟩ := mergeJoins_drawn hmerge hx
  rw [isWorkload_placed, hdrawn.isWorkload_eq] at hw
  obtain ⟨u, hu, spec, os, hc⟩ := exists_left hunits (List.mem_filter.2 ⟨ha, hw⟩)
  have hstays : u.Stays opt (Join.ofServices services) := by
    by_contra hstays
    exact hkey ((key_mem_departures_iff hunits (mergeJoins_emptied hmerge).2 ha hc.made).2 hstays)
  refine ⟨u, a, hu, hstays, ⟨spec, os, hc⟩, ?_, fun c hmem => ?_, fun v hmem => ?_⟩
  · rw [emptied_placed, emptied_placed, hdrawn.emptied]
  · rw [containers_placed] at hmem
    obtain ⟨b, hb, hfeeds, hmem⟩ := hdrawn.containers c hmem
    obtain ⟨w, hwu, hwfeeds, spec, os, hcw⟩ := exists_feeds hunits hb hfeeds hu ⟨spec, os, hc⟩
    have hcore := List.mem_map_of_mem (f := Container.core) hmem
    rw [hcw.cores] at hcore
    obtain ⟨s, hs, hcore⟩ := List.mem_map.1 hcore
    exact ⟨w, hwu, hwfeeds, s, hs, hcore.symm⟩
  · rw [volumes_placed] at hmem
    obtain ⟨b, hb, hfeeds, hmem⟩ := hdrawn.volumes v hmem
    obtain ⟨w, hwu, hwfeeds, _, _, hcw⟩ := exists_feeds hunits hb hfeeds hu ⟨spec, os, hc⟩
    rw [hcw.volumes] at hmem
    exact ⟨w, hwu, hwfeeds, hmem⟩

/-- A unit that stays has a workload of its kind and name in the output. -/
theorem exists_workload_of_stays (hmerge : mergeJoins base services = ⟨merged, none⟩)
    (hu : u ∈ units) (hstays : u.Stays opt (Join.ofServices services)) :
    ∃ o ∈ arranged opt merged, o.kind = (u.chosen opt).name ∧ o.name = u.name := by
  obtain ⟨hemptied, hdeployments⟩ := mergeJoins_emptied hmerge
  obtain ⟨a, ha, spec, os, hc⟩ := exists_right hunits hu
  obtain ⟨ha, _⟩ := List.mem_filter.1 ha
  have hkey : a.key ∉ (Merging.departures base (Join.ofServices services)).map Object.key :=
    fun hmem => (key_mem_departures_iff hunits hdeployments ha hc.made).1 hmem hstays
  have hmem : a.emptied ∈ merged.map Object.emptied := by
    rw [hemptied]
    refine List.mem_map_of_mem (List.mem_filter.2 ⟨ha, ?_⟩)
    rwa [Bool.not_eq_true', ← Bool.not_eq_true, List.contains_iff_mem]
  obtain ⟨b, hb, he⟩ := List.mem_map.1 hmem
  obtain ⟨o, ho, hkey⟩ := exists_mem_arranged opt hb
  have hkind : o.kind = b.kind := (congrArg ObjectKey.kind hkey).trans kind_placed
  have hname : o.name = b.name := (congrArg ObjectKey.name hkey).trans name_placed
  refine ⟨o, ho, ?_, ?_⟩
  · rw [hkind, ← Object.kind_emptied, he, Object.kind_emptied, hc.made.kind_eq]
  · rw [hname, ← Object.name_emptied, he, Object.name_emptied, hc.made.name_eq]

end Units

/-- Every workload of a conversion comes from a unit that stays, and holds what belongs to services
of this unit or of others whose workloads are joined to it. -/
theorem exists_origin (h : convert services opt = .ok objects) (ho : o ∈ objects)
    (hw : o.isWorkload) : ∃ u a, WorkloadUnit.Origin (unitsOf (keyed services) opt.groupMode) opt
      (Join.ofServices services) u a o := by
  obtain ⟨made, merged, hmade, hmerge, rfl⟩ := convert_ok h
  rw [← ofServices_enrolled opt.groupMode]
  exact exists_origin_of_mem (workloads_made (fun _ => members_ne_nil) hmade) hmerge ho hw

/-- Every unit that stays has a workload in the output of a conversion. -/
theorem exists_workload (h : convert services opt = .ok objects) {u : WorkloadUnit}
    (hu : u ∈ unitsOf (keyed services) opt.groupMode)
    (hstays : u.Stays opt (Join.ofServices services)) :
    ∃ o ∈ objects, o.kind = (u.chosen opt).name ∧ o.name = u.name := by
  obtain ⟨made, merged, hmade, hmerge, rfl⟩ := convert_ok h
  rw [← ofServices_enrolled opt.groupMode] at hstays
  exact exists_workload_of_stays (workloads_made (fun _ => members_ne_nil) hmade) hmerge hu hstays

/-- A workload that takes no pods in is the one that a unit was converted to. -/
theorem exists_converted (h : convert services opt = .ok objects) (ho : o ∈ objects)
    (hw : o.isWorkload) (hd : o.isDeployment = false) :
    ∃ u ∈ unitsOf (keyed services) opt.groupMode,
      ∃ spec a os, u.Converted opt spec a os ∧ o = placed opt a := by
  obtain ⟨made, merged, hmade, hmerge, rfl⟩ := convert_ok h
  obtain ⟨a, ha, rfl⟩ := exists_of_mem_arranged ho
  rw [isWorkload_placed] at hw
  rw [isDeployment_placed] at hd
  have hbase := mem_of_mem_mergeJoins hmerge ha hd
  obtain ⟨u, hu, spec, os, hc⟩ := exists_left (workloads_made (fun _ => members_ne_nil) hmade)
    (List.mem_filter.2 ⟨hbase, hw⟩)
  exact ⟨u, hu, spec, a, os, hc, rfl⟩

end Manifests
