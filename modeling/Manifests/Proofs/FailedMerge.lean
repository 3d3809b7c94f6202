import Manifests.Proofs.MergeFrame

/-! What a merge that fails leaves behind. -/
namespace Manifests

variable {objects left : List Object} {joins : List Join} {services : Dict Service}
  {failure : Failure} {j : Join}

theorem changeFirstWhere_append {α : Type} {p : α → Bool} {f : α → α} {l l' : List α} {a : α}
    (hl : ∀ b ∈ l, ¬ p b) (ha : p a) :
    changeFirstWhere p f (l ++ a :: l') = l ++ f a :: l' := by
  induction l with
  | nil => rw [List.nil_append, changeFirstWhere, if_pos ha, List.nil_append]
  | cons b l ih =>
    rw [List.cons_append, changeFirstWhere, if_neg (hl b List.mem_cons_self),
      ih fun c hc => hl c (List.mem_cons_of_mem b hc), List.cons_append]

theorem PodSpec.absorb_eq_self {spec : PodSpec} {volumes : List Volume}
    (h : ∀ v ∈ volumes, v.name ∈ spec.volumeList.map Volume.name) :
    spec.absorb [] volumes = spec := by
  have hvolumes : (if volumes = [] then spec.volumes
      else some (unionVolumes (spec.volumes.getD []) volumes)) = spec.volumes := by
    split
    · rfl
    · rename_i hne
      have hunion : unionVolumes (spec.volumes.getD []) volumes = spec.volumes.getD [] :=
        unionBy_of_forall_mem h
      obtain ⟨v, hv⟩ := List.exists_mem_of_ne_nil _ hne
      rw [hunion]
      cases hspec : spec.volumes with
      | none =>
        have hmem := h v hv
        rw [volumeList, hspec] at hmem
        cases hmem
      | some l => rfl
  rw [absorb, hvolumes, List.append_nil]

namespace Object

variable {o s t : Object} {source : Option PodSpec}

/-- How much there is of a workload's pod: whether it is specified, its containers and volumes. -/
def load (o : Object) : Nat :=
  o.podSpec?.toList.length + o.containers.length + o.volumes.length

/-- The pod of `s` has something that the pod of `t` has not. -/
def Adds (s t : Object) : Prop :=
  t.podSpec? = none ∨ s.containers ≠ [] ∨ ∃ v ∈ s.volumes, v.name ∉ t.volumes.map Volume.name

theorem isSome_podSpec?_absorb (h : o.isDeployment) : (o.absorb source).podSpec?.isSome := by
  cases o with
  | controller | specless => rfl
  | pod | service | claim | configMap | autoscaler | networkPolicy => cases h

theorem absorb_eq_self (h : t.isDeployment) (hadds : ¬ s.Adds t) : t.absorb s.podSpec? = t := by
  rw [Adds, not_or, not_or, not_not] at hadds
  obtain ⟨hspec, hcontainers, hvolumes⟩ := hadds
  have hvolumes : ∀ v ∈ s.volumes, v.name ∈ t.volumes.map Volume.name := by
    intro v hv
    by_contra hnew
    exact hvolumes ⟨v, hv, hnew⟩
  cases t with
  | controller c =>
    rcases c with ⟨metadata, form, selector, ⟨labels, spec⟩⟩
    obtain ⟨spec, rfl⟩ := Option.ne_none_iff_exists'.1 hspec
    have hsame : spec.absorb s.containers s.volumes = spec := by
      rw [hcontainers]
      exact PodSpec.absorb_eq_self hvolumes
    exact congrArg (fun spec => controller ⟨metadata, form, selector, ⟨labels, some spec⟩⟩) hsame
  | specless k m => exact (hspec rfl).elim
  | pod | service | claim | configMap | autoscaler | networkPolicy => cases h

theorem load_absorb_lt (h : t.isDeployment) (hadds : s.Adds t) :
    t.load < (t.absorb s.podSpec?).load := by
  have hpod : (t.absorb s.podSpec?).podSpec?.toList.length = 1 := by
    have hsome : (t.absorb s.podSpec?).podSpec?.isSome := isSome_podSpec?_absorb h
    obtain ⟨spec, hspec⟩ := Option.isSome_iff_exists.1 hsome
    rw [hspec]
    rfl
  have hpod_le : t.podSpec?.toList.length ≤ 1 := by
    cases t.podSpec? <;> simp
  have hcontainers : (t.absorb s.podSpec?).containers.length =
      t.containers.length + s.containers.length := by
    rw [containers_absorb h, List.length_append]
    rfl
  have hgrown : t.volumes <+: (t.absorb s.podSpec?).volumes := by
    rw [volumes_absorb h]
    exact prefix_unionBy
  have hvolumes := hgrown.length_le
  rw [load, load]
  rcases hadds with hnone | hsome | ⟨v, hv, hnew⟩
  · have hzero : t.podSpec?.toList.length = 0 := by
      rw [hnone]
      rfl
    omega
  · have hpos := List.length_pos_iff.2 hsome
    omega
  · have hmore : t.volumes.length ≠ (t.absorb s.podSpec?).volumes.length := by
      intro hlen
      rw [hgrown.eq_of_length hlen, volumes_absorb h] at hnew
      exact hnew (mem_map_unionBy.2 (Or.inr (List.mem_map_of_mem hv)))
    omega

end Object

def ObjectList.load : List Object → Nat
  | [] => 0
  | o :: objects => o.load + load objects

theorem ObjectList.load_append {l l' : List Object} : load (l ++ l') = load l + load l' := by
  induction l with
  | nil => rw [List.nil_append, load, Nat.zero_add]
  | cons o l ih => rw [List.cons_append, load, load, ih, Nat.add_assoc]

namespace Join

/-- The pod of the source adds something to that of the target. -/
def Moves (objects : List Object) (j : Join) : Prop :=
  ∃ s t, ObjectList.workload? j.source objects = some s ∧
    ObjectList.workload? j.target objects = some t ∧ s.Adds t

/-- The source has a workload, and the target has none or one of them is no deployment. -/
def Blocked (objects : List Object) (j : Join) (failure : Failure) : Prop :=
  ∃ s, ObjectList.workload? j.source objects = some s ∧
    ((ObjectList.workload? j.target objects = none ∧
        failure = .mergeTargetMissing j.source j.target) ∨
      ∃ t, ObjectList.workload? j.target objects = some t ∧
        ¬ (s.isDeployment ∧ t.isDeployment) ∧
        failure = .unsupportedMerge s.name s.kind t.name t.kind)

theorem exists_workload?_of_emptied {l l' : List Object} {n : String} {o : Object}
    (h : l.map Object.emptied = l'.map Object.emptied) (ho : ObjectList.workload? n l = some o) :
    ∃ o', ObjectList.workload? n l' = some o' ∧ o'.emptied = o.emptied := by
  apply Option.map_eq_some_iff.1
  rw [Merging.emptied_workload?, ← h, ← Merging.emptied_workload?, ho]
  rfl

/-- Whether a join fails does not hang on what the workloads contain. -/
theorem Blocked.of_emptied {l l' : List Object} (h : l.map Object.emptied = l'.map Object.emptied)
    (hb : j.Blocked l failure) : j.Blocked l' failure := by
  obtain ⟨s, hs, hb⟩ := hb
  obtain ⟨s', hs', hes⟩ := exists_workload?_of_emptied h hs
  refine ⟨s', hs', ?_⟩
  rcases hb with ⟨ht, rfl⟩ | ⟨t, ht, hd, rfl⟩
  · refine Or.inl ⟨?_, rfl⟩
    rw [← Option.map_eq_none_iff, Merging.emptied_workload?, ← h, ← Merging.emptied_workload?, ht]
    rfl
  · obtain ⟨t', ht', het⟩ := exists_workload?_of_emptied h ht
    refine Or.inr ⟨t', ht', ?_, ?_⟩
    · rwa [← s'.isDeployment_emptied, ← t'.isDeployment_emptied, hes, het,
        Object.isDeployment_emptied, Object.isDeployment_emptied]
    · rw [← s'.name_emptied, ← s'.kind_emptied, ← t'.name_emptied, ← t'.kind_emptied, hes, het]
      simp

end Join

namespace Merging

variable {m m' : Merging}

theorem step_error_iff : m.step j = .error failure ↔ j.Blocked m.objects failure := by
  rw [step, Join.Blocked]
  cases ObjectList.workload? j.source m.objects with
  | none => simp
  | some s =>
    cases ObjectList.workload? j.target m.objects with
    | none =>
      constructor
      · intro h
        cases h
        exact ⟨s, rfl, Or.inl ⟨rfl, rfl⟩⟩
      · rintro ⟨_, _, ⟨_, rfl⟩ | ⟨t, ht, _⟩⟩
        · rfl
        · cases ht
    | some t =>
      have hd : (s.isDeployment && t.isDeployment) = true ↔ s.isDeployment ∧ t.isDeployment := by
        rw [Bool.and_eq_true]
      constructor
      · intro h
        dsimp only at h
        split at h
        · cases h
        · rename_i hno
          cases h
          exact ⟨s, rfl, Or.inr ⟨t, rfl, fun h => hno (hd.2 h), rfl⟩⟩
      · rintro ⟨_, hs, ⟨ht, _⟩ | ⟨_, ht, hno, rfl⟩⟩
        · cases ht
        · cases hs
          cases ht
          exact if_neg fun h => hno (hd.1 h)

/-- A step leaves everything as it was, or there is more in a pod afterwards. -/
theorem step_growth (h : m.step j = .ok m') :
    (m'.objects = m.objects ∧ ¬ j.Moves m.objects) ∨
    (ObjectList.load m.objects < ObjectList.load m'.objects ∧ j.Moves m.objects) := by
  rcases step_cases h with ⟨hs, rfl⟩ | ⟨s, t, hs, ht, _, hdt, rfl⟩
  · refine Or.inl ⟨rfl, ?_⟩
    rintro ⟨s, t, hs', _⟩
    rw [hs] at hs'
    cases hs'
  · obtain ⟨hpt, before, after, hsplit, hbefore⟩ := List.find?_eq_some_iff_append.1 ht
    have hfirst : ∀ o ∈ before, ¬ (o.isDeployment && o.name = j.target) := by
      intro o ho hd
      rw [Bool.and_eq_true] at hd
      have hno := hbefore o ho
      rw [Object.isWorkload_of_isDeployment hd.1, hd.2] at hno
      cases hno
    have hpick : (t.isDeployment && t.name = j.target) := by
      rw [Bool.and_eq_true] at hpt ⊢
      exact ⟨hdt, hpt.2⟩
    dsimp only
    rw [hsplit] at hs ht
    rw [hsplit, changeFirstWhere_append hfirst hpick]
    by_cases hadds : s.Adds t
    · refine Or.inr ⟨?_, s, t, hs, ht, hadds⟩
      have hlt := Object.load_absorb_lt hdt hadds
      rw [ObjectList.load_append, ObjectList.load_append, ObjectList.load, ObjectList.load]
      omega
    · refine Or.inl ⟨by rw [Object.absorb_eq_self hdt hadds], ?_⟩
      rintro ⟨s', t', hs', ht', hadds'⟩
      rw [hs] at hs'
      rw [ht] at ht'
      cases hs'
      cases ht'
      exact hadds hadds'

/-- The same of a run, by induction: as long as nothing has moved, the next join finds the objects
of the beginning, and what has moved is never taken back. -/
theorem run_growth (h : m.run joins = ⟨m', none⟩) :
    (m'.objects = m.objects ∧ ∀ r ∈ joins, ¬ r.Moves m.objects) ∨
    (ObjectList.load m.objects < ObjectList.load m'.objects ∧ ∃ r ∈ joins, r.Moves m.objects) := by
  induction joins generalizing m with
  | nil =>
    cases h
    exact Or.inl ⟨rfl, fun r hr => by cases hr⟩
  | cons j joins ih =>
    obtain ⟨m₁, hs, hr⟩ := run_cons h
    rcases step_growth hs with ⟨hsame, hj⟩ | ⟨hlt, hj⟩
    · have hrest := ih hr
      rw [hsame] at hrest
      rcases hrest with ⟨hsame', hrest⟩ | ⟨hlt, r, hr, hmoves⟩
      · exact Or.inl ⟨hsame', List.forall_mem_cons.2 ⟨hj, hrest⟩⟩
      · exact Or.inr ⟨hlt, r, List.mem_cons_of_mem j hr, hmoves⟩
    · refine Or.inr ⟨?_, j, List.mem_cons_self, hj⟩
      rcases ih hr with ⟨hsame, _⟩ | ⟨hlt', _⟩
      · rwa [hsame]
      · exact Nat.lt_trans hlt hlt'

theorem run_eq_iff (h : m.run joins = ⟨m', none⟩) :
    m'.objects = m.objects ↔ ∀ r ∈ joins, ¬ r.Moves m.objects := by
  rcases run_growth h with ⟨hsame, hnone⟩ | ⟨hlt, r, hr, hmoves⟩
  · exact iff_of_true hsame hnone
  · refine iff_of_false (fun hsame => ?_) fun hnone => hnone r hr hmoves
    rw [hsame] at hlt
    exact Nat.lt_irrefl _ hlt

theorem not_blocked_of_run (h : m.run joins = ⟨m', none⟩) :
    ∀ r ∈ joins, ¬ r.Blocked m.objects failure := by
  induction joins generalizing m with
  | nil => exact fun r hr => by cases hr
  | cons j joins ih =>
    obtain ⟨m₁, hs, hr⟩ := run_cons h
    refine List.forall_mem_cons.2 ⟨fun hb => ?_, fun r hmem hb => ?_⟩
    · rw [step_error_iff.2 hb] at hs
      cases hs
    · exact ih hr r hmem (hb.of_emptied (step_emptied hs).1.symm)

/-- A run that fails has carried out the joins before the one at which it fails. -/
theorem run_error (h : m.run joins = ⟨m', some failure⟩) : ∃ before j after,
    joins = before ++ j :: after ∧ m.run before = ⟨m', none⟩ ∧ m'.step j = .error failure := by
  induction joins generalizing m with
  | nil => cases h
  | cons j joins ih =>
    rw [run] at h
    cases hs : m.step j with
    | error f =>
      simp only [hs] at h
      cases h
      exact ⟨[], j, joins, rfl, rfl, hs⟩
    | ok m₁ =>
      simp only [hs] at h
      obtain ⟨before, i, after, rfl, hrun, hfail⟩ := ih h
      refine ⟨j :: before, i, after, rfl, ?_, hfail⟩
      rw [run, hs]
      exact hrun

end Merging

/-- A merge that has stopped at the join `j`, with those `before` it carried out. -/
structure Halted (objects left : List Object) (before : List Join) (j : Join) (failure : Failure) :
    Prop where
  passed : ∀ r ∈ before, ∀ f, ¬ r.Blocked objects f
  blocked : j.Blocked objects failure
  /-- Nothing is taken back. -/
  run : ∃ moved, Merging.run ⟨objects, []⟩ before = ⟨⟨left, moved⟩, none⟩
  emptied : left.map Object.emptied = objects.map Object.emptied
  unchanged_iff : left = objects ↔ ∀ r ∈ before, ¬ r.Moves objects

/-- A merge that fails has not begun, or it stops at the first join that is blocked. Then the pods
of the joins before it have moved and stay where they are, so the objects are the same as before
exactly when none of these pods has added anything. -/
theorem failed_merge_unchanged_iff (h : mergeJoins objects services = ⟨left, some failure⟩) :
    (Join.resolveAll objects (Join.ofServices services) = .error failure ∧ left = objects) ∨
    ∃ before j after,
      Join.resolveAll objects (Join.ofServices services) = .ok (before ++ j :: after) ∧
      Halted objects left before j failure := by
  rw [mergeJoins] at h
  cases hf : Join.resolveAll objects (Join.ofServices services) with
  | error f =>
    simp only [hf] at h
    cases h
    exact Or.inl ⟨rfl, rfl⟩
  | ok final =>
    simp only [hf] at h
    split at h
    · rename_i m f hrun
      cases h
      obtain ⟨before, j, after, rfl, hbefore, hfail⟩ := Merging.run_error hrun
      have hemptied := (Merging.run_emptied hbefore).1
      refine Or.inr ⟨before, j, after, rfl, ?_⟩
      exact {
        passed := fun r hr f => Merging.not_blocked_of_run hbefore r hr
        blocked := (Merging.step_error_iff.1 hfail).of_emptied hemptied
        run := ⟨m.moved, hbefore⟩
        emptied := hemptied
        unchanged_iff := Merging.run_eq_iff hbefore }
    · cases h

/-- The second of two joins goes to a workload that is not there. -/
def strandedServices : Dict Service :=
  .ofList [("cache", { networkMode := "service:web" }), ("web", {}),
    ("worker", { networkMode := "service:store" })]

def strandedObjects : List Object :=
  ["cache", "web", "worker"].map fun name => plainDeployment name [name]

/-- The container of `cache` stands in two deployments. -/
theorem mergeJoins_stranded : mergeJoins strandedObjects strandedServices =
    ⟨[plainDeployment "cache" ["cache"], plainDeployment "web" ["web", "cache"],
        plainDeployment "worker" ["worker"]],
      some (.mergeTargetMissing "worker" "store")⟩ := by
  decide +kernel

theorem failed_merge_unchanged_iff_stranded : ∃ left before j after,
    Join.resolveAll strandedObjects (Join.ofServices strandedServices) =
      .ok (before ++ j :: after) ∧
    Halted strandedObjects left before j (.mergeTargetMissing "worker" "store") ∧
    left ≠ strandedObjects := by
  have hne : [plainDeployment "cache" ["cache"], plainDeployment "web" ["web", "cache"],
      plainDeployment "worker" ["worker"]] ≠ strandedObjects := by
    decide +kernel
  rcases failed_merge_unchanged_iff mergeJoins_stranded with ⟨_, hsame⟩ | ⟨before, j, after, h⟩
  · exact (hne hsame).elim
  · exact ⟨_, before, j, after, h.1, h.2, hne⟩

theorem not_all_unchanged : ¬ ∀ (objects : List Object) (services : Dict Service)
    (left : List Object) (failure : Failure),
    mergeJoins objects services = ⟨left, some failure⟩ → left = objects := by
  intro h
  have hsame := h strandedObjects strandedServices _ _ mergeJoins_stranded
  revert hsame
  decide +kernel

end Manifests
