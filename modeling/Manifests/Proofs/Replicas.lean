import Manifests.Proofs.Scaling

/-! What becomes of the number of pods that a service asks for. -/
namespace Manifests

variable {opt : Options} {objects : List Object} {o : Object}

namespace Object

/-- The number of pods of a workload, where it is written down. -/
def replicas? (o : Object) : Option Int :=
  match o.specified with
  | controller c => c.replicas
  | _ => none

/-- A workload whose number of pods can be written down. -/
def isCounted (o : Object) : Bool :=
  o.kind = WorkloadKind.deployment.name || o.kind = WorkloadKind.statefulSet.name ||
    o.kind = WorkloadKind.deploymentConfig.name

theorem replicas?_recreating : o.recreating.replicas? = o.replicas? := by
  cases o with
  | controller c => rcases c with ⟨_, form, _, _⟩; cases form <;> rfl
  | specless k m => cases k <;> rfl
  | pod | service | claim | configMap | autoscaler | networkPolicy => rfl

theorem replicas?_claiming {claims : List Claim} :
    (o.claiming claims).replicas? = o.replicas? := by
  cases o with
  | controller c => rcases c with ⟨_, form, _, _⟩; cases form <;> rfl
  | specless k m =>
    cases k with
    | statefulSet => rw [claiming]; split <;> rfl
    | deployment | daemonSet | deploymentConfig => rfl
  | pod | service | claim | configMap | autoscaler | networkPolicy => rfl

end Object

theorem isWorkload_of_isCounted (h : o.isCounted) : o.isWorkload := by
  rw [Object.isCounted, Bool.or_eq_true, Bool.or_eq_true, decide_eq_true_eq, decide_eq_true_eq,
    decide_eq_true_eq] at h
  rcases h with (h | h) | h <;> exact Object.isWorkload_of_kind_eq h

theorem isCounted_iff {kind : WorkloadKind} (h : o.kind = kind.name) :
    o.isCounted ↔ kind.isScalable := by
  rw [Object.isCounted, h]
  cases kind <;> decide

namespace WorkloadUnit

variable {u : WorkloadUnit} {kind : WorkloadKind} {primary : Service} {spec : PodSpec}

/-- One of the services of the unit has a label for an autoscaler. -/
def AsksForScaling (u : WorkloadUnit) : Prop := ∃ s ∈ u.members, ScaleValues.areAsked s.labels

instance : Decidable u.AsksForScaling := inferInstanceAs (Decidable (∃ _ ∈ _, _))

theorem isSome_autoscaled? (hkind : kind.isScalable) :
    (u.autoscaled? kind).isSome ↔ u.AsksForScaling := by
  rw [autoscaled?, if_pos hkind, List.find?_isSome]
  rfl

theorem replicas?_fill {replicas : Option Int} {labels annotations : Dict String}
    (hkind : kind.isScalable) :
    ((Object.newWorkload kind u.name primary replicas opt).fill (fillTemplate labels spec)
      (annotate annotations)).left.replicas? = writtenReplicas replicas := by
  cases kind with
  | deployment | statefulSet | deploymentConfig => rfl
  | daemonSet | pod => cases hkind

/-- The number that the first service asks for goes through the making of the workload as it is,
unless an autoscaler takes its place. -/
theorem replicas?_workload (hkind : kind.isScalable) :
    (u.workload primary kind opt spec).left.replicas? =
      writtenReplicas (if u.AsksForScaling then some 0 else primary.replicas) := by
  have hasked : (if (u.autoscaled? kind).isSome then some 0 else primary.replicas) =
      if u.AsksForScaling then some 0 else primary.replicas := by
    simp only [isSome_autoscaled? hkind]
  rw [← hasked, workload]
  dsimp only
  split
  · rw [Object.replicas?_claiming, Object.replicas?_recreating, replicas?_fill hkind]
  · exact replicas?_fill hkind

theorem exists_autoscaler_iff (hu : u.members ≠ []) (h : u.convert opt = .ok objects)
    (hkind : (u.chosen opt).isScalable) :
    (∃ scaler, .autoscaler scaler ∈ objects) ↔ u.AsksForScaling := by
  have hscaler : (∃ scaler, .autoscaler scaler ∈ objects) ↔ (u.scaler? opt).isSome := by
    simp only [autoscaler_mem_convert hu h, Option.isSome_iff_exists]
  rw [hscaler, scaler?, Option.isSome_map, isSome_autoscaled? hkind]

end WorkloadUnit

/-- The number of pods is missing where an autoscaler is among the objects, and only there. Else it
is the declared one, or one. -/
structure KeepsCount (objects : List Object) (declared : Option Int) (o : Object) : Prop where
  missing : o.replicas? = none ↔ ∃ scaler, .autoscaler scaler ∈ objects
  count : (¬ ∃ scaler, .autoscaler scaler ∈ objects) → o.replicas? = some (declared.getD 1)

theorem writtenReplicas_eq_none_iff {n : Option Int} : writtenReplicas n = none ↔ n = some 0 := by
  cases n with
  | none => simp [writtenReplicas]
  | some n => by_cases hn : n = 0 <;> simp [writtenReplicas, hn]

theorem writtenReplicas_of_ne {n : Option Int} (h : n ≠ some 0) :
    writtenReplicas n = some (n.getD 1) := by
  cases n with
  | none => rfl
  | some n =>
    have hn : n ≠ 0 := fun hn => h (congrArg some hn)
    rw [writtenReplicas, if_neg hn, Option.getD_some]

theorem keepsCount_iff {asked : Prop} [Decidable asked] {declared : Option Int}
    (hasked : (∃ scaler, .autoscaler scaler ∈ objects) ↔ asked)
    (ho : o.replicas? = writtenReplicas (if asked then some 0 else declared)) :
    KeepsCount objects declared o ↔ asked ∨ declared ≠ some 0 := by
  by_cases h : asked
  · rw [if_pos h] at ho
    refine iff_of_true ⟨?_, fun hnone => (hnone (hasked.2 h)).elim⟩ (.inl h)
    exact iff_of_true ho (hasked.2 h)
  · rw [if_neg h] at ho
    have hnone : ¬ ∃ scaler, .autoscaler scaler ∈ objects := fun hsome => h (hasked.1 hsome)
    rw [or_iff_right h]
    constructor
    · intro hkeeps hzero
      exact hnone (hkeeps.missing.1 (ho.trans (writtenReplicas_eq_none_iff.2 hzero)))
    · intro hdeclared
      have hcount := ho.trans (writtenReplicas_of_ne hdeclared)
      exact ⟨iff_of_false (by simp [hcount]) hnone, fun _ => hcount⟩

/-- An autoscaler stands beside the workload exactly where one of the services asks for it. The
number of pods that the first service declares is kept, but for zero: a zero is how the number is
left to an autoscaler, and it is left out where there is none as well. -/
theorem keeps_count_iff_nonzero {u : WorkloadUnit} (h : u.convert opt = .ok objects)
    (ho : o ∈ objects) (hcounted : o.isCounted) :
    objects.filter (·.isWorkload) = [o] ∧ ∃ primary, u.members.head? = some primary ∧
      ((∃ scaler, .autoscaler scaler ∈ objects) ↔ u.AsksForScaling) ∧
      (KeepsCount objects primary.replicas o ↔ u.AsksForScaling ∨ primary.replicas ≠ some 0) ∧
      (primary.replicas = some 0 → o.replicas? = none) := by
  have hu : u.members ≠ [] := by
    intro hnil
    rw [WorkloadUnit.convert, hnil] at h
    cases h
    cases ho
  obtain ⟨spec, a, hc⟩ := WorkloadUnit.convert_ok hu h
  obtain ⟨primary, hprimary, ha⟩ := hc.workload_eq
  have hself : o ∈ objects.filter (·.isWorkload) :=
    List.mem_filter.2 ⟨ho, isWorkload_of_isCounted hcounted⟩
  rw [hc.workloads, List.mem_singleton] at hself
  subst hself
  have hkind := (isCounted_iff hc.made.kind_eq).1 hcounted
  have hasked := WorkloadUnit.exists_autoscaler_iff hu h hkind
  have hreplicas : o.replicas? =
      writtenReplicas (if u.AsksForScaling then some 0 else primary.replicas) := by
    rw [ha]
    exact WorkloadUnit.replicas?_workload hkind
  refine ⟨hc.workloads, primary, hprimary, hasked, keepsCount_iff hasked hreplicas, fun hzero => ?_⟩
  rw [hreplicas, hzero, ite_self]
  rfl

/-- A unit of one service, with a number of pods. -/
def countedUnit (n : Int) : WorkloadUnit := ⟨"web", [{ image := "nginx", replicas := some n }]⟩

/-- Its objects are its workload, without an autoscaler. -/
theorem convert_counted : ∀ n ∈ [0, 2], ((countedUnit n).convert {}).isOk ∧
    ¬ (countedUnit n).AsksForScaling ∧
    ∃ o ∈ ((countedUnit n).convert {}).toOption.getD [], o.isCounted ∧
      (o.replicas? = none ↔ n = 0) ∧
      ∀ a ∈ ((countedUnit n).convert {}).toOption.getD [], a = o := by
  decide +kernel

/-- Two pods are two pods, but no pods are as many as the cluster makes of a missing number. -/
theorem keeps_count_iff_nonzero_counted :
    (∃ objects o, (countedUnit 2).convert {} = .ok objects ∧ o ∈ objects ∧
      KeepsCount objects (some 2) o) ∧
    ∃ objects o, (countedUnit 0).convert {} = .ok objects ∧ o ∈ objects ∧
      ¬ KeepsCount objects (some 0) o ∧ o.replicas? = none := by
  constructor
  · obtain ⟨hok, _, o, ho, hcounted, _⟩ := convert_counted 2 (by decide)
    obtain ⟨_, primary, hprimary, _, hkeeps, _⟩ :=
      keeps_count_iff_nonzero (ok_of_isOk hok) ho hcounted
    cases hprimary
    exact ⟨_, o, ok_of_isOk hok, ho, hkeeps.2 (.inr (by decide))⟩
  · obtain ⟨hok, hasked, o, ho, hcounted, _⟩ := convert_counted 0 (by decide)
    obtain ⟨_, primary, hprimary, _, hkeeps, hnone⟩ :=
      keeps_count_iff_nonzero (ok_of_isOk hok) ho hcounted
    cases hprimary
    refine ⟨_, o, ok_of_isOk hok, ho, fun h => ?_, hnone rfl⟩
    rcases hkeeps.1 h with h | h
    · exact hasked h
    · exact h rfl

/-- A service that asks for no pods gets a workload without a number. -/
theorem not_all_counts_kept : ¬ ∀ (u : WorkloadUnit) (opt : Options) (objects : List Object)
    (o : Object) (primary : Service), u.convert opt = .ok objects → o ∈ objects → o.isCounted →
      u.members.head? = some primary → KeepsCount objects primary.replicas o := by
  intro h
  obtain ⟨hok, _, o, ho, hcounted, hzero, honly⟩ := convert_counted 0 (by decide)
  have hkeeps := h (countedUnit 0) {} _ o _ (ok_of_isOk hok) ho hcounted rfl
  obtain ⟨scaler, hscaler⟩ := hkeeps.missing.1 (hzero.2 rfl)
  rw [← honly _ hscaler] at hcounted
  cases hcounted

end Manifests
