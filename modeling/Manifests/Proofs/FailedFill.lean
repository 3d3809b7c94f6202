import Manifests.Proofs.Contents
import Manifests.Workload

/-! What is left of a workload whose template could not be filled. -/
namespace Manifests

namespace Object

variable {o : Object} {t t' : PodTemplate} {failure : Failure}
  {fillTemplate : PodTemplate → Attempt PodTemplate} {fillMetadata : Metadata → Metadata}

/-- The template that is to be filled: that of a controller, or one that a bare pod lends its
metadata and spec to. -/
def lentTemplate? (o : Object) : Option PodTemplate :=
  match o.specified with
  | controller c => some c.template
  | pod p => some ⟨some p.metadata, p.spec⟩
  | _ => none

/-- The object with its template as a filling left it that failed. -/
def abandoned (t : PodTemplate) (o : Object) : Object :=
  match o.specified with
  | controller c => controller { c with template := t }
  | pod p => pod { p with spec := none }
  | other => other

/-- Nothing is made for a filling that was not there, and nothing is lent to it. -/
def IsWhole : Object → Prop
  | specless .. => False
  | pod p => p.spec = none
  | _ => True

theorem isSome_lentTemplate? : o.lentTemplate?.isSome = o.isWorkload := by
  cases o <;> rfl

@[simp] theorem metadata_abandoned : (o.abandoned t).metadata = o.metadata := by
  cases o <;> rfl

theorem fill_of_failed (ht : o.lentTemplate? = some t) (h : fillTemplate t = ⟨t', some failure⟩) :
    o.fill fillTemplate fillMetadata = ⟨o.abandoned t', some failure⟩ := by
  rw [lentTemplate?] at ht
  rw [fill, abandoned]
  cases hspec : o.specified with
  | controller | pod =>
    rw [hspec] at ht
    cases ht
    simp only [h]
  | specless | service | claim | configMap | autoscaler | networkPolicy =>
    rw [hspec] at ht
    cases ht

theorem fill_of_not_workload (h : o.lentTemplate? = none) :
    o.fill fillTemplate fillMetadata = ⟨o, some (.unsupportedVariant o.kind)⟩ := by
  cases o with
  | controller | specless | pod => cases h
  | service | claim | configMap | autoscaler | networkPolicy => rfl

/-- A controller keeps what the filling left, with what was missing made up. -/
theorem abandoned_eq_specified (ht : o.lentTemplate? = some t) (hpod : ∀ p, o ≠ pod p) :
    o.abandoned t = o.specified := by
  cases o with
  | controller | specless =>
    cases ht
    rfl
  | pod p => exact (hpod p rfl).elim
  | service | claim | configMap | autoscaler | networkPolicy => cases ht

theorem abandoned_eq_self_iff (ht : o.lentTemplate? = some t) : o.abandoned t = o ↔ o.IsWhole := by
  cases o with
  | controller c =>
    cases ht
    exact iff_of_true rfl trivial
  | specless k m =>
    refine iff_of_false (fun h => ?_) id
    cases h
  | pod p =>
    rcases p with ⟨metadata, spec⟩
    change pod ⟨metadata, none⟩ = pod ⟨metadata, spec⟩ ↔ spec = none
    rw [pod.injEq, Pod.mk.injEq]
    exact ⟨fun h => h.2.symm, fun h => ⟨rfl, h.symm⟩⟩
  | service | claim | configMap | autoscaler | networkPolicy => cases ht

/-- What a filling leaves of an object if it fails and has not changed the template. -/
structure Left (o left : Object) : Prop where
  metadata : left.metadata = o.metadata
  /-- What was missing has been made up, and that is all. -/
  specified : (∀ p, o ≠ .pod p) → left = o.specified
  /-- The spec that a bare pod has lent is lost. -/
  pod : ∀ p, o = .pod p → left = .pod { p with spec := none }
  unchanged_iff : left = o ↔ o.IsWhole

theorem left_of_not_workload (h : o.lentTemplate? = none) : o.Left o := by
  cases o with
  | controller | specless | pod => cases h
  | service | claim | configMap | autoscaler | networkPolicy =>
    refine ⟨rfl, fun _ => rfl, fun p hp => ?_, iff_of_true rfl trivial⟩
    cases hp

theorem left_abandoned (h : o.lentTemplate? = some t) : o.Left (o.abandoned t) where
  metadata := metadata_abandoned
  specified := abandoned_eq_specified h
  pod := by
    rintro p rfl
    rfl
  unchanged_iff := abandoned_eq_self_iff h

/-- A filling that fails without a change to the template fails as a whole, and what is no workload
is refused. The object is left as it was unless a template had to be made for the filling, which
stays, or a bare pod had lent its spec, which is lost. -/
theorem failed_fill_unchanged_iff (fillMetadata : Metadata → Metadata)
    (h : ∀ t, o.lentTemplate? = some t → ∃ failure, fillTemplate t = ⟨t, some failure⟩) :
    ∃ left failure, o.fill fillTemplate fillMetadata = ⟨left, some failure⟩ ∧ o.Left left ∧
      (o.isWorkload = false → failure = .unsupportedVariant o.kind) ∧
      ∀ t, o.lentTemplate? = some t → fillTemplate t = ⟨t, some failure⟩ := by
  cases ht : o.lentTemplate? with
  | none =>
    refine ⟨o, _, fill_of_not_workload ht, left_of_not_workload ht, fun _ => rfl, fun t ht => ?_⟩
    cases ht
  | some t =>
    obtain ⟨failure, hfail⟩ := h t ht
    refine ⟨o.abandoned t, failure, fill_of_failed ht hfail, left_abandoned ht, fun hno => ?_,
      fun t' ht' => ?_⟩
    · rw [← isSome_lentTemplate?, ht] at hno
      cases hno
    · cases ht'
      exact hfail

/-- A workload for a service that is not started again. -/
def job (kind : WorkloadKind) : Object :=
  newWorkload kind "job" { image := "busybox", restart := "no" } none {}

def refuse (t : PodTemplate) : Attempt PodTemplate := ⟨t, some (.malformedHealthCheck "job")⟩

theorem failed_fill_unchanged_iff_job :
    (∃ failure, (job .deployment).fill refuse id = ⟨job .deployment, some failure⟩) ∧
    ∃ left failure, (job .pod).fill refuse id = ⟨left, some failure⟩ ∧ left ≠ job .pod := by
  constructor
  · obtain ⟨left, failure, h, hleft, _⟩ :=
      failed_fill_unchanged_iff (o := job .deployment) id fun t _ => ⟨_, rfl⟩
    exact ⟨failure, hleft.unchanged_iff.2 trivial ▸ h⟩
  · obtain ⟨left, failure, h, hleft, _⟩ :=
      failed_fill_unchanged_iff (o := job .pod) id fun t _ => ⟨_, rfl⟩
    exact ⟨left, failure, h, fun hsame => by cases hleft.unchanged_iff.1 hsame⟩

theorem not_all_left_alone : ¬ ∀ (o : Object) (fillTemplate : PodTemplate → Attempt PodTemplate)
    (fillMetadata : Metadata → Metadata),
    (∀ t, ∃ failure, fillTemplate t = ⟨t, some failure⟩) →
      ∃ failure, o.fill fillTemplate fillMetadata = ⟨o, some failure⟩ := by
  intro h
  obtain ⟨failure, hleft⟩ := h (job .pod) refuse id fun t => ⟨_, rfl⟩
  cases hleft

end Object

end Manifests
