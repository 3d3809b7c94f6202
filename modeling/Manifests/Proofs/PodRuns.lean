import Manifests.Object.Manifest
import Manifests.Proofs.ContainerSteps

/-! What any run of steps makes of an empty pod. Volumes, mounts and secrets are added where there
is none of their name yet, and then they stay. -/
namespace Manifests

namespace Document

/-- The fields of a mapping. -/
def fields : Document → List (String × Document)
  | mapping fields => fields
  | _ => []

variable {α : Type} {k key : String} {v value : Document} {f : α → Document} {o : Option α}
  {l : List α} {b : Bool}

theorem mem_always : (k, v) ∈ always key value ↔ k = key ∧ v = value := by
  simp [always]

theorem mem_optional : (k, v) ∈ optional key f o ↔ k = key ∧ ∃ a, o = some a ∧ v = f a := by
  cases o <;> simp [optional]

theorem mem_unlessEmpty : (k, v) ∈ unlessEmpty key f l ↔ k = key ∧ l ≠ [] ∧ v = list f l := by
  rw [unlessEmpty]
  by_cases h : l = [] <;> simp [h]

theorem mem_flag : (k, v) ∈ flag key b ↔ k = key ∧ b ∧ v = boolean true := by
  cases b <;> simp [flag]

theorem nil_eq_list : sequence [] = list f l ↔ l = [] := by
  simp [list]

end Document

namespace Container

variable {c : Container} {s : Service} {step : PodStep}

/-- Every path is mounted once, and there is no list of mounts with nothing in it. -/
structure Tidy (c : Container) : Prop where
  paths : (c.mountList.map (·.path)).Nodup
  mounts : c.mounts ≠ some []

theorem tidy_of_mounts (h : c.mounts = none) : c.Tidy := by
  constructor
  · rw [mountList_of_mounts h]
    exact List.nodup_nil
  · simp [h]

theorem Tidy.addMounts {added : List VolumeMount} (h : c.Tidy) : (c.addMounts added).Tidy := by
  constructor
  · rw [mountList_addMounts]
    exact nodup_unionBy h.paths
  · exact nonempty?_ne_some_nil

theorem mountList_tune : (step.tune s c).mountList = unionMounts c.mountList step.addedMounts := by
  cases step with
  | mounts => exact mountList_addMounts
  | limits | requests | ports | imagePullPolicy =>
    simp only [PodStep.tune]
    split <;> rfl
  | addContainer | security | volumes | restartPolicy | hostname | domainname | gracePeriod |
    serviceAccount | spread | affinity | initContainers => rfl

theorem Tidy.tune (h : c.Tidy) : (step.tune s c).Tidy := by
  cases step with
  | mounts => exact h.addMounts
  | limits | requests | ports | imagePullPolicy =>
    simp only [PodStep.tune]
    split <;> exact ⟨h.paths, h.mounts⟩
  | addContainer | security | volumes | restartPolicy | hostname | domainname | gracePeriod |
    serviceAccount | spread | affinity | initContainers => exact ⟨h.paths, h.mounts⟩

theorem Tidy.notMem_fields (h : c.Tidy) : ("volumeMounts", .sequence []) ∉ c.document.fields := by
  intro hm
  have hnil : c.mounts = some [] := by
    simpa [document, Document.fields, Document.mem_always, Document.mem_optional,
      Document.mem_unlessEmpty, Document.mem_flag, Document.nil_eq_list] using hm
  exact h.mounts hnil

end Container

namespace PodSpec

variable {ctx : PodStep.Context} {step : PodStep} {steps : List PodStep}
  {moves later : List (PodStep.Context × PodStep)} {spec spec' spec'' : PodSpec}

/-- A run of steps, each of them for any service. The first that fails ends it. -/
def run (moves : List (PodStep.Context × PodStep)) (spec : PodSpec) : Except Failure PodSpec :=
  moves.foldlM (fun spec move => move.2.apply move.1 spec) spec

/-- All steps of one service are such a run. -/
theorem append_eq_run : spec.append ctx steps = spec.run (steps.map (ctx, ·)) := by
  rw [append, run, List.foldlM_map]

section Tidy

/-- Names, paths and secrets are there once, and no list is there with nothing in it. -/
structure Tidy (spec : PodSpec) : Prop where
  names : (spec.volumeList.map (·.name)).Nodup
  volumes : spec.volumes ≠ some []
  secrets : spec.secretList.Nodup
  imagePullSecrets : spec.imagePullSecrets ≠ some []
  containers : ∀ c ∈ spec.containers, c.Tidy
  initContainers : ∀ c ∈ spec.initContainers, c.Tidy

theorem tidy_empty : Tidy {} :=
  ⟨List.nodup_nil, by simp, List.nodup_nil, by simp, by simp, by simp⟩

theorem volumes_apply (h : step.apply ctx spec = .ok spec') (hne : spec.volumes ≠ some []) :
    spec'.volumes ≠ some [] := by
  rcases PodStep.apply_cases h with ⟨rfl, c, _, rfl⟩ | ⟨_, rfl, rfl⟩ | ⟨_, rfl, rfl⟩ | hplain
  · exact hne
  · exact nonempty?_ne_some_nil
  · exact hne
  · rw [hplain.volumes_eq]
    exact hne

/-- The list of secrets comes together with the first of them. -/
theorem imagePullSecrets_apply (h : step.apply ctx spec = .ok spec')
    (hne : spec.imagePullSecrets ≠ some []) : spec'.imagePullSecrets ≠ some [] := by
  rcases PodStep.apply_cases h with ⟨rfl, c, _, rfl⟩ | ⟨_, rfl, rfl⟩ | ⟨_, rfl, rfl⟩ | hplain
  · cases hs : filled ctx.service.imagePullSecret with
    | none => exact hne
    | some name => simp [addContainer, addNew_ne_nil]
  · exact hne
  · exact hne
  · rw [hplain.secrets_eq]
    exact hne

theorem Tidy.apply (ht : spec.Tidy) (h : step.apply ctx spec = .ok spec') : spec'.Tidy where
  names := by
    rw [PodStep.volumeList_apply h]
    exact nodup_unionBy ht.names
  volumes := volumes_apply h ht.volumes
  secrets := by
    have hkeys : (spec.secretList.map id).Nodup := by simpa using ht.secrets
    rw [PodStep.secretList_apply h]
    simpa using nodup_unionBy (m := step.addedSecrets ctx.service) hkeys
  imagePullSecrets := imagePullSecrets_apply h ht.imagePullSecrets
  containers c hc := by
    rw [PodStep.containers_apply h, PodStep.onContainers] at hc
    rcases List.mem_append.1 hc with hc | hc
    · rcases mem_changeFirst hc with hc | ⟨d, hd, rfl⟩
      · exact ht.containers c hc
      · exact (ht.containers d hd).tune
    · exact Container.tidy_of_mounts (mounts_of_newContainer (PodStep.newContainer_of_mem_added hc))
  initContainers c hc := by
    rw [PodStep.initContainers_apply h] at hc
    rcases List.mem_append.1 hc with hc | hc
    · exact ht.initContainers c hc
    · have hinit := PodStep.initContainer?_of_mem_addedInits hc
      exact Container.tidy_of_mounts (mounts_of_initContainer? hinit)

theorem Tidy.run (ht : spec.Tidy) (h : spec.run moves = .ok spec') : spec'.Tidy :=
  foldlM_keeps (fun _ _ _ _ h ht => Tidy.apply ht h) ht h

end Tidy

section Kept

/-- What the first pod has, the second one has in the same places, and maybe more behind it. -/
structure KeptIn (spec spec' : PodSpec) : Prop where
  volumes : spec.volumeList <+: spec'.volumeList
  secrets : spec.secretList <+: spec'.secretList
  mounts : ∀ (i : Nat) (c : Container), spec.containers[i]? = some c →
    ∃ c' : Container, spec'.containers[i]? = some c' ∧ c'.name = c.name ∧
      c.mountList <+: c'.mountList
  initContainers : spec.initContainers <+: spec'.initContainers

theorem KeptIn.refl : spec.KeptIn spec where
  volumes := List.prefix_refl _
  secrets := List.prefix_refl _
  mounts _ c hc := ⟨c, hc, rfl, List.prefix_refl _⟩
  initContainers := List.prefix_refl _

theorem KeptIn.trans (h : spec.KeptIn spec') (h' : spec'.KeptIn spec'') : spec.KeptIn spec'' where
  volumes := h.volumes.trans h'.volumes
  secrets := h.secrets.trans h'.secrets
  mounts i c hc := by
    obtain ⟨d, hd, hname, hmounts⟩ := h.mounts i c hc
    obtain ⟨e, he, hname', hmounts'⟩ := h'.mounts i d hd
    exact ⟨e, he, hname'.trans hname, hmounts.trans hmounts'⟩
  initContainers := h.initContainers.trans h'.initContainers

theorem keptIn_apply (h : step.apply ctx spec = .ok spec') : spec.KeptIn spec' where
  volumes := by
    rw [PodStep.volumeList_apply h]
    exact prefix_unionBy
  secrets := by
    rw [PodStep.secretList_apply h]
    exact prefix_unionBy
  mounts i c hc := by
    rcases PodStep.getElem?_apply h hc with hsame | ⟨_, htuned⟩
    · exact ⟨c, hsame, rfl, List.prefix_refl _⟩
    · refine ⟨_, htuned, PodStep.name_tune, ?_⟩
      rw [Container.mountList_tune]
      exact prefix_unionBy
  initContainers := by
    rw [PodStep.initContainers_apply h]
    exact List.prefix_append _ _

theorem keptIn_run (h : spec.run later = .ok spec') : spec.KeptIn spec' :=
  foldlM_keeps (P := spec.KeptIn) (fun _ _ _ _ h hkept => hkept.trans (keptIn_apply h))
    KeptIn.refl h

end Kept

/-- None of the lists is written with nothing in it. -/
structure FullyWritten (spec : PodSpec) : Prop where
  volumes : ("volumes", .sequence []) ∉ spec.document.fields
  secrets : ("imagePullSecrets", .sequence []) ∉ spec.document.fields
  mounts : ∀ c ∈ spec.containers ++ spec.initContainers,
    ("volumeMounts", .sequence []) ∉ c.document.fields

theorem Tidy.fullyWritten (h : spec.Tidy) : spec.FullyWritten where
  volumes := by
    intro hm
    have hnil : spec.volumes = some [] := by
      simpa [document, Document.fields, Document.mem_always, Document.mem_optional,
        Document.mem_unlessEmpty, Document.mem_flag, Document.nil_eq_list] using hm
    exact h.volumes hnil
  secrets := by
    intro hm
    have hnil : spec.imagePullSecrets = some [] := by
      simpa [document, Document.fields, Document.mem_always, Document.mem_optional,
        Document.mem_unlessEmpty, Document.mem_flag, Document.nil_eq_list] using hm
    exact h.imagePullSecrets hnil
  mounts c hc := by
    rcases List.mem_append.1 hc with hc | hc
    · exact (h.containers c hc).notMem_fields
    · exact (h.initContainers c hc).notMem_fields

/-- Of the volumes that all steps bring, the first of each name. -/
theorem volumeList_run (h : run moves {} = .ok spec) : spec.volumeList =
    firstOfEach Volume.name (moves.flatMap fun move => move.2.addedVolumes) := by
  rw [foldlM_observed volumeList (fun vs move => unionVolumes vs move.2.addedVolumes)
    (fun _ _ _ => PodStep.volumeList_apply) h]
  exact foldl_unionBy

/-- The pods that a run of steps makes of an empty one have every volume name, mount path and secret
once, and no list with nothing in it. A volume name means the first volume that a step brings
under it, and what is there stays where it is in all that comes after. -/
theorem invariant_of_run (h : run moves {} = .ok spec) :
    spec.Tidy ∧ spec.FullyWritten ∧
    (∀ name, spec.volumeList.find? (·.name = name) =
      (moves.flatMap fun move => move.2.addedVolumes).find? (·.name = name)) ∧
    ∀ later spec', spec.run later = .ok spec' → spec.KeptIn spec' := by
  have htidy : spec.Tidy := tidy_empty.run h
  refine ⟨htidy, htidy.fullyWritten, ?_, fun _ _ hlater => keptIn_run hlater⟩
  intro name
  rw [volumeList_run h]
  exact find?_firstOfEach

/-- Two services that want volumes of one name, and one of them mounts at one path twice. -/
def contendingMoves : List (PodStep.Context × PodStep) :=
  let web : PodStep.Context := ⟨{ name := "web", imagePullSecret := some "regcred" }, "web"⟩
  let api : PodStep.Context := ⟨{ name := "api", imagePullSecret := some "regcred" }, "web"⟩
  [(web, .addContainer),
    (web, .volumes [⟨"data", .emptyDir none⟩, ⟨"data", .hostPath "/srv"⟩]),
    (web, .mounts [{ name := "data", path := "/data" }, { name := "logs", path := "/data" }]),
    (api, .addContainer),
    (api, .volumes [⟨"data", .claim "data" false⟩]),
    (api, .mounts [])]

theorem invariant_of_run_contending : ∃ spec, run contendingMoves {} = .ok spec ∧ spec.Tidy ∧
    spec.volumeList.find? (·.name = "data") = some ⟨"data", .emptyDir none⟩ ∧
    spec.KeptIn (spec.addVolumes [⟨"data", .hostPath "/"⟩]) := by
  obtain ⟨spec, h⟩ : ∃ spec, run contendingMoves {} = .ok spec :=
    failure?_eq_none.1 (by decide +kernel)
  obtain ⟨htidy, _, hfirst, hkept⟩ := invariant_of_run h
  have hdata : (contendingMoves.flatMap fun move => move.2.addedVolumes).find? (·.name = "data") =
      some ⟨"data", .emptyDir none⟩ := by
    decide +kernel
  let later : PodStep.Context × PodStep := (⟨{}, "web"⟩, .volumes [⟨"data", .hostPath "/"⟩])
  exact ⟨spec, h, htidy, (hfirst "data").trans hdata, hkept [later] _ rfl⟩

end PodSpec

end Manifests
