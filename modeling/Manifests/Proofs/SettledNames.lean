import Manifests.Proofs.Selection

/-! Names of objects that are made names of objects again, by what is made for a unit. The name of a
unit is one already, so all that is tied to the unit by its name finds it. -/
namespace Manifests

variable {services : Dict Service} {mode : Option String} {u : WorkloadUnit} {s : Service}
  {workload : String} {opt : Options}

theorem settled_unit (hu : u ∈ unitsOf services mode) : resourceName u.name = u.name := by
  obtain ⟨name, hname⟩ := exists_name_of_mem_unitsOf hu
  rw [hname, resourceName_resourceName]

/-- The config map of a volume belongs to the workload that the volume is made for. -/
theorem labels_of_configMap {p : ProvidedVolume} {m : ConfigMap}
    (hp : p ∈ s.providedVolumes workload opt) (hm : p.configMap = some m) :
    m.metadata.labels = some (selectorLabels (resourceName workload)) := by
  obtain ⟨⟨v, i⟩, _, rfl⟩ := List.mem_map.1 hp
  unfold Service.provide at hm
  dsimp only at hm
  split at hm
  · cases hm
  · split at hm <;> cases hm
  · cases hm
    rfl
  · cases hm

/-- A workload is named alike by all that names it as it is and by all that makes a name of an
object of it. -/
structure NamedAlike (workload : String) : Prop where
  selector : ∀ (s : Service) front, front ∈ s.fronts workload →
    front.selector = selectorLabels workload
  configMap : ∀ (s : Service) opt p m, p ∈ s.providedVolumes workload opt → p.configMap = some m →
    m.metadata.labels = some (selectorLabels workload)
  stem : ∀ s : Service, s.name = "" → s.volumeStem workload = workload

theorem namedAlike_of_settled (h : resourceName workload = workload) : NamedAlike workload where
  selector := by
    intro s front hfront
    rw [selector_of_mem_fronts hfront, h]
  configMap := by
    intro s opt p m hp hm
    rw [labels_of_configMap hp hm, h]
  stem := by
    intro s hname
    rw [Service.volumeStem, if_pos hname, h]

/-- A name of an object stays as it is when it is made one again: it has no underscore, and whatever
text it stands behind, none of its characters has another lower case. Units have such names from
the start. -/
theorem names_settled :
    (∀ s : String, resourceName (resourceName s) = resourceName s ∧
      '_' ∉ (resourceName s).toList ∧
      ∀ before, Text.lowerFrom before (resourceName s).toList = (resourceName s).toList) ∧
    ∀ services mode, ∀ u ∈ unitsOf services mode,
      resourceName u.name = u.name ∧ NamedAlike u.name := by
  constructor
  · intro s
    exact ⟨resourceName_resourceName, notMem_resourceName, fun _ => lowerFrom_resourceName⟩
  · intro services mode u hu
    exact ⟨settled_unit hu, namedAlike_of_settled (settled_unit hu)⟩

/-- Of the three sigmas two end a word, and the capital I with a dot becomes two characters. -/
def sigmaServices : Dict Service :=
  .ofList [("ΟΔΟΣ_ΣΑΣ_İ", { ports := [{ containerPort := 80 }] })]

theorem names_settled_sigma : ∃ u ∈ unitsOf (keyed sigmaServices) none,
    u.name = "οδος-σας-i\u0307" ∧ resourceName u.name = u.name ∧
      ∀ front ∈ u.members.flatMap (·.fronts u.name), front.selector = selectorLabels u.name := by
  obtain ⟨u, hu, hname⟩ : ∃ u ∈ unitsOf (keyed sigmaServices) none,
      u.name = "οδος-σας-i\u0307" := by
    decide +kernel
  obtain ⟨hsettled, halike⟩ := names_settled.2 (keyed sigmaServices) none u hu
  refine ⟨u, hu, hname, hsettled, fun front hfront => ?_⟩
  obtain ⟨s, _, hs⟩ := List.mem_flatMap.1 hfront
  exact halike.selector s front hs

end Manifests
