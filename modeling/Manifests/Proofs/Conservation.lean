import Mathlib.Data.List.Perm.Lattice
import Manifests.Proofs.Conversion

/-! Each service has its container in the output, and the joins say in which workload. -/
namespace Manifests

section Lists

variable {α β κ γ : Type} {f : α → κ} {l : List α}

/-- Elements sorted under different names, all of which are listed, are all there. -/
theorem flatMap_filter_perm [DecidableEq κ] {names : List κ} (hnodup : names.Nodup)
    (hall : ∀ a ∈ l, f a ∈ names) : (names.flatMap fun n => l.filter (f · = n)).Perm l := by
  induction names generalizing l with
  | nil =>
    have hnil : l = [] := List.eq_nil_iff_forall_not_mem.2 fun a ha => List.not_mem_nil (hall a ha)
    rw [hnil]
    exact .nil
  | cons n names ih =>
    obtain ⟨hn, hnodup⟩ := List.nodup_cons.1 hnodup
    have hrest : ∀ a ∈ l.filter (fun a => !(f a = n)), f a ∈ names := by
      intro a ha
      obtain ⟨ha, hne⟩ := List.mem_filter.1 ha
      have hne : f a ≠ n := by simpa using hne
      exact (List.mem_cons.1 (hall a ha)).resolve_left hne
    have hsame : (names.flatMap fun k => l.filter (f · = k)) =
        names.flatMap fun k => (l.filter fun a => !(f a = n)).filter (f · = k) := by
      apply List.flatMap_congr
      intro k hk
      rw [List.filter_filter]
      apply List.filter_congr
      intro a _
      have hkn : k ≠ n := fun he => hn (he ▸ hk)
      by_cases ha : f a = k
      · simp [ha, hkn]
      · simp [ha]
    rw [List.flatMap_cons, hsame]
    exact ((ih hnodup hrest).append_left _).trans (List.filter_append_perm _ l)

/-- Elements in pairs that agree on their names also agree on what is told of those with a name. -/
theorem flatMap_filter_eq {g : β → κ} {s : α → List γ} {t : β → List γ} {p : κ → Bool} {m : List β}
    (h : List.Forall₂ (fun a b => g b = f a ∧ t b = s a) l m) :
    (m.filter fun b => p (g b)).flatMap t = (l.filter fun a => p (f a)).flatMap s := by
  rw [List.flatMap_def, List.flatMap_def,
    map_filter_of_pairs h fun a b _ hab => ⟨by rw [hab.1], hab.2⟩]

end Lists

section Last

/-- The workload at which resolved joins end. -/
def lastOf (final : List Join) (name : String) : String :=
  ((final.find? (·.source = name)).map (·.target)).getD name

variable {joins final : List Join} {name : String} {r : Join}

theorem lastOf_of_notMem (h : name ∉ final.map (·.source)) : lastOf final name = name := by
  have hnone : final.find? (·.source = name) = none := by
    rw [List.find?_eq_none]
    intro r hr hs
    exact h (List.mem_map.2 ⟨r, hr, by simpa using hs⟩)
  rw [lastOf, hnone]
  rfl

theorem lastOf_of_mem (hsources : (final.map (·.source)).Nodup) (hr : r ∈ final) :
    lastOf final r.source = r.target := by
  cases h : final.find? (·.source = r.source) with
  | none => exact absurd (List.find?_eq_none.1 h r hr) (by simp)
  | some r' =>
    have hs : r'.source = r.source := by simpa using List.find?_some h
    have heq : r' = r := List.inj_on_of_nodup_map hsources (List.mem_of_find?_eq_some h) hr hs
    rw [lastOf, h, heq]
    rfl

theorem endsAt_lastOf (name : String) (h : Join.Resolved joins final)
    (hsources : (final.map (·.source)).Nodup) : Join.EndsAt joins name (lastOf final name) := by
  by_cases hn : name ∈ final.map (·.source)
  · obtain ⟨r, hr, rfl⟩ := List.mem_map.1 hn
    rw [lastOf_of_mem hsources hr]
    exact h.endsAt hr
  · rw [lastOf_of_notMem hn]
    rw [h.sources_eq] at hn
    exact ⟨.refl, Join.not_leads_iff.2 hn⟩

end Last

namespace Merged

open Merging

variable {objects merged : List Object} {joins final : List Join} {become : Object → Object}
  {o : Object} (h : Merged objects joins final become merged)
  (hunique : ((objects.filter Object.isWorkload).map Object.name).Nodup)
  (hsources : (final.map (·.source)).Nodup)

include h hunique

/-- No join starts at a workload that stays. -/
theorem notMem_sources (ho : o ∈ objects) (hw : o.isWorkload) (hstays : leaves joins o = false) :
    o.name ∉ final.map (·.source) := by
  intro hmem
  obtain ⟨r, hr, hs⟩ := List.mem_map.1 hmem
  have hlook := ObjectList.workload?_of_mem hunique ho hw
  rw [← hs] at hlook
  rw [h.source r hr o hlook] at hstays
  cases hstays

include hsources

/-- A workload that stays and those whose pods it takes in are all that end there. -/
theorem perm_arrivals (ho : o ∈ objects) (hw : o.isWorkload) (hstays : leaves joins o = false) :
    (o :: arrivals objects final o).Perm
      ((objects.filter Object.isWorkload).filter fun a => lastOf final a.name = o.name) := by
  have harr : arrivals objects final o = (final.filter (·.target = o.name)).filterMap
      fun r => ObjectList.workload? r.source objects := by
    rw [arrivals, if_pos hw]
  have hnames : ((arrivals objects final o).map Object.name).Sublist (final.map (·.source)) := by
    rw [harr]
    refine (map_filterMap_sublist fun r a ha => ?_).trans (List.filter_sublist.map _)
    exact (ObjectList.workload?_some ha).2.2
  have hnot := h.notMem_sources hunique ho hw hstays
  have hnodup : (o :: arrivals objects final o).Nodup := by
    refine List.nodup_cons.2 ⟨fun hmem => ?_, (hnames.nodup hsources).of_map⟩
    exact hnot (hnames.subset (List.mem_map_of_mem hmem))
  refine (List.perm_ext_iff_of_nodup hnodup ((hunique.of_map).filter _)).2 fun a => ?_
  rw [List.mem_cons, List.mem_filter, List.mem_filter, decide_eq_true_eq, harr, List.mem_filterMap]
  constructor
  · rintro (rfl | ⟨r, hr, ha⟩)
    · exact ⟨⟨ho, hw⟩, lastOf_of_notMem hnot⟩
    · obtain ⟨hr, ht⟩ := List.mem_filter.1 hr
      obtain ⟨ham, haw, han⟩ := ObjectList.workload?_some ha
      refine ⟨⟨ham, haw⟩, ?_⟩
      rw [han, lastOf_of_mem hsources hr]
      simpa using ht
  · rintro ⟨⟨ha, haw⟩, hlast⟩
    by_cases hmem : a.name ∈ final.map (·.source)
    · obtain ⟨r, hr, hs⟩ := List.mem_map.1 hmem
      rw [← hs, lastOf_of_mem hsources hr] at hlast
      refine Or.inr ⟨r, List.mem_filter.2 ⟨hr, by simpa using hlast⟩, ?_⟩
      rw [hs]
      exact ObjectList.workload?_of_mem hunique ha haw
    · rw [lastOf_of_notMem hmem] at hlast
      exact Or.inl (ObjectList.eq_of_name hunique ha ho haw hw hlast)

omit hunique hsources in
theorem name_become (ho : o ∈ objects) : (become o).name = o.name := by
  rw [← Object.name_emptied, h.emptied o ho, Object.name_emptied]

omit hunique hsources in
theorem isWorkload_become (ho : o ∈ objects) : (become o).isWorkload = o.isWorkload := by
  rw [← Object.isWorkload_emptied, h.emptied o ho, Object.isWorkload_emptied]

omit hunique hsources in
theorem workloads_eq : merged.filter Object.isWorkload =
    ((objects.filter Object.isWorkload).filter (!leaves joins ·)).map become := by
  rw [h.merged_eq, List.filter_map, List.filter_filter, List.filter_filter]
  congr 1
  apply List.filter_congr
  intro o ho
  rw [Function.comp_apply, h.isWorkload_become ho, Bool.and_comm]

omit hsources in
theorem names_nodup : ((merged.filter Object.isWorkload).map Object.name).Nodup := by
  have hnames : (merged.filter Object.isWorkload).map Object.name =
      ((objects.filter Object.isWorkload).filter (!leaves joins ·)).map Object.name := by
    rw [h.workloads_eq, List.map_map]
    apply List.map_congr_left
    intro o ho
    exact h.name_become (List.mem_of_mem_filter (List.mem_of_mem_filter ho))
  rw [hnames]
  exact (List.filter_sublist.map _).nodup hunique

/-- Each workload ends in one that stays. -/
theorem exists_last (ho : o ∈ objects) (hw : o.isWorkload) :
    ∃ a ∈ merged, a.isWorkload ∧ a.name = lastOf final o.name := by
  have hlook := ObjectList.workload?_of_mem hunique ho hw
  by_cases hmem : o.name ∈ final.map (·.source)
  · obtain ⟨r, hr, hs⟩ := List.mem_map.1 hmem
    rw [← hs] at hlook
    obtain ⟨t, ht, hd, htn, htm⟩ := h.target r hr o hlook
    refine ⟨become t, htm, ?_, ?_⟩
    · rw [h.isWorkload_become ht]
      exact Object.isWorkload_of_isDeployment hd
    · rw [h.name_become ht, htn, ← hs, lastOf_of_mem hsources hr]
  · have hstays : leaves joins o = false := by
      have hend := endsAt_lastOf o.name h.resolved hsources
      rw [lastOf_of_notMem hmem] at hend
      exact leaves_of_endsAt hend
    refine ⟨become o, ?_, ?_, ?_⟩
    · rw [h.merged_eq]
      exact List.mem_map_of_mem (List.mem_filter.2 ⟨ho, by rw [hstays]; rfl⟩)
    · rw [h.isWorkload_become ho, hw]
    · rw [h.name_become ho, lastOf_of_notMem hmem]

/-- The containers of a workload that stays are those of all that end there. -/
theorem perm_containers {a : Object} (ha : a ∈ merged) (hw : a.isWorkload) :
    a.containers.Perm (((objects.filter Object.isWorkload).filter fun o =>
      lastOf final o.name = a.name).flatMap Object.containers) := by
  rw [h.merged_eq] at ha
  obtain ⟨o, ho, rfl⟩ := List.mem_map.1 ha
  obtain ⟨ho, hstays⟩ := List.mem_filter.1 ho
  rw [h.isWorkload_become ho] at hw
  rw [h.containers o ho, h.name_become ho]
  exact (h.perm_arrivals hunique hsources ho hw (by simpa using hstays)).flatMap_right _

end Merged

variable {services : Dict Service} {opt : Options} {objects : List Object}

/-- Where the containers of an application stand: `last` leads from the name of a unit along the
joins to the workload at which they end. -/
structure Hosted (services : Dict Service) (opt : Options) (objects : List Object)
    (last : String → String) : Prop where
  ends : ∀ u ∈ unitsOf (keyed services) opt.groupMode,
    Join.EndsAt (Join.ofServices services) u.name (last u.name)
  workload : ∀ u ∈ unitsOf (keyed services) opt.groupMode,
    ∃ o ∈ objects, o.isWorkload ∧ o.name = last u.name
  names : ((objects.filter Object.isWorkload).map Object.name).Nodup
  cores : ∀ o ∈ objects, o.isWorkload → (o.containers.map Container.core).Perm
    (((unitsOf (keyed services) opt.groupMode).filter fun u => last u.name = o.name).flatMap
      fun u => u.members.map Service.core)

theorem hosted_convert (hnames : (services.keys.map resourceName).Nodup)
    (hunits : ((unitsOf (keyed services) opt.groupMode).map (·.name)).Nodup)
    (h : convert services opt = .ok objects) : ∃ last, Hosted services opt objects last := by
  obtain ⟨made, merged, hmade, hmerge, rfl⟩ := convert_ok h
  have hworkloads := workloads_made (fun _ => members_ne_nil) hmade
  have hunique : ((made.flatten.filter Object.isWorkload).map Object.name).Nodup := by
    rw [map_eq_map (hworkloads.imp fun _ _ ⟨_, _, hc⟩ => hc.made.name_eq)]
    exact hunits
  obtain ⟨final, hresolved, hmerged, hdeployments⟩ := mergeJoins_eq hunique hmerge
  rw [ofServices_enrolled] at hresolved hmerged
  have hjoins := Join.ofServices_unique hnames
  have hm := merged_absorbAll hunique hjoins hresolved hdeployments
  rw [← hmerged] at hm
  have hsources : (final.map (·.source)).Nodup := by
    rwa [hresolved.sources_eq]
  have hplaced := workloads_arranged opt (hm.names_nodup hunique)
  refine ⟨lastOf final, ?_, ?_, ?_, ?_⟩
  · intro u _
    exact endsAt_lastOf u.name hm.resolved hsources
  · intro u hu
    obtain ⟨w, hw, _, _, hc⟩ := exists_right hworkloads hu
    obtain ⟨hw, hww⟩ := List.mem_filter.1 hw
    obtain ⟨a, ha, haw, han⟩ := hm.exists_last hunique hsources hw hww
    have hmem := List.mem_map_of_mem (f := placed opt) (List.mem_filter.2 ⟨ha, haw⟩)
    rw [← hplaced] at hmem
    obtain ⟨hmem, hmw⟩ := List.mem_filter.1 hmem
    exact ⟨placed opt a, hmem, hmw, by rw [name_placed, han, hc.made.name_eq]⟩
  · have hkeep : ((merged.filter Object.isWorkload).map (placed opt)).map Object.name =
        (merged.filter Object.isWorkload).map Object.name := by
      rw [List.map_map]
      exact List.map_congr_left fun _ _ => name_placed
    rw [hplaced, hkeep]
    exact hm.names_nodup hunique
  · intro o ho hw
    have hmem := List.mem_filter.2 ⟨ho, hw⟩
    rw [hplaced] at hmem
    obtain ⟨a, ha, rfl⟩ := List.mem_map.1 hmem
    obtain ⟨ha, haw⟩ := List.mem_filter.1 ha
    have hperm := (hm.perm_containers hunique hsources ha haw).map Container.core
    rw [List.map_flatMap] at hperm
    have hcores := flatMap_filter_eq (p := fun n => lastOf final n = a.name)
      (hworkloads.imp fun _ _ ⟨_, _, hc⟩ => ⟨hc.made.name_eq, hc.cores⟩)
    rw [hcores] at hperm
    rwa [containers_placed, name_placed]

theorem flatMap_containers : objects.flatMap Object.containers =
    (objects.filter Object.isWorkload).flatMap Object.containers := by
  induction objects with
  | nil => rfl
  | cons o objects ih =>
    by_cases hw : o.isWorkload
    · rw [List.filter_cons_of_pos hw, List.flatMap_cons, List.flatMap_cons, ih]
    · rw [List.filter_cons_of_neg hw, List.flatMap_cons, ih, Object.containers_of_not_workload hw,
        List.nil_append]

/-- Containers in their places are one for each service. -/
theorem Hosted.perm_cores {last : String → String} (h : Hosted services opt objects last)
    (hfree : ∀ s ∈ services.values, s.inGroup = false) :
    ((objects.flatMap Object.containers).map Container.core).Perm
      ((keyed services).values.map Service.core) := by
  let units := unitsOf (keyed services) opt.groupMode
  let names := (objects.filter Object.isWorkload).map Object.name
  have hall : ∀ u ∈ units, last u.name ∈ names := by
    intro u hu
    obtain ⟨o, ho, hw, hn⟩ := h.workload u hu
    exact List.mem_map.2 ⟨o, List.mem_filter.2 ⟨ho, hw⟩, hn⟩
  have hhosted : ((objects.flatMap Object.containers).map Container.core).Perm
      (names.flatMap fun n =>
        (units.filter fun u => last u.name = n).flatMap fun u => u.members.map Service.core) := by
    rw [flatMap_containers, List.map_flatMap, List.flatMap_map]
    refine List.Perm.flatMap_left _ fun o ho => ?_
    obtain ⟨ho, hw⟩ := List.mem_filter.1 ho
    exact h.cores o ho hw
  have hunits : (names.flatMap fun n =>
      (units.filter fun u => last u.name = n).flatMap fun u => u.members.map Service.core).Perm
        ((units.flatMap (·.members)).map Service.core) := by
    rw [← List.flatMap_assoc, List.map_flatMap]
    exact (flatMap_filter_perm h.names hall).flatMap_right _
  have hmembers := (members_unitsOf opt.groupMode (inGroup_keyed hfree)).map Service.core
  rw [cores_enrolled] at hmembers
  exact hhosted.trans (hunits.trans hmembers)

/-- Every container of an application is in the output once, and stands in the workload at which
the joins from its unit end. -/
theorem containers_conserved (hfree : ∀ s ∈ services.values, s.inGroup = false)
    (hnames : (services.keys.map resourceName).Nodup)
    (hunits : ((unitsOf (keyed services) opt.groupMode).map (·.name)).Nodup)
    (h : convert services opt = .ok objects) :
    ((objects.flatMap Object.containers).map Container.core).Perm
      ((keyed services).values.map Service.core) ∧
    ∃ last, Hosted services opt objects last := by
  obtain ⟨last, hlast⟩ := hosted_convert hnames hunits h
  exact ⟨hlast.perm_cores hfree, last, hlast⟩

/-- Two services in a group, and a chain of joins. -/
def storeServices : Dict Service :=
  .ofList
    [("cache", { image := "redis", networkMode := "service:web" }),
      ("db", { image := "postgres", labels := .singleton Label.group "store" }),
      ("db_init", { image := "migrate", labels := .singleton Label.group "store" }),
      ("sidecar", { image := "proxy", networkMode := "service:cache" }),
      ("web", { image := "nginx" })]

def storeOptions : Options := { groupMode := some "label" }

theorem containers_conserved_store :
    (output storeServices storeOptions).map (fun o => (o.name, o.containers.map (·.name))) =
      [("store", ["db", "db-init"]), ("web", ["web", "cache", "sidecar"])] ∧
    (((output storeServices storeOptions).flatMap Object.containers).map Container.core).Perm
      ((keyed storeServices).values.map Service.core) ∧
    ∃ last, Hosted storeServices storeOptions (output storeServices storeOptions) last :=
  ⟨by decide +kernel, containers_conserved (by decide +kernel) (by decide +kernel)
    (by decide +kernel) (convert_output (by decide +kernel))⟩

end Manifests
