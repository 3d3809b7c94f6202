import Mathlib.Data.List.Perm.Basic
import Manifests.Conversion
import Manifests.Proofs.Dict
import Manifests.Proofs.PodSteps

/-! Which services the units of an application hold. -/
namespace Manifests

variable {services : Dict Service} {mode : Option String} {s : Service} {u : WorkloadUnit}
  {g : Group} {key : String}

namespace Group

variable {d : Dict (List Service)} {id : String} {members : List Service}
  {entries : List (String × Service)}

/-- To join a group adds one to all members. -/
theorem flatten_join : (join d id s).values.flatten.Perm (d.values.flatten ++ [s]) := by
  obtain ⟨l₁, l₂, hins, hcase⟩ := d.values_insert id ((d.get? id).getD [] ++ [s])
  have hbefore : d.values.flatten = l₁.flatten ++ (d.get? id).getD [] ++ l₂.flatten := by
    rcases hcase with ⟨hnone, hd⟩ | ⟨w, hsome, hd⟩
    · simp [hnone, hd]
    · simp [hsome, hd]
  have hafter : (join d id s).values.flatten =
      (l₁.flatten ++ (d.get? id).getD []) ++ ([s] ++ l₂.flatten) := by
    rw [join, hins]
    simp
  rw [hafter, hbefore, List.append_assoc _ l₂.flatten]
  exact List.perm_append_comm.append_left _

theorem ne_nil_of_mem_join (h : members ∈ (join d id s).values) :
    members ≠ [] ∨ members ∈ d.values := by
  obtain ⟨l₁, l₂, hins, hcase⟩ := d.values_insert id ((d.get? id).getD [] ++ [s])
  rw [join, hins, List.mem_append, List.mem_cons] at h
  have hold : members ∈ l₁ ∨ members ∈ l₂ → members ∈ d.values := by
    intro hm
    rcases hcase with ⟨_, hd⟩ | ⟨w, _, hd⟩
    · rw [hd]
      simpa using hm
    · rw [hd]
      rcases hm with hm | hm <;> simp [hm]
  rcases h with h | rfl | h
  · exact Or.inr (hold (Or.inl h))
  · exact Or.inl (by simp)
  · exact Or.inr (hold (Or.inr h))

theorem ne_nil_of_foldl (hd : [] ∉ d.values) : [] ∉ (entries.foldl (take mode) d).values := by
  induction entries generalizing d with
  | nil => exact hd
  | cons e entries ih =>
    apply ih
    rw [take]
    split
    · exact hd
    · intro h
      rcases ne_nil_of_mem_join h with h | h
      · exact h rfl
      · exact hd h

/-- The services that have a group, as members of it. -/
def grouped (mode : Option String) (entries : List (String × Service)) : List Service :=
  (entries.filter fun e => idOf e.2 mode ≠ "").map fun e => enroll mode e.1 e.2

/-- Each service with a group is a member of one of them. -/
theorem flatten_foldl : (entries.foldl (take mode) d).values.flatten.Perm
    (d.values.flatten ++ grouped mode entries) := by
  induction entries generalizing d with
  | nil => simp [grouped]
  | cons e entries ih =>
    refine ih.trans ?_
    by_cases h : idOf e.2 mode = ""
    · simp [take, h, grouped]
    · have hjoin : (join d (idOf e.2 mode) (enroll mode e.1 e.2)).values.flatten.Perm
          (d.values.flatten ++ [enroll mode e.1 e.2]) := flatten_join
      have hstep := hjoin.append_right (grouped mode entries)
      simpa [take, h, grouped] using hstep

end Group

theorem members_ne_nil (h : u ∈ unitsOf services mode) : u.members ≠ [] := by
  rcases List.mem_append.1 h with h | h
  · obtain ⟨g, hg, rfl⟩ := List.mem_map.1 h
    obtain ⟨e, he, rfl⟩ := List.mem_map.1 hg
    intro hnil
    exact Group.ne_nil_of_foldl (d := ∅) List.not_mem_nil (List.mem_map.2 ⟨e, he, hnil⟩)
  · obtain ⟨s, _, rfl⟩ := List.mem_map.1 h
    exact List.cons_ne_nil s []

theorem inGroup_enroll : (Group.enroll mode key s).inGroup =
    (s.inGroup || Group.idOf s mode ≠ "") := by
  rw [Group.enroll]
  split <;> simp_all

theorem values_enrolled :
    (enrolled services mode).values = services.entries.map fun e => Group.enroll mode e.1 e.2 := by
  simp [enrolled, Dict.map, Dict.values, Function.comp_def]

theorem members_groupsOf : (groupsOf services mode).flatMap (·.members) =
    (services.entries.foldl (Group.take mode) ∅).values.flatten := by
  simp [groupsOf, List.flatMap_def, Dict.values, Function.comp_def]

/-- The members of all groups are the services that have one. -/
theorem members_groupsOf_perm : ((groupsOf services mode).flatMap (·.members)).Perm
    (Group.grouped mode services.entries) := by
  rw [members_groupsOf]
  exact Group.flatten_foldl (d := ∅)

theorem values_filter_not_inGroup (hfree : ∀ s ∈ services.values, s.inGroup = false) :
    (enrolled services mode).values.filter (!·.inGroup) =
      (services.entries.filter fun e => !(Group.idOf e.2 mode ≠ "")).map
        fun e => Group.enroll mode e.1 e.2 := by
  rw [values_enrolled, List.filter_map]
  congr 1
  apply List.filter_congr
  intro e he
  have hs : e.2.inGroup = false := hfree e.2 (List.mem_map_of_mem he)
  simp [inGroup_enroll, hs]

/-- Services that come without a group are in one unit each. -/
theorem members_unitsOf (mode : Option String)
    (hfree : ∀ s ∈ services.values, s.inGroup = false) :
    ((unitsOf services mode).flatMap (·.members)).Perm (enrolled services mode).values := by
  have hmembers : (unitsOf services mode).flatMap (·.members) =
      (groupsOf services mode).flatMap (·.members) ++
        (enrolled services mode).values.filter (!·.inGroup) := by
    simp [unitsOf, List.flatMap_map]
  rw [hmembers, values_filter_not_inGroup hfree, values_enrolled]
  refine (members_groupsOf_perm.append_right _).trans ?_
  rw [Group.grouped, ← List.map_append]
  exact (List.filter_append_perm _ _).map _

/-- A member keeps what its container is made with. -/
theorem core_enroll (h : s.name = key) : (Group.enroll mode key s).core = s.core := by
  rw [Group.enroll]
  split
  · rfl
  · subst h
    rfl

theorem name_of_mem_entries {e : String × Service} (h : e ∈ (keyed services).entries) :
    e.2.name = e.1 := by
  obtain ⟨e, _, rfl⟩ := List.mem_map.1 h
  rfl

theorem cores_enrolled : (enrolled (keyed services) mode).values.map Service.core =
    (keyed services).values.map Service.core := by
  rw [values_enrolled, Dict.values, List.map_map, List.map_map]
  exact List.map_congr_left fun e he => core_enroll (name_of_mem_entries he)

/-- Names of units are names of objects already. -/
theorem exists_name_of_mem_unitsOf (h : u ∈ unitsOf services mode) :
    ∃ s, u.name = resourceName s := by
  rcases List.mem_append.1 h with h | h
  · obtain ⟨g, hg, rfl⟩ := List.mem_map.1 h
    obtain ⟨e, _, rfl⟩ := List.mem_map.1 hg
    simp only [Group.workloadName]
    split
    · exact ⟨_, rfl⟩
    · exact ⟨_, rfl⟩
  · obtain ⟨s, _, rfl⟩ := List.mem_map.1 h
    exact ⟨s.name, rfl⟩

theorem inGroup_keyed (hfree : ∀ s ∈ services.values, s.inGroup = false) :
    ∀ s ∈ (keyed services).values, s.inGroup = false := by
  intro s hs
  obtain ⟨e, he, rfl⟩ := List.mem_map.1 hs
  obtain ⟨d, hd, rfl⟩ := List.mem_map.1 he
  exact hfree d.2 (List.mem_map_of_mem hd)

/-- Neither keys nor groups change what services join. -/
theorem ofServices_enrolled (mode : Option String) :
    Join.ofServices (enrolled (keyed services) mode) = Join.ofServices services := by
  rw [Join.ofServices, Join.ofServices, enrolled, keyed, Dict.map, Dict.map, List.filterMap_map,
    List.filterMap_map]
  apply List.filterMap_congr
  intro e _
  simp only [Function.comp_apply, Group.enroll]
  split <;> rfl

end Manifests
