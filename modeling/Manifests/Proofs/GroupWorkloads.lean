import Manifests.Proofs.Arrivals
import Manifests.Proofs.ConversionOrder

/-! In which workloads the members of a group run. -/
namespace Manifests

variable {services : Dict Service} {mode : Option String} {opt : Options} {objects : List Object}
  {g f : Group} {s : Service} {o : Object} {n : String}

/-- A group, as it is converted. -/
def Group.unit (g : Group) : WorkloadUnit := ⟨g.name, g.members⟩

/-- The kind of workload that groups get. -/
def groupKind (opt : Options) : WorkloadKind := .choose { inGroup := true } opt

/-- The workload of the group's kind and name. -/
def Group.Owns (g : Group) (opt : Options) (o : Object) : Prop :=
  o.kind = (groupKind opt).name ∧ o.name = g.name

theorem inGroup_of_mem_members (hg : g ∈ groupsOf services mode) (hs : s ∈ g.members) :
    s.inGroup := by
  have hmem : s ∈ (groupsOf services mode).flatMap (·.members) := List.mem_flatMap.2 ⟨g, hg, hs⟩
  rw [members_groupsOf_perm.mem_iff, Group.grouped] at hmem
  obtain ⟨e, he, rfl⟩ := List.mem_map.1 hmem
  rw [inGroup_enroll, Bool.or_eq_true]
  exact Or.inr (List.mem_filter.1 he).2

theorem choose_of_inGroup (h : s.inGroup) : WorkloadKind.choose s opt = groupKind opt := by
  rw [groupKind, WorkloadKind.choose, WorkloadKind.choose, h]
  rfl

/-- The kind hangs on the options only: no group is run as a bare pod. -/
theorem chosen_unit (hg : g ∈ groupsOf services mode) : g.unit.chosen opt = groupKind opt := by
  have hu : g.unit ∈ unitsOf services mode := List.mem_append_left _ (List.mem_map_of_mem hg)
  rw [WorkloadUnit.chosen]
  split
  · rename_i hnil
    exact (members_ne_nil hu hnil).elim
  · rename_i primary rest hmembers
    have hprimary : primary ∈ g.members := by
      rw [show g.members = primary :: rest from hmembers]
      exact List.mem_cons_self
    exact choose_of_inGroup (inGroup_of_mem_members hg hprimary)

theorem unitsOf_eq : unitsOf services mode = (groupsOf services mode).map Group.unit ++
    (loners services mode).map fun s => ⟨resourceName s.name, [s]⟩ :=
  rfl

/-- Groups come before services on their own, so they are first to take a name. -/
theorem find?_unitsOf (h : (groupsOf services mode).find? (·.name = n) = some f) :
    (unitsOf services mode).find? (·.name = n) = some f.unit := by
  have hmap : ((groupsOf services mode).map Group.unit).find? (·.name = n) = some f.unit := by
    rw [List.find?_map, Option.map_eq_some_iff]
    exact ⟨f, h, rfl⟩
  rw [unitsOf_eq, List.find?_append, hmap, Option.some_or]

/-- The workload of a group's kind and name is there exactly where no join starts at this name,
whoever declares it. It then runs the members of the first group of the name, and a join from
another name takes none of them away. Where a join does start at the name, they all move with it. -/
theorem owned_iff (h : convert services opt = .ok objects)
    (hg : g ∈ groupsOf (keyed services) opt.groupMode) :
    ∃ f ∈ groupsOf (keyed services) opt.groupMode,
      (groupsOf (keyed services) opt.groupMode).find? (·.name = g.name) = some f ∧
      ((∃ o ∈ objects, g.Owns opt o) ↔
        g.name ∉ (Join.ofServices services).map (·.source)) ∧
      (∀ o ∈ objects, g.Owns opt o → f.unit.RunsIn opt o) ∧
      (g.name ∈ (Join.ofServices services).map (·.source) →
        ∃ o ∈ objects, o.isDeployment ∧ Join.EndsAt (Join.ofServices services) g.name o.name ∧
          f.unit.RunsIn opt o) := by
  cases hfirst : (groupsOf (keyed services) opt.groupMode).find? (·.name = g.name) with
  | none => exact absurd (List.find?_eq_none.1 hfirst g hg) (by simp)
  | some f =>
    have hf := List.mem_of_find?_eq_some hfirst
    have hunit := find?_unitsOf hfirst
    refine ⟨f, hf, rfl, ?_, fun o ho howned => ?_, fun hn => ?_⟩
    · rw [← kept_iff h hunit, chosen_unit hf]
      rfl
    · rw [Group.Owns, ← chosen_unit hf] at howned
      exact runsIn_of_name h hunit ho howned.1 howned.2
    · exact (exists_runsIn_of_joined h hunit hn).2

/-- Two services with one volume and one label, and a third one that the first of them joins. -/
def pairedServices : Dict Service :=
  let data : DeclaredVolume := { volumeName := some "data", container := "/data" }
  let labels : Dict String := .singleton Label.group "backend"
  .ofList
    [("api", { image := "api", networkMode := "service:web", volumes := [data], labels }),
      ("web", { image := "nginx" }), ("worker", { image := "worker", volumes := [data], labels })]

/-- A group with a name of its own keeps its members. One that is named after its first member goes
where this member wants to be. -/
theorem owned_iff_paired :
    (∃ g ∈ groupsOf (keyed pairedServices) (some "label"), g.members.length = 2 ∧
      ∃ o ∈ output pairedServices { groupMode := some "label" },
        g.Owns { groupMode := some "label" } o) ∧
    ∃ g ∈ groupsOf (keyed pairedServices) (some "volume"), g.members.length = 2 ∧
      ¬ ∃ o ∈ output pairedServices { groupMode := some "volume" },
        g.Owns { groupMode := some "volume" } o := by
  constructor
  · have hgroup : ∃ g ∈ groupsOf (keyed pairedServices) (some "label"), g.members.length = 2 ∧
        g.name ∉ (Join.ofServices pairedServices).map (·.source) := by
      decide +kernel
    have hok : convert pairedServices { groupMode := some "label" } =
        .ok (output pairedServices { groupMode := some "label" }) :=
      convert_output (by decide +kernel)
    obtain ⟨g, hg, hmembers, hn⟩ := hgroup
    obtain ⟨_, _, _, hiff, _⟩ := owned_iff hok hg
    exact ⟨g, hg, hmembers, hiff.2 hn⟩
  · have hgroup : ∃ g ∈ groupsOf (keyed pairedServices) (some "volume"), g.members.length = 2 ∧
        g.name ∈ (Join.ofServices pairedServices).map (·.source) := by
      decide +kernel
    have hok : convert pairedServices { groupMode := some "volume" } =
        .ok (output pairedServices { groupMode := some "volume" }) :=
      convert_output (by decide +kernel)
    obtain ⟨g, hg, hmembers, hn⟩ := hgroup
    obtain ⟨_, _, _, hiff, _⟩ := owned_iff hok hg
    exact ⟨g, hg, hmembers, fun howned => hiff.1 howned hn⟩

/-- The join of one member can take the whole group along. -/
theorem not_all_groups_kept : ¬ ∀ (services : Dict Service) (opt : Options)
    (objects : List Object) (g : Group), convert services opt = .ok objects →
      g ∈ groupsOf (keyed services) opt.groupMode → ∃ o ∈ objects, o.isWorkload ∧ o.name = g.name ∧
        ∀ s ∈ g.members, s.core ∈ o.containers.map Container.core := by
  intro h
  have hgone : ∃ g ∈ groupsOf (keyed pairedServices) (some "volume"),
      ∀ o ∈ output pairedServices { groupMode := some "volume" }, o.name = g.name →
        o.isWorkload = false := by
    decide +kernel
  obtain ⟨g, hg, hnone⟩ := hgone
  obtain ⟨o, ho, hw, hn, _⟩ :=
    h pairedServices { groupMode := some "volume" } _ g (convert_output (by decide +kernel)) hg
  rw [hnone o ho hn] at hw
  cases hw

end Manifests
