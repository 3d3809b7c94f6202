import Manifests.Proofs.Arrivals
import Manifests.Proofs.FileNames

/-! In which namespaces the objects of one output are. -/
namespace Manifests

variable {services : Dict Service} {opt : Options} {objects : List Object} {o : Object}

theorem filled_or_self {n : Option String} : (filled n).or n = n := by
  cases n with
  | none => rfl
  | some name => by_cases hname : name = "" <;> simp [filled, Option.filter, hname]

theorem filled_eq_self_iff {n : Option String} : n = filled n ↔ n ≠ some "" := by
  cases n with
  | none => simp [filled]
  | some name => by_cases hname : name = "" <;> simp [filled, Option.filter, hname]

/-- Workloads are made in the namespace as it is given. A later pass puts everything into a
namespace that has a name. -/
theorem namespace_eq (h : convert services opt = .ok objects) (ho : o ∈ objects) :
    o.metadata.namespaceName =
      if o.isWorkload then opt.namespaceName else filled opt.namespaceName := by
  have hspace : o.metadata.namespaceName = (filled opt.namespaceName).or
      (if o.isWorkload then opt.namespaceName else none) := namespaceName_eq h ho
  rw [hspace]
  split
  · exact filled_or_self
  · exact Option.or_none

/-- Where there is an object, there is a workload, that of its unit or one that this is joined
to. -/
theorem exists_isWorkload (h : convert services opt = .ok objects) (ho : o ∈ objects) :
    ∃ a ∈ objects, a.isWorkload := by
  by_cases hw : o.isWorkload
  · exact ⟨o, ho, hw⟩
  · rw [Bool.not_eq_true] at hw
    obtain ⟨u, hu, _⟩ := exists_made_of_mem h ho hw
    obtain ⟨f, hfirst⟩ : ∃ f, (unitsOf (keyed services) opt.groupMode).find?
        (·.name = u.name) = some f := by
      apply Option.isSome_iff_exists.1
      exact List.find?_isSome.2 ⟨u, hu, decide_eq_true rfl⟩
    by_cases hn : u.name ∈ (Join.ofServices services).map (·.source)
    · obtain ⟨_, a, ha, hd, _⟩ := exists_runsIn_of_joined h hfirst hn
      exact ⟨a, ha, Object.isWorkload_of_isDeployment hd⟩
    · obtain ⟨a, ha, hkind, _⟩ := exists_runsIn_of_kept h hfirst hn
      exact ⟨a, ha, Object.isWorkload_of_kind_eq hkind⟩

/-- All objects are in the namespace that is asked for, or in none where none is, unless what is
asked for is the empty text: that is in the workloads then, and in nothing else. -/
theorem in_one_namespace_iff (h : convert services opt = .ok objects) :
    (∀ o ∈ objects, o.metadata.namespaceName =
      if o.isWorkload then opt.namespaceName else filled opt.namespaceName) ∧
    ((∀ o ∈ objects, o.metadata.namespaceName = filled opt.namespaceName) ↔
      objects = [] ∨ opt.namespaceName ≠ some "") := by
  refine ⟨fun o ho => namespace_eq h ho, ?_, ?_⟩
  · intro hall
    by_cases hnil : objects = []
    · exact Or.inl hnil
    · right
      obtain ⟨o, ho⟩ := List.exists_mem_of_ne_nil objects hnil
      obtain ⟨a, ha, hw⟩ := exists_isWorkload h ho
      have hspace := namespace_eq h ha
      rw [if_pos hw, hall a ha] at hspace
      exact filled_eq_self_iff.1 hspace.symm
  · rintro (rfl | hfilled) o ho
    · cases ho
    · rw [namespace_eq h ho, ← filled_eq_self_iff.2 hfilled, ite_self]

/-- A service with a port, so that a workload and a front stand side by side. -/
def frontedServices : Dict Service :=
  .ofList [("web", { image := "nginx", ports := [{ containerPort := 80 }] })]

theorem output_fronted :
    (convert frontedServices { namespaceName := some "apps" }).isOk ∧
    (convert frontedServices { namespaceName := some "" }).isOk ∧
    (output frontedServices { namespaceName := some "" }).map
      (fun o => (o.kind, o.metadata.namespaceName)) =
        [("Service", none), ("Deployment", some "")] := by
  decide +kernel

theorem in_one_namespace_iff_fronted :
    (∀ o ∈ output frontedServices { namespaceName := some "apps" },
      o.metadata.namespaceName = some "apps") ∧
    ¬ ∀ o ∈ output frontedServices { namespaceName := some "" },
      o.metadata.namespaceName = none := by
  obtain ⟨happs, hblank, hspaces⟩ := output_fronted
  constructor
  · exact (in_one_namespace_iff (convert_output happs)).2.2 (Or.inr (by decide))
  · intro hall
    rcases (in_one_namespace_iff (convert_output hblank)).2.1 hall with hnil | hfilled
    · rw [hnil] at hspaces
      cases hspaces
    · exact hfilled rfl

theorem not_all_in_one_namespace : ¬ ∀ (services : Dict Service) (opt : Options)
    (objects : List Object), convert services opt = .ok objects →
      ∀ o ∈ objects, o.metadata.namespaceName = filled opt.namespaceName := by
  intro h
  obtain ⟨_, hblank, hspaces⟩ := output_fronted
  have hall := h frontedServices { namespaceName := some "" } _ (convert_output hblank)
  have hmem : ("Deployment", some "") ∈ (output frontedServices { namespaceName := some "" }).map
      (fun o => (o.kind, o.metadata.namespaceName)) := by
    rw [hspaces]
    exact List.mem_cons_of_mem _ List.mem_cons_self
  obtain ⟨o, ho, hspace⟩ := List.mem_map.1 hmem
  rw [Prod.mk.injEq, hall o ho] at hspace
  cases hspace.2

end Manifests
