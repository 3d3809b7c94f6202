import Manifests.Proofs.Grouping

/-! In what order the services of an application are converted. -/
namespace Manifests

variable {services : Dict Service} {mode : Option String}

/-- The services that have no group. -/
def loners (services : Dict Service) (mode : Option String) : List Service :=
  (enrolled services mode).values.filter (!·.inGroup)

/-- All services that are converted: those of the groups, and then those without one. -/
def conversionOrder (services : Dict Service) (mode : Option String) : List Service :=
  (groupsOf services mode).flatMap (·.members) ++ loners services mode

/-- Groups come by their ids, the services of each group and those without one by their names. -/
structure Orderly (services : Dict Service) (mode : Option String) : Prop where
  groups : (groupsOf services mode).Pairwise fun g h => g.id < h.id
  members : ∀ g ∈ groupsOf services mode, g.members.Pairwise fun s t => s.name < t.name
  loners : (loners services mode).Pairwise fun s t => s.name < t.name

theorem members_eq_conversionOrder :
    (unitsOf services mode).flatMap (·.members) = conversionOrder services mode := by
  simp [unitsOf, conversionOrder, loners, List.flatMap_map]

namespace Group

variable {d : Dict (List Service)} {entries : List (String × Service)} {members : List Service}
  {id : String} {s : Service}

theorem mem_values_join (h : members ∈ (join d id s).values) :
    (∃ old, (old = [] ∨ old ∈ d.values) ∧ members = old ++ [s]) ∨ members ∈ d.values := by
  obtain ⟨e, he, rfl⟩ := List.mem_map.1 h
  rcases Dict.mem_place he with rfl | he
  · refine Or.inl ⟨_, ?_, rfl⟩
    cases hid : d.get? id with
    | none => exact Or.inl rfl
    | some old => exact Or.inr (Dict.mem_values_of_get? hid)
  · exact Or.inr (List.mem_map_of_mem he)

/-- Members stand in the order of their names, before the names that are still to come. -/
def Sorted (d : Dict (List Service)) (entries : List (String × Service)) : Prop :=
  ∀ members ∈ d.values, members.Pairwise (fun s t => s.name < t.name) ∧
    ∀ s ∈ members, ∀ e ∈ entries, s.name < e.1

theorem name_enroll {key : String} (h : idOf s mode ≠ "") : (enroll mode key s).name = key := by
  rw [enroll, if_neg h]

theorem sorted_take {e : String × Service} (hentries : (e :: entries).Pairwise fun a b => a.1 < b.1)
    (hd : Sorted d (e :: entries)) : Sorted (take mode d e) entries := by
  obtain ⟨he, _⟩ := List.pairwise_cons.1 hentries
  have hlater : Sorted d entries := fun members hm =>
    ⟨(hd members hm).1, fun s hs a ha => (hd members hm).2 s hs a (List.mem_cons_of_mem _ ha)⟩
  rw [take]
  split
  · exact hlater
  · rename_i hid
    intro members hm
    rcases mem_values_join hm with ⟨old, hold, rfl⟩ | hm
    · have hbefore : old.Pairwise (fun s t => s.name < t.name) ∧ ∀ s ∈ old, s.name < e.1 := by
        rcases hold with rfl | hold
        · simp
        · exact ⟨(hd old hold).1, fun s hs => (hd old hold).2 s hs e List.mem_cons_self⟩
      constructor
      · refine List.pairwise_append.2 ⟨hbefore.1, List.pairwise_singleton _ _, fun s hs t ht => ?_⟩
        rw [List.mem_singleton.1 ht, name_enroll hid]
        exact hbefore.2 s hs
      · intro s hs a ha
        rcases List.mem_append.1 hs with hs | hs
        · exact String.lt_trans (hbefore.2 s hs) (he a ha)
        · rw [List.mem_singleton.1 hs, name_enroll hid]
          exact he a ha
    · exact hlater members hm

theorem sorted_foldl (hentries : entries.Pairwise fun a b => a.1 < b.1) (hd : Sorted d entries) :
    Sorted (entries.foldl (take mode) d) [] := by
  induction entries generalizing d with
  | nil => exact hd
  | cons e entries ih => exact ih (List.pairwise_cons.1 hentries).2 (sorted_take hentries hd)

end Group

/-- Services that carry their keys as names are converted in an orderly way. -/
theorem orderly_keyed (services : Dict Service) (mode : Option String) :
    Orderly (keyed services) mode := by
  constructor
  · exact List.pairwise_map.2 (Dict.increasing _)
  · intro g hg
    obtain ⟨e, he, rfl⟩ := List.mem_map.1 hg
    have hnone : Group.Sorted ∅ (keyed services).entries := fun members hm => by cases hm
    exact (Group.sorted_foldl (keyed services).increasing hnone e.2 (List.mem_map_of_mem he)).1
  · rw [loners, values_enrolled]
    refine List.Pairwise.filter _ (List.pairwise_map.2 ?_)
    refine (keyed services).increasing.imp_of_mem fun {a b} ha hb hlt => ?_
    have hname : ∀ e ∈ (keyed services).entries, (Group.enroll mode e.1 e.2).name = e.1 := by
      intro e he
      rw [Group.enroll]
      split
      · exact name_of_mem_entries he
      · rfl
    rw [hname a ha, hname b hb]
    exact hlt

end Manifests
