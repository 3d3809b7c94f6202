import Mathlib.Data.List.Nodup
import Manifests.Proofs.JoinWalk

/-! Joins of joins, and the workload at which they end. -/
namespace Manifests.Join

variable {joins : List Join} {objects : List Object} {j r : Join} {a b c : String}

/-- One of the joins goes from `a` to `b`. -/
def Leads (joins : List Join) (a b : String) : Prop := ⟨a, b⟩ ∈ joins

/-- Joins lead from `a` to `b`, and none leads on from there. -/
def EndsAt (joins : List Join) (a b : String) : Prop :=
  Relation.ReflTransGen (Leads joins) a b ∧ ∀ c, ¬ Leads joins b c

theorem leads_of_next? (h : next? joins a = some b) : Leads joins a b := by
  obtain ⟨j, hj, rfl⟩ := Option.map_eq_some_iff.1 h
  have hs : j.source = a := by simpa using List.find?_some hj
  subst hs
  exact List.mem_reverse.1 (List.mem_of_find?_eq_some hj)

theorem not_leads_iff : (∀ c, ¬ Leads joins a c) ↔ a ∉ joins.map (·.source) := by
  constructor
  · intro h ha
    obtain ⟨j, hj, rfl⟩ := List.mem_map.1 ha
    exact h j.target hj
  · intro h c hc
    exact h (List.mem_map.2 ⟨_, hc, rfl⟩)

theorem leads_of_visit {n : Nat} (h : visit joins n a = some b) :
    Relation.ReflTransGen (Leads joins) a b := by
  induction n generalizing a with
  | zero =>
    cases h
    exact .refl
  | succ n ih =>
    obtain ⟨c, hc, h⟩ := Option.bind_eq_some_iff.1 h
    exact .head (leads_of_next? hc) (ih h)

theorem Ends.endsAt (h : Ends joins a b) : EndsAt joins a b := by
  obtain ⟨⟨n, hn⟩, hend⟩ := h
  exact ⟨leads_of_visit hn, not_leads_iff.2 hend⟩

/-- The joins, each of them to where it ends. -/
def Resolved (joins final : List Join) : Prop :=
  List.Forall₂ (fun j r => r.source = j.source ∧ EndsAt joins j.source r.target) joins final

theorem resolveAll_ok {final : List Join} (h : resolveAll objects joins = .ok final) :
    Resolved joins final := by
  have hall := (List.forall₂_and_left joins final).2 ⟨fun _ hj => hj, (resolveAll_ok_iff.1 h).2⟩
  refine hall.imp fun j r hr => ?_
  obtain ⟨hj, hs, hends⟩ := hr
  exact ⟨hs, .head hj hends.endsAt.1, hends.endsAt.2⟩

/-- The joins, each of them to the workload at which its walk stops. -/
def toEnds (joins : List Join) : List Join :=
  joins.map fun j => ⟨j.source, (walk joins joins.length [j.source] j.target).2⟩

theorem resolveAll_eq_toEnds {final : List Join} (h : resolveAll objects joins = .ok final) :
    final = toEnds joins := by
  have hstops : ∀ j r : Join, resolve objects joins j = .ok r →
      r = ⟨j.source, (walk joins joins.length [j.source] j.target).2⟩ := by
    intro j r hr
    rw [resolve] at hr
    dsimp only at hr
    split at hr
    · cases hr
    · exact (Except.ok.inj hr).symm
  have hsame := map_eq_map (g := id) ((mapM_ok h).imp hstops)
  rwa [List.map_id] at hsame

namespace Resolved

variable {final : List Join} (h : Resolved joins final)

include h

theorem sources_eq : final.map (·.source) = joins.map (·.source) :=
  map_eq_map (h.imp fun _ _ hr => hr.1)

theorem endsAt (hr : r ∈ final) : EndsAt joins r.source r.target := by
  obtain ⟨j, _, hs, hend⟩ := exists_left h hr
  rwa [hs]

/-- Where a join ends, no join starts. -/
theorem target_ne_source (hr : r ∈ final) {r' : Join} (hr' : r' ∈ final) :
    r'.source ≠ r.target := by
  intro he
  have hsource : r'.source ∈ joins.map (·.source) := by
    rw [← h.sources_eq]
    exact List.mem_map_of_mem hr'
  exact not_leads_iff.1 (h.endsAt hr).2 (he ▸ hsource)

end Resolved

section Unique

variable (hunique : (joins.map (·.source)).Nodup)

include hunique

theorem leads_unique (hb : Leads joins a b) (hc : Leads joins a c) : b = c := by
  have h : (⟨a, b⟩ : Join) = ⟨a, c⟩ := List.inj_on_of_nodup_map hunique hb hc rfl
  cases h
  rfl

/-- There is one end at most where every workload joins one other. -/
theorem EndsAt.unique (hb : EndsAt joins a b) (hc : EndsAt joins a c) : b = c := by
  have hleads : Relator.RightUnique (Leads joins) := fun _ _ _ => leads_unique hunique
  rcases Relation.ReflTransGen.total_of_right_unique hleads hb.1 hc.1 with h | h
  · rcases h.cases_head with h | ⟨d, hd, _⟩
    · exact h
    · exact (hb.2 d hd).elim
  · rcases h.cases_head with h | ⟨d, hd, _⟩
    · exact h.symm
    · exact (hc.2 d hd).elim

end Unique

theorem source_of_ofService {name : String} {s : Service} (h : ofService name s = some j) :
    j.source = resourceName name := by
  obtain ⟨target, _, rfl⟩ := Option.map_eq_some_iff.1 h
  rfl

/-- Services whose names stay apart as names of objects join from different workloads. -/
theorem ofServices_unique {services : Dict Service}
    (h : (services.keys.map resourceName).Nodup) :
    ((ofServices services).map (·.source)).Nodup := by
  refine List.Sublist.nodup ?_ h
  rw [Dict.keys, List.map_map]
  exact map_filterMap_sublist fun _ _ => source_of_ofService

end Manifests.Join
