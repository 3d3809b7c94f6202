import Mathlib.Logic.Relation
import Manifests.Join
import Manifests.Proofs.Outcome

/-! The walk along joins of joins: that it ends, and where. -/
namespace Manifests.Join

variable {joins : List Join} {objects : List Object} {j : Join} {a b name : String}
  {passed : List String} {s s' : List String × String} {m n : Nat}

/-- A workload goes where the last of its joins leads. -/
theorem next?_eq_some : next? joins a = some b ↔
    ∃ before after, joins = before ++ ⟨a, b⟩ :: after ∧ a ∉ after.map (·.source) := by
  constructor
  · intro h
    obtain ⟨j, hj, rfl⟩ := Option.map_eq_some_iff.1 h
    obtain ⟨hs, after, before, hsplit, hafter⟩ := List.find?_eq_some_iff_append.1 hj
    obtain rfl : j.source = a := by simpa using hs
    refine ⟨before.reverse, after.reverse, by simpa using congrArg List.reverse hsplit, ?_⟩
    simpa using hafter
  · rintro ⟨before, after, rfl, hafter⟩
    have hnone : after.reverse.find? (·.source = a) = none := by
      rw [List.find?_eq_none]
      intro j hj hs
      exact hafter (List.mem_map.2 ⟨j, List.mem_reverse.1 hj, by simpa using hs⟩)
    simp [next?, List.find?_append, hnone]

theorem next?_eq_none_iff : next? joins a = none ↔ a ∉ joins.map (·.source) := by
  simp [next?]

section Visit

/-- Where the walk from a workload is after so many joins, unless it has ended before. -/
def visit (joins : List Join) : Nat → String → Option String
  | 0, a => some a
  | n + 1, a => (next? joins a).bind (visit joins n)

theorem visit_add : visit joins (m + n) a = (visit joins m a).bind (visit joins n) := by
  induction m generalizing a with
  | zero => rw [Nat.zero_add, visit, Option.bind_some]
  | succ m ih =>
    rw [Nat.succ_add, visit, visit, Option.bind_assoc]
    congr 1
    funext b
    exact ih

theorem visit_succ (h : visit joins n a = some b) : visit joins (n + 1) a = next? joins b := by
  rw [visit_add, h, Option.bind_some, visit]
  cases next? joins b <;> rfl

theorem isSome_visit_of_le (h : (visit joins n a).isSome) (hle : m ≤ n) :
    (visit joins m a).isSome := by
  obtain ⟨k, rfl⟩ := Nat.exists_eq_add_of_le hle
  rw [visit_add] at h
  exact Option.isSome_of_isSome_bind h

/-- A walk that is twice at one workload never ends: each later stop is a repetition of one before
it. -/
theorem isSome_visit_of_repeat (hlt : m < n) (hm : visit joins m a = some b)
    (hn : visit joins n a = some b) (k : Nat) : (visit joins k a).isSome := by
  induction k using Nat.strongRecOn with
  | ind k ih =>
    by_cases hk : k ≤ n
    · exact isSome_visit_of_le (by rw [hn]; rfl) hk
    · obtain ⟨i, rfl⟩ := Nat.exists_eq_add_of_le (Nat.le_of_not_le hk)
      have hearlier := ih (m + i) (by omega)
      rwa [visit_add, hm, ← hn, ← visit_add] at hearlier

theorem mem_sources_of_isSome (h : (visit joins (n + 1) a).isSome) (hb : visit joins n a = some b) :
    b ∈ joins.map (·.source) := by
  by_contra hnot
  rw [visit_succ hb, next?_eq_none_iff.2 hnot] at h
  cases h

end Visit

/-- The joins lead from `a` to `b`, where none starts. -/
def Ends (joins : List Join) (a b : String) : Prop :=
  (∃ n, visit joins n a = some b) ∧ b ∉ joins.map (·.source)

/-- The walk from the target of a join comes back to its source or never leaves the sources. -/
def Circles (joins : List Join) (j : Join) : Prop :=
  (∃ n, visit joins n j.target = some j.source) ∨
    ∀ n, ∃ b ∈ joins.map (·.source), visit joins n j.target = some b

section Turns

/-- One turn of the walk: the workload counts as passed, and its join is followed. There is none
where no join starts or the workload has been passed before. -/
def turn? (joins : List Join) (s : List String × String) : Option (List String × String) :=
  (next? joins s.2).bind fun next => if s.2 ∈ s.1 then none else some (s.1 ++ [s.2], next)

theorem turn?_eq_some : turn? joins s = some s' ↔
    ∃ next, next? joins s.2 = some next ∧ s.2 ∉ s.1 ∧ s' = (s.1 ++ [s.2], next) := by
  rw [turn?, Option.bind_eq_some_iff]
  refine exists_congr fun next => and_congr_right fun _ => ?_
  rw [Option.ite_none_left_eq_some, Option.some.injEq]
  exact and_congr_right fun _ => eq_comm

theorem turn?_eq_none : turn? joins s = none ↔ next? joins s.2 = none ∨ s.2 ∈ s.1 := by
  cases h : next? joins s.2 <;> simp [turn?, h]

/-- The sources of joins that the walk has not passed. -/
def unpassed (joins : List Join) (passed : List String) : List String :=
  (joins.map (·.source)).filter (· ∉ passed)

theorem length_unpassed_lt (h : turn? joins s = some s') :
    (unpassed joins s'.1).length < (unpassed joins s.1).length := by
  obtain ⟨next, hnext, hnew, rfl⟩ := turn?_eq_some.1 h
  have hsource : s.2 ∈ joins.map (·.source) := by
    by_contra hnot
    rw [next?_eq_none_iff.2 hnot] at hnext
    cases hnext
  have hless : unpassed joins (s.1 ++ [s.2]) = (unpassed joins s.1).filter (· ≠ s.2) := by
    rw [unpassed, unpassed, List.filter_filter]
    apply List.filter_congr
    intro b _
    simp [and_comm]
  rw [hless]
  apply List.length_filter_lt_length_iff_exists.2
  exact ⟨s.2, List.mem_filter.2 ⟨hsource, by simpa using hnew⟩, by simp⟩

/-- No walk goes on for ever, wherever it starts and whatever has been passed. -/
theorem turns_wellFounded : WellFounded fun s' s => turn? joins s = some s' :=
  Subrelation.wf (fun h => length_unpassed_lt h)
    (measure fun s : List String × String => (unpassed joins s.1).length).wf

/-- Turns that lead from one state of the walk to another. -/
def Turns (joins : List Join) : List String × String → List String × String → Prop :=
  Relation.ReflTransGen fun s s' => turn? joins s = some s'

theorem walk_succ : walk joins (n + 1) passed name =
    ((turn? joins (passed, name)).map fun s => walk joins n s.1 s.2).getD (passed, name) := by
  rw [walk, turn?]
  cases next? joins name with
  | none => rfl
  | some next => by_cases hname : name ∈ passed <;> simp [hname]

theorem turns_walk : Turns joins (passed, name) (walk joins n passed name) := by
  induction n generalizing passed name with
  | zero => exact .refl
  | succ n ih =>
    rw [walk_succ]
    cases h : turn? joins (passed, name) with
    | none => exact .refl
    | some s => exact .head h ih

/-- A walk that may take as many turns as there are sources to pass is over when it stops. -/
theorem turn?_walk (h : (unpassed joins passed).length ≤ n) :
    turn? joins (walk joins n passed name) = none := by
  induction n generalizing passed name with
  | zero =>
    cases hturn : turn? joins (passed, name) with
    | none => exact hturn
    | some s =>
      have hlt := length_unpassed_lt hturn
      dsimp only at hlt
      omega
  | succ n ih =>
    rw [walk_succ]
    cases hturn : turn? joins (passed, name) with
    | none => exact hturn
    | some s =>
      have hlt := length_unpassed_lt hturn
      exact ih (by dsimp only at hlt; omega)

theorem length_unpassed_le : (unpassed joins passed).length ≤ joins.length := by
  have h := List.length_filter_le (· ∉ passed) (joins.map (·.source))
  rwa [List.length_map] at h

end Turns

section Passed

/-- What the walk from a join has passed after so many turns: the source, and the stops so far, none
of which is the source again. -/
structure Passed (joins : List Join) (j : Join) (s : List String × String) (n : Nat) : Prop where
  at_stop : visit joins n j.target = some s.2
  mem_iff : ∀ b, b ∈ s.1 ↔ b = j.source ∨ ∃ i < n, visit joins i j.target = some b
  ne_source : ∀ i < n, visit joins i j.target ≠ some j.source

theorem passed_start : Passed joins j ([j.source], j.target) 0 :=
  ⟨rfl, fun b => by simp, fun i hi => by omega⟩

theorem Passed.turn (h : Passed joins j s n) (hturn : turn? joins s = some s') :
    Passed joins j s' (n + 1) := by
  obtain ⟨next, hnext, hnew, rfl⟩ := turn?_eq_some.1 hturn
  have hsource : s.2 ≠ j.source := by
    intro he
    exact hnew ((h.mem_iff s.2).2 (Or.inl he))
  refine ⟨by rw [visit_succ h.at_stop, hnext], fun b => ?_, fun i hi => ?_⟩
  · rw [List.mem_append, List.mem_singleton, h.mem_iff, or_assoc]
    apply or_congr_right
    constructor
    · rintro (⟨i, hi, hb⟩ | rfl)
      · exact ⟨i, by omega, hb⟩
      · exact ⟨n, by omega, h.at_stop⟩
    · rintro ⟨i, hi, hb⟩
      rcases Nat.lt_succ_iff_lt_or_eq.1 hi with hi | rfl
      · exact Or.inl ⟨i, hi, hb⟩
      · exact Or.inr (Option.some.inj (hb.symm.trans h.at_stop))
  · rcases Nat.lt_succ_iff_lt_or_eq.1 hi with hi | rfl
    · exact h.ne_source i hi
    · rw [h.at_stop]
      exact fun he => hsource (Option.some.inj he)

theorem passed_of_turns (h : Turns joins ([j.source], j.target) s) : ∃ n, Passed joins j s n := by
  induction h with
  | refl => exact ⟨0, passed_start⟩
  | tail _ hturn ih =>
    obtain ⟨n, hn⟩ := ih
    exact ⟨n + 1, hn.turn hturn⟩

/-- The walk is at a workload that it has passed: the source of the join, or one of the stops. -/
theorem Passed.circles (h : Passed joins j s n) (hmem : s.2 ∈ s.1) : Circles joins j := by
  rcases (h.mem_iff s.2).1 hmem with hs | ⟨i, hi, hrepeat⟩
  · exact Or.inl ⟨n, by rw [h.at_stop, hs]⟩
  · right
    have hsome := isSome_visit_of_repeat hi hrepeat h.at_stop
    intro k
    obtain ⟨b, hb⟩ := Option.isSome_iff_exists.1 (hsome k)
    exact ⟨b, mem_sources_of_isSome (hsome (k + 1)) hb, hb⟩

/-- The walk is where no join starts. -/
theorem Passed.not_circles (h : Passed joins j s n) (hj : j ∈ joins)
    (hend : s.2 ∉ joins.map (·.source)) : ¬ Circles joins j := by
  rintro (⟨i, hi⟩ | hstay)
  · rcases Nat.lt_trichotomy i n with hlt | rfl | hlt
    · exact h.ne_source i hlt hi
    · rw [h.at_stop, Option.some.injEq] at hi
      exact hend (hi ▸ List.mem_map_of_mem hj)
    · have hsome : (visit joins (n + 1) j.target).isSome :=
        isSome_visit_of_le (by rw [hi]; rfl) hlt
      exact hend (mem_sources_of_isSome hsome h.at_stop)
  · obtain ⟨b, hb, hvisit⟩ := hstay n
    rw [h.at_stop, Option.some.injEq] at hvisit
    exact hend (hvisit ▸ hb)

end Passed

/-- Where the walk from a join stops: at the end of the joins, or because it circles. -/
theorem walk_cases (hj : j ∈ joins)
    (h : walk joins joins.length [j.source] j.target = (passed, name)) :
    (name ∈ passed ∧ Circles joins j) ∨
    (name ∉ passed ∧ Ends joins j.target name ∧ ¬ Circles joins j) := by
  have hturns : Turns joins ([j.source], j.target) (passed, name) := h ▸ turns_walk
  have hover : turn? joins (passed, name) = none := h ▸ turn?_walk length_unpassed_le
  obtain ⟨n, hn⟩ := passed_of_turns hturns
  by_cases hmem : name ∈ passed
  · exact Or.inl ⟨hmem, hn.circles hmem⟩
  · have hend : name ∉ joins.map (·.source) :=
      next?_eq_none_iff.1 ((turn?_eq_none.1 hover).resolve_right hmem)
    exact Or.inr ⟨hmem, ⟨⟨n, hn.at_stop⟩, hend⟩, hn.not_circles hj hend⟩

theorem Ends.unique {c : String} (hb : Ends joins a b) (hc : Ends joins a c) : b = c := by
  obtain ⟨⟨m, hm⟩, hendb⟩ := hb
  obtain ⟨⟨n, hn⟩, hendc⟩ := hc
  have hlast : ∀ {m n : Nat} {b c : String}, visit joins m a = some b →
      visit joins n a = some c → b ∉ joins.map (·.source) → n ≤ m := by
    intro m n b c hm hn hend
    by_contra hlt
    have hsome : (visit joins (m + 1) a).isSome :=
      isSome_visit_of_le (by rw [hn]; rfl) (Nat.lt_of_not_le hlt)
    exact hend (mem_sources_of_isSome hsome hm)
  obtain rfl : m = n := Nat.le_antisymm (hlast hn hm hendc) (hlast hm hn hendb)
  exact Option.some.inj (hm.symm.trans hn)

section Resolve

variable {r : Join} {final : List Join}

theorem resolve_error_iff (hj : j ∈ joins) :
    (∃ failure, resolve objects joins j = .error failure) ↔ Circles joins j := by
  rw [resolve]
  split
  rename_i passed target hw
  rcases walk_cases hj hw with ⟨hmem, hcircles⟩ | ⟨hmem, _, hcircles⟩
  · rw [if_pos hmem]
    exact iff_of_true ⟨_, rfl⟩ hcircles
  · rw [if_neg hmem]
    refine iff_of_false ?_ hcircles
    rintro ⟨failure, h⟩
    cases h

theorem resolve_ok_iff (hj : j ∈ joins) : resolve objects joins j = .ok r ↔
    ¬ Circles joins j ∧ r.source = j.source ∧ Ends joins j.target r.target := by
  rw [resolve]
  split
  rename_i passed target hw
  rcases walk_cases hj hw with ⟨hmem, hcircles⟩ | ⟨hmem, hends, hcircles⟩
  · rw [if_pos hmem]
    refine iff_of_false (fun h => ?_) fun h => h.1 hcircles
    cases h
  · rw [if_neg hmem]
    constructor
    · intro h
      cases h
      exact ⟨hcircles, rfl, hends⟩
    · rintro ⟨_, hs, ht⟩
      rw [← hs, hends.unique ht]

theorem resolveAll_ok_iff : resolveAll objects joins = .ok final ↔
    (∀ j ∈ joins, ¬ Circles joins j) ∧
    List.Forall₂ (fun j r => r.source = j.source ∧ Ends joins j.target r.target) joins final := by
  rw [resolveAll, mapM_ok_iff, forall₂_congr_left fun j hj r => resolve_ok_iff hj,
    List.forall₂_and_left]

theorem resolveAll_error_iff :
    (∃ failure, resolveAll objects joins = .error failure) ↔ ∃ j ∈ joins, Circles joins j := by
  constructor
  · rintro ⟨failure, h⟩
    obtain ⟨j, hj, hfail⟩ := mapM_error h
    exact ⟨j, hj, (resolve_error_iff hj).1 ⟨failure, hfail⟩⟩
  · rintro ⟨j, hj, hcircles⟩
    cases h : resolveAll objects joins with
    | error failure => exact ⟨failure, rfl⟩
    | ok final => exact ((resolveAll_ok_iff.1 h).1 j hj hcircles).elim

/-- To resolve joins comes to an end. It fails exactly where the walk from one of them circles, and
otherwise it takes each join, in order, to the end of its walk. -/
theorem resolveAll_exact (objects : List Object) (joins : List Join) :
    (∀ a b, next? joins a = some b ↔
      ∃ before after, joins = before ++ ⟨a, b⟩ :: after ∧ a ∉ after.map (·.source)) ∧
    (WellFounded fun s' s => turn? joins s = some s') ∧
    (∀ passed name, Turns joins (passed, name) (walk joins joins.length passed name) ∧
      turn? joins (walk joins joins.length passed name) = none) ∧
    ((∃ failure, resolveAll objects joins = .error failure) ↔ ∃ j ∈ joins, Circles joins j) ∧
    ∀ final, resolveAll objects joins = .ok final ↔
      (∀ j ∈ joins, ¬ Circles joins j) ∧
      List.Forall₂ (fun j r => r.source = j.source ∧ Ends joins j.target r.target) joins final :=
  ⟨fun _ _ => next?_eq_some, turns_wellFounded,
    fun _ _ => ⟨turns_walk, turn?_walk length_unpassed_le⟩, resolveAll_error_iff,
    fun _ => resolveAll_ok_iff⟩

/-- The later join of `a` counts, for the join from `z` as well. -/
example : resolveAll [] [⟨"z", "a"⟩, ⟨"a", "b"⟩, ⟨"a", "c"⟩] =
    .ok [⟨"z", "c"⟩, ⟨"a", "b"⟩, ⟨"a", "c"⟩] := by
  decide

end Resolve

end Manifests.Join
