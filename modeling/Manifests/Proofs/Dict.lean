import Mathlib.Data.List.Dedup
import Manifests.Dict

/-! What is found under a key after a map has grown. -/
namespace Manifests.Dict

variable {β : Type} {d e : Dict β} {l : List (String × β)} {k k' : String} {v : β}

theorem lookup_cons {x : String × β} :
    (x :: l).lookup k = if k = x.1 then some x.2 else l.lookup k := by
  by_cases h : k = x.1
  · have hb : (k == x.1) = true := by simpa using h
    rw [List.lookup_cons, hb, if_pos h]
  · have hb : (k == x.1) = false := by simpa using h
    rw [List.lookup_cons, hb, if_neg h]

theorem mem_of_lookup (h : l.lookup k = some v) : (k, v) ∈ l := by
  obtain ⟨l₁, l₂, hl, _⟩ := List.lookup_eq_some_iff.1 h
  rw [hl]
  simp

theorem lookup_of_mem (hkeys : (l.map Prod.fst).Nodup) (h : (k, v) ∈ l) :
    l.lookup k = some v := by
  induction l with
  | nil => cases h
  | cons x l ih =>
    obtain ⟨hx, hl⟩ := List.nodup_cons.1 hkeys
    rw [lookup_cons]
    rcases List.mem_cons.1 h with rfl | h
    · rw [if_pos rfl]
    · have hne : k ≠ x.1 := fun he => hx (he ▸ List.mem_map_of_mem h)
      rw [if_neg hne, ih hl h]

theorem lookup_eq_none_iff_notMem : l.lookup k = none ↔ k ∉ l.map Prod.fst := by
  rw [List.lookup_eq_none_iff, List.mem_map, not_exists]
  constructor
  · rintro h e ⟨he, rfl⟩
    simpa using h e he
  · intro h e he
    have hne : k ≠ e.1 := fun hk => h e ⟨he, hk.symm⟩
    simpa using hne

theorem lookup_place :
    (place k v l).lookup k' = if k' = k then some v else l.lookup k' := by
  induction l with
  | nil => exact lookup_cons
  | cons x l ih =>
    rw [place]
    split
    · exact lookup_cons
    · split
      · rename_i hlt
        have hne : k ≠ x.1 := fun he => String.lt_irrefl k (he ▸ hlt)
        rw [lookup_cons, lookup_cons, ih]
        by_cases h : k' = k
        · rw [if_neg (h ▸ hne), if_pos h, if_pos h]
        · rw [if_neg h, if_neg h]
      · rename_i hk hx
        have heq : k = x.1 := eq_of_not_lt hk hx
        rw [lookup_cons, lookup_cons, ← heq]
        by_cases h : k' = k
        · rw [if_pos h, if_pos h]
        · rw [if_neg h, if_neg h, if_neg h]

theorem get?_insert : (d.insert k v).get? k' = if k' = k then some v else d.get? k' :=
  lookup_place

theorem mem_of_get? (h : d.get? k = some v) : (k, v) ∈ d.entries := mem_of_lookup h

theorem mem_values_of_get? (h : d.get? k = some v) : v ∈ d.values :=
  List.mem_map_of_mem (f := Prod.snd) (mem_of_get? h)

theorem get?_singleton : (singleton k v).get? k' = if k' = k then some v else none :=
  get?_insert

theorem nodup_keys (d : Dict β) : d.keys.Nodup := by
  refine List.pairwise_map.2 (d.increasing.imp ?_)
  intro a b hlt heq
  exact String.lt_irrefl b.1 (heq ▸ hlt)

/-- Of several entries with one key, the last one is in force. -/
theorem get?_insertAll : (d.insertAll l).get? k = (l.reverse.lookup k).or (d.get? k) := by
  induction l generalizing d with
  | nil => rfl
  | cons x l ih =>
    have hstep : d.insertAll (x :: l) = (d.insert x.1 x.2).insertAll l := rfl
    rw [hstep, ih, get?_insert, List.reverse_cons, List.lookup_append, Option.or_assoc, lookup_cons,
      List.lookup_nil]
    congr 1
    split <;> rfl

theorem get?_insertAll_of_notMem (h : k ∉ l.map Prod.fst) : (d.insertAll l).get? k = d.get? k := by
  have hnone : l.reverse.lookup k = none := by
    rw [lookup_eq_none_iff_notMem, List.map_reverse, List.mem_reverse]
    exact h
  rw [get?_insertAll, hnone, Option.none_or]

theorem get?_insertAll_of_some (hkeys : (l.map Prod.fst).Nodup) (h : l.lookup k = some v) :
    (d.insertAll l).get? k = some v := by
  have hsome : l.reverse.lookup k = some v := by
    refine lookup_of_mem ?_ (List.mem_reverse.2 (mem_of_lookup h))
    rw [List.map_reverse, List.nodup_reverse]
    exact hkeys
  rw [get?_insertAll, hsome, Option.some_or]

theorem get?_insertAll_const {keys : List String} :
    (d.insertAll (keys.map fun k => (k, v))).get? k = if k ∈ keys then some v else d.get? k := by
  induction keys generalizing d with
  | nil => rfl
  | cons k' keys ih =>
    have hstep : d.insertAll ((k' :: keys).map fun k => (k, v)) =
        (d.insert k' v).insertAll (keys.map fun k => (k, v)) := rfl
    rw [hstep, ih, get?_insert]
    by_cases hmem : k ∈ keys
    · rw [if_pos hmem, if_pos (List.mem_cons_of_mem _ hmem)]
    · rw [if_neg hmem]
      simp only [List.mem_cons, hmem, or_false]

/-- What the second map has is in force. -/
theorem get?_union_of_some (h : e.get? k = some v) : (d.union e).get? k = some v :=
  get?_insertAll_of_some e.nodup_keys h

theorem get?_union : (d.union e).get? k = (e.get? k).or (d.get? k) := by
  cases h : e.get? k with
  | some v => exact get?_union_of_some h
  | none => exact get?_insertAll_of_notMem (lookup_eq_none_iff_notMem.1 h)

theorem get?_of_mem (h : (k, v) ∈ d.entries) : d.get? k = some v := lookup_of_mem d.nodup_keys h

theorem get?_map {γ : Type} {f : String → β → γ} : (d.map f).get? k = (d.get? k).map (f k) := by
  cases h : d.get? k with
  | some v =>
    exact get?_of_mem (List.mem_map.2 ⟨(k, v), mem_of_get? h, rfl⟩)
  | none =>
    cases hm : (d.map f).get? k with
    | none => rfl
    | some w =>
      obtain ⟨⟨k', v⟩, hv, he⟩ := List.mem_map.1 (mem_of_get? hm)
      cases he
      rw [get?_of_mem hv] at h
      cases h

theorem contains_iff_mem_keys : d.contains k ↔ k ∈ d.keys := by
  rw [contains, Option.isSome_iff_exists]
  constructor
  · rintro ⟨v, hv⟩
    exact List.mem_map_of_mem (f := Prod.fst) (mem_of_get? hv)
  · intro hk
    obtain ⟨⟨_, v⟩, hv, rfl⟩ := List.mem_map.1 hk
    exact ⟨v, get?_of_mem hv⟩

theorem lookup_eq_none (h : ∀ x ∈ l, k < x.1) : l.lookup k = none := by
  rw [List.lookup_eq_none_iff]
  intro x hx
  have hne : k ≠ x.1 := fun he => String.lt_irrefl k (he ▸ h x hx)
  simpa using hne

/-- A new key goes in between, a known one is overwritten where it stands. -/
theorem place_split (h : l.Pairwise fun a b => a.1 < b.1) : ∃ l₁ l₂,
    place k v l = l₁ ++ (k, v) :: l₂ ∧
      (l.lookup k = none ∧ l = l₁ ++ l₂ ∨ ∃ w, l.lookup k = some w ∧ l = l₁ ++ (k, w) :: l₂) := by
  induction l with
  | nil => exact ⟨[], [], rfl, Or.inl ⟨rfl, rfl⟩⟩
  | cons x l ih =>
    obtain ⟨hx, hl⟩ := List.pairwise_cons.1 h
    rw [place]
    split
    · rename_i hk
      refine ⟨[], x :: l, rfl, Or.inl ⟨lookup_eq_none fun y hy => ?_, rfl⟩⟩
      rcases List.mem_cons.1 hy with rfl | hy
      · exact hk
      · exact String.lt_trans hk (hx y hy)
    · split
      · rename_i hlt
        have hne : k ≠ x.1 := fun he => String.lt_irrefl k (he ▸ hlt)
        obtain ⟨l₁, l₂, hp, hcase⟩ := ih hl
        refine ⟨x :: l₁, l₂, by rw [hp, List.cons_append], ?_⟩
        rw [lookup_cons, if_neg hne]
        rcases hcase with ⟨hk, rfl⟩ | ⟨w, hk, rfl⟩
        · exact Or.inl ⟨hk, rfl⟩
        · exact Or.inr ⟨w, hk, rfl⟩
      · rename_i hk hlt
        have heq : k = x.1 := eq_of_not_lt hk hlt
        refine ⟨[], l, rfl, Or.inr ⟨x.2, ?_, ?_⟩⟩
        · rw [lookup_cons, if_pos heq]
        · rw [heq, List.nil_append]

/-- The values around an inserted one are those from before. -/
theorem values_insert (d : Dict β) (k : String) (v : β) : ∃ l₁ l₂,
    (d.insert k v).values = l₁ ++ v :: l₂ ∧
    (d.get? k = none ∧ d.values = l₁ ++ l₂ ∨
      ∃ w, d.get? k = some w ∧ d.values = l₁ ++ w :: l₂) := by
  obtain ⟨l₁, l₂, hp, hcase⟩ := place_split (k := k) (v := v) d.increasing
  refine ⟨l₁.map Prod.snd, l₂.map Prod.snd, ?_, ?_⟩
  · exact (congrArg (List.map Prod.snd) hp).trans (by rw [List.map_append, List.map_cons])
  · rw [values, get?]
    rcases hcase with ⟨hk, hl⟩ | ⟨w, hk, hl⟩
    · exact Or.inl ⟨hk, by rw [hl, List.map_append]⟩
    · exact Or.inr ⟨w, hk, by rw [hl, List.map_append, List.map_cons]⟩

theorem get?_ofList : (ofList l).get? k = l.reverse.lookup k := by
  rw [ofList, get?_insertAll]
  exact Option.or_none

theorem mem_of_get?_ofList (h : (ofList l).get? k = some v) : (k, v) ∈ l := by
  rw [get?_ofList] at h
  exact List.mem_reverse.1 (mem_of_lookup h)

theorem get?_ofList_eq_none : (ofList l).get? k = none ↔ k ∉ l.map Prod.fst := by
  rw [get?_ofList, lookup_eq_none_iff_notMem, List.map_reverse, List.mem_reverse]

theorem contains_ofList : (ofList l).contains k ↔ k ∈ l.map Prod.fst := by
  rw [contains, ← Option.ne_none_iff_isSome, ne_eq, get?_ofList_eq_none, not_not]

/-- Of entries with one key, one is left. -/
theorem size_ofList : (ofList l).size = (l.map Prod.fst).dedup.length := by
  have hkeys : (ofList l).keys.Perm (l.map Prod.fst).dedup := by
    refine (List.perm_ext_iff_of_nodup (nodup_keys _) (List.nodup_dedup _)).2 fun k => ?_
    rw [List.mem_dedup, ← contains_iff_mem_keys, contains_ofList]
  rw [← hkeys.length_eq, keys, List.length_map, size]

theorem size_pos_iff : 0 < d.size ↔ ∃ k, d.contains k := by
  have hkeys : d.size = d.keys.length := (List.length_map _).symm
  rw [hkeys, List.length_pos_iff_exists_mem]
  exact exists_congr fun k => contains_iff_mem_keys.symm

end Manifests.Dict
