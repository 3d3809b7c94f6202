import Mathlib.Data.List.Induction
import Mathlib.Data.List.Nodup
import Manifests.FirstWins

/-! Unions by key: what they hold, and what they leave alone. -/
namespace Manifests

variable {α κ : Type} [DecidableEq κ] {key : α → κ} {l m n : List α} {a : α} {k : κ}

theorem unionBy_cons : unionBy key l (a :: m) = unionBy key (addNew key l a) m := rfl

theorem unionBy_append : unionBy key l (m ++ n) = unionBy key (unionBy key l m) n :=
  List.foldl_append

theorem foldl_unionBy {β : Type} {f : β → List α} {bs : List β} :
    bs.foldl (fun l b => unionBy key l (f b)) l = unionBy key l (bs.flatMap f) := by
  induction bs generalizing l with
  | nil => rfl
  | cons b bs ih => rw [List.foldl_cons, ih, List.flatMap_cons, unionBy_append]

theorem addNew_of_mem (h : key a ∈ l.map key) : addNew key l a = l := by
  obtain ⟨b, hb, hk⟩ := List.mem_map.1 h
  have hany : l.any (fun b => key b = key a) = true := List.any_eq_true.2 ⟨b, hb, by simpa⟩
  rw [addNew, if_pos hany]

theorem addNew_of_notMem (h : key a ∉ l.map key) : addNew key l a = l ++ [a] := by
  have hany : ¬ l.any (fun b => key b = key a) = true := by
    intro hany
    obtain ⟨b, hb, hk⟩ := List.any_eq_true.1 hany
    exact h (List.mem_map.2 ⟨b, hb, by simpa using hk⟩)
  rw [addNew, if_neg hany]

theorem addNew_ne_nil : addNew key l a ≠ [] := by
  rw [addNew]
  split
  · rename_i hany
    obtain ⟨b, hb, _⟩ := List.any_eq_true.1 hany
    exact List.ne_nil_of_mem hb
  · exact List.append_ne_nil_of_right_ne_nil l (List.cons_ne_nil a [])

theorem mem_map_addNew : k ∈ (addNew key l a).map key ↔ k ∈ l.map key ∨ k = key a := by
  by_cases h : key a ∈ l.map key
  · rw [addNew_of_mem h]
    constructor
    · exact Or.inl
    · rintro (hk | rfl)
      · exact hk
      · exact h
  · rw [addNew_of_notMem h, List.map_append, List.mem_append]
    simp

theorem mem_of_mem_unionBy (h : a ∈ unionBy key l m) : a ∈ l ∨ a ∈ m := by
  induction m generalizing l with
  | nil => exact Or.inl h
  | cons b m ih =>
    rcases ih h with h | h
    · by_cases hb : key b ∈ l.map key
      · rw [addNew_of_mem hb] at h
        exact Or.inl h
      · rw [addNew_of_notMem hb, List.mem_append, List.mem_singleton] at h
        rcases h with h | rfl
        · exact Or.inl h
        · exact Or.inr List.mem_cons_self
    · exact Or.inr (List.mem_cons_of_mem _ h)

/-- A union drops elements, never keys. -/
theorem mem_map_unionBy : k ∈ (unionBy key l m).map key ↔ k ∈ l.map key ∨ k ∈ m.map key := by
  induction m generalizing l with
  | nil => simp [unionBy]
  | cons b m ih =>
    rw [unionBy_cons, ih, mem_map_addNew, List.map_cons, List.mem_cons, or_assoc]

theorem filter_addNew {p : α → Bool} (hp : ∀ a b, key a = key b → p a = p b) :
    (addNew key l a).filter p =
      if p a then addNew key (l.filter p) a else l.filter p := by
  by_cases h : key a ∈ l.map key
  · rw [addNew_of_mem h]
    split
    · obtain ⟨b, hb, hk⟩ := List.mem_map.1 h
      have hb' : b ∈ l.filter p := List.mem_filter.2 ⟨hb, by rwa [hp b a hk]⟩
      rw [addNew_of_mem (List.mem_map.2 ⟨b, hb', hk⟩)]
    · rfl
  · have h' : key a ∉ (l.filter p).map key :=
      fun h' => h (((List.filter_sublist (p := p)).map key).subset h')
    rw [addNew_of_notMem h, addNew_of_notMem h', List.filter_append]
    by_cases ha : p a <;> simp [ha]

/-- A test that only looks at keys may be made before the union. -/
theorem filter_unionBy {p : α → Bool} (hp : ∀ a b, key a = key b → p a = p b) :
    (unionBy key l m).filter p = unionBy key (l.filter p) (m.filter p) := by
  induction m generalizing l with
  | nil => rfl
  | cons b m ih =>
    rw [unionBy_cons, ih, filter_addNew hp, List.filter_cons]
    split <;> rfl

theorem unionBy_of_nodup (h : ((l ++ m).map key).Nodup) : unionBy key l m = l ++ m := by
  induction m generalizing l with
  | nil => simp [unionBy]
  | cons b m ih =>
    have hb : key b ∉ l.map key := by
      rw [List.map_append, List.map_cons] at h
      exact fun hb => List.disjoint_of_nodup_append h hb List.mem_cons_self
    rw [unionBy_cons, addNew_of_notMem hb, ih (by simpa using h)]
    simp

theorem firstOfEach_of_nodup (h : (l.map key).Nodup) : firstOfEach key l = l :=
  unionBy_of_nodup (l := []) h

theorem unionBy_of_forall_mem (h : ∀ b ∈ m, key b ∈ l.map key) : unionBy key l m = l := by
  induction m with
  | nil => rfl
  | cons b m ih =>
    rw [unionBy_cons, addNew_of_mem (h b List.mem_cons_self)]
    exact ih fun c hc => h c (List.mem_cons_of_mem _ hc)

/-- Of elements that all have one key, the first stays. -/
theorem firstOfEach_of_forall_eq (h : ∀ a ∈ l, key a = k) : firstOfEach key l = l.head?.toList := by
  cases l with
  | nil => rfl
  | cons a l =>
    refine unionBy_of_forall_mem (l := [a]) fun b hb => ?_
    rw [h b (List.mem_cons_of_mem _ hb), ← h a List.mem_cons_self]
    exact List.mem_singleton_self _

theorem exists_mem_firstOfEach (key : α → κ) (h : a ∈ l) : ∃ b ∈ firstOfEach key l, key b = key a :=
  List.mem_map.1 (mem_map_unionBy.2 (Or.inr (List.mem_map_of_mem h)))

theorem mem_of_mem_firstOfEach (h : a ∈ firstOfEach key l) : a ∈ l := by
  rcases mem_of_mem_unionBy h with h | h
  · cases h
  · exact h

theorem mem_firstOfEach_id {l : List κ} : k ∈ firstOfEach id l ↔ k ∈ l := by
  have hkeys : k ∈ (unionBy id [] l).map id ↔ k ∈ ([] : List κ).map id ∨ k ∈ l.map id :=
    mem_map_unionBy
  simpa [firstOfEach] using hkeys

theorem nodup_addNew (h : (l.map key).Nodup) : ((addNew key l a).map key).Nodup := by
  by_cases ha : key a ∈ l.map key
  · rwa [addNew_of_mem ha]
  · rw [addNew_of_notMem ha, List.map_append, List.map_singleton]
    exact List.nodup_append_comm.1 (List.nodup_cons.2 ⟨ha, h⟩)

theorem nodup_unionBy (h : (l.map key).Nodup) : ((unionBy key l m).map key).Nodup := by
  induction m generalizing l with
  | nil => exact h
  | cons b m ih => exact ih (nodup_addNew h)

/-- Nothing goes exactly where all keys are different. -/
theorem firstOfEach_eq_self_iff : firstOfEach key l = l ↔ (l.map key).Nodup := by
  constructor
  · intro h
    rw [← h]
    exact nodup_unionBy List.nodup_nil
  · exact firstOfEach_of_nodup

/-- A test that only looks at keys may be made before repetitions go. -/
theorem eraseDupsBy_filter {p : α → Bool} (hp : ∀ a b, key a = key b → p a = p b) :
    (m.filter p).eraseDupsBy (fun a b => key a == key b) =
      (m.eraseDupsBy (fun a b => key a == key b)).filter p := by
  induction hn : m.length using Nat.strongRecOn generalizing m with
  | ind n ih =>
    cases m with
    | nil => rfl
    | cons b m =>
      subst hn
      let other (c : α) : Bool := (key c == key b) = false
      have hlen : (m.filter other).length < (b :: m).length :=
        Nat.lt_succ_of_le (List.length_filter_le _ _)
      have hrest := ih _ hlen rfl
      rw [List.eraseDupsBy_cons, List.filter_cons, List.filter_cons]
      split
      · rw [List.eraseDupsBy_cons, ← hrest, List.filter_comm]
      · rename_i hb
        rw [← hrest, List.filter_filter]
        have hsame : ∀ c ∈ m, p c = (p c && other c) := by
          intro c _
          by_cases hc : key c = key b
          · simp [hp c b hc, hb]
          · simp [other, hc]
        rw [List.filter_congr hsame]

/-- What a union adds: the first element of each key that is not there yet. -/
theorem unionBy_eq_append : unionBy key l m =
    l ++ (m.eraseDupsBy (fun a b => key a == key b)).filter (key · ∉ l.map key) := by
  induction m generalizing l with
  | nil => simp [unionBy]
  | cons b m ih =>
    have hnew : ∀ a c : α, key a = key c →
        decide (key a ∉ l.map key) = decide (key c ∉ l.map key) := by
      intro a c h
      rw [h]
    have hother : ∀ a c : α, key a = key c →
        decide ((key a == key b) = false) = decide ((key c == key b) = false) := by
      intro a c h
      rw [h]
    rw [unionBy_cons, ih, List.eraseDupsBy_cons, List.filter_cons, eraseDupsBy_filter hother,
      List.filter_filter]
    by_cases hb : key b ∈ l.map key
    · rw [addNew_of_mem hb, if_neg (by simpa using hb)]
      congr 1
      apply List.filter_congr
      intro c _
      by_cases hc : key c = key b
      · simp [hc, hb]
      · simp [hc]
    · rw [addNew_of_notMem hb, if_pos (by simpa using hb), List.append_assoc, List.singleton_append]
      congr 2
      apply List.filter_congr
      intro c _
      simp only [List.map_append, List.mem_append, List.map_cons, List.map_nil,
        List.mem_singleton]
      by_cases hc : key c = key b <;> simp [hc]

/-- Of the elements of one key, the first stays. -/
theorem filter_key_firstOfEach :
    (firstOfEach key l).filter (key · = k) = (l.find? (key · = k)).toList := by
  rw [firstOfEach, filter_unionBy (fun b c h => by rw [h]), List.filter_nil, ← firstOfEach,
    firstOfEach_of_forall_eq fun b hb => of_decide_eq_true (List.mem_filter.1 hb).2,
    List.head?_filter]

/-- Every key means what it means in the whole list. -/
theorem find?_firstOfEach : (firstOfEach key l).find? (key · = k) = l.find? (key · = k) := by
  rw [← List.head?_filter, filter_key_firstOfEach, Option.head?_toList]

/-- What stays is what comes first under its key. -/
theorem mem_firstOfEach_iff : a ∈ firstOfEach key l ↔ l.find? (key · = key a) = some a := by
  rw [← Option.mem_toList, ← filter_key_firstOfEach, List.mem_filter,
    and_iff_left (decide_eq_true rfl)]

/-- Where all keys are different, an element is the only one of its key. -/
theorem filter_key_of_nodup (h : (l.map key).Nodup) (ha : a ∈ l) :
    l.filter (key · = key a) = [a] := by
  have hsame : firstOfEach key l = l := firstOfEach_of_nodup h
  have hfind : l.find? (key · = key a) = some a := mem_firstOfEach_iff.1 (by rwa [hsame])
  calc l.filter (key · = key a) = (firstOfEach key l).filter (key · = key a) := by rw [hsame]
    _ = (l.find? (key · = key a)).toList := filter_key_firstOfEach
    _ = [a] := by rw [hfind, Option.toList_some]

theorem unionBy_addNew : unionBy key l (addNew key n a) = addNew key (unionBy key l n) a := by
  by_cases h : key a ∈ n.map key
  · rw [addNew_of_mem h, addNew_of_mem (mem_map_unionBy.2 (Or.inr h))]
  · rw [addNew_of_notMem h, unionBy_append]
    rfl

theorem unionBy_assoc :
    unionBy key (unionBy key l n) m = unionBy key l (unionBy key n m) := by
  induction m generalizing n with
  | nil => rfl
  | cons b m ih => rw [unionBy_cons, unionBy_cons, ← unionBy_addNew, ih]

/-- What is there already adds nothing. -/
theorem unionBy_unionBy_self : unionBy key (unionBy key l m) m = unionBy key l m :=
  unionBy_of_forall_mem fun _ hb => mem_map_unionBy.2 (Or.inr (List.mem_map_of_mem hb))

theorem prefix_unionBy : l <+: unionBy key l m := by
  rw [unionBy_eq_append]
  exact List.prefix_append _ _

/-- Repetitions may go from the parts of a list first. -/
theorem firstOfEach_append_firstOfEach :
    firstOfEach key (firstOfEach key l ++ firstOfEach key m) = firstOfEach key (l ++ m) := by
  have hleft : unionBy key [] (firstOfEach key l) = firstOfEach key l := unionBy_assoc.symm
  rw [firstOfEach, unionBy_append, hleft, firstOfEach, firstOfEach, ← unionBy_assoc, firstOfEach,
    unionBy_append]
  rfl

/-- Parts that share no key do not take anything from each other. -/
theorem firstOfEach_append_of_disjoint (h : ∀ a ∈ l, ∀ b ∈ m, key b ≠ key a) :
    firstOfEach key (l ++ m) = firstOfEach key l ++ firstOfEach key m := by
  have hnew : ∀ b ∈ firstOfEach key m, key b ∉ (firstOfEach key l).map key := by
    intro b hb hmem
    obtain ⟨a, ha, hk⟩ := List.mem_map.1 hmem
    exact h a (mem_of_mem_firstOfEach ha) b (mem_of_mem_firstOfEach hb) hk.symm
  have hnodup : ((firstOfEach key l ++ firstOfEach key m).map key).Nodup := by
    rw [List.map_append]
    refine List.nodup_append'.2 ⟨nodup_unionBy List.nodup_nil, nodup_unionBy List.nodup_nil, ?_⟩
    intro k hl hm
    obtain ⟨b, hb, rfl⟩ := List.mem_map.1 hm
    exact hnew b hb hl
  rw [← firstOfEach_append_firstOfEach, firstOfEach_of_nodup hnodup]

/-- What stays keeps the order in which the keys first come up. -/
theorem pairwise_firstOfEach : (firstOfEach key l).Pairwise fun a b =>
    l.findIdx (key · = key a) < l.findIdx (key · = key b) := by
  induction l using List.reverseRecOn with
  | nil => exact .nil
  | append_singleton l c ih =>
    have hplace : ∀ a ∈ firstOfEach key l,
        l.findIdx (key · = key a) < l.length ∧
          (l ++ [c]).findIdx (key · = key a) = l.findIdx (key · = key a) := by
      intro a ha
      have hlt : l.findIdx (key · = key a) < l.length :=
        List.findIdx_lt_length_of_exists ⟨a, mem_of_mem_firstOfEach ha, decide_eq_true rfl⟩
      exact ⟨hlt, by rw [List.findIdx_append, if_pos hlt]⟩
    have hold : (firstOfEach key l).Pairwise fun a b =>
        (l ++ [c]).findIdx (key · = key a) < (l ++ [c]).findIdx (key · = key b) := by
      refine ih.imp_of_mem fun {a b} ha hb hab => ?_
      rw [(hplace a ha).2, (hplace b hb).2]
      exact hab
    rw [firstOfEach, unionBy_append]
    change (addNew key (firstOfEach key l) c).Pairwise _
    by_cases hc : key c ∈ (firstOfEach key l).map key
    · rwa [addNew_of_mem hc]
    · rw [addNew_of_notMem hc]
      refine List.pairwise_append.2 ⟨hold, List.pairwise_singleton _ _, fun a ha b hb => ?_⟩
      -- The key of the new element has not come up before, so it stands behind all others.
      have hnone : ¬ l.findIdx (key · = key c) < l.length := by
        intro hlt
        have hfound := List.findIdx_getElem (w := hlt)
        exact hc (mem_map_unionBy.2 (Or.inr
          (List.mem_map.2 ⟨_, List.getElem_mem hlt, of_decide_eq_true hfound⟩)))
      rw [List.mem_singleton.1 hb, (hplace a ha).2, List.findIdx_append, if_neg hnone]
      exact Nat.lt_of_lt_of_le (hplace a ha).1 (Nat.le_add_left _ _)

section Nonempty

variable {l : List α}

theorem getD_nonempty? : (nonempty? l).getD [] = l := by
  cases l <;> rfl

theorem nonempty?_ne_some_nil : nonempty? l ≠ some [] := by
  cases l <;> simp [nonempty?]

end Nonempty

end Manifests
