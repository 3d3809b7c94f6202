import Manifests.Proofs.ByteOrder
import Manifests.Proofs.Membership

/-! How the services of an application fall into groups. -/
namespace Manifests

variable {services after : Dict Service} {mode : Option String} {groups : List Group} {g : Group}
  {key id : String} {s : Service}

namespace Group

variable {d : Dict (List Service)} {entries : List (String × Service)} {e : String × Service}

/-- A service as a member of a group. -/
def member (key : String) (s : Service) : Service := { s with name := key, inGroup := true }

/-- The services of one id, as members, in the order in which they come. -/
def membersOf (mode : Option String) (id : String) (entries : List (String × Service)) :
    List Service :=
  (entries.filter fun e => idOf e.2 mode = id).map fun e => member e.1 e.2

theorem enroll_eq_member (h : idOf s mode ≠ "") : enroll mode key s = member key s := if_neg h

/-- One more service goes to the end of its group, and no other group changes. -/
theorem get?_take (hid : id ≠ "") : ((take mode d e).get? id).getD [] =
    (d.get? id).getD [] ++ membersOf mode id [e] := by
  rw [take, membersOf]
  split
  · rename_i hnone
    rw [List.filter_cons_of_neg (by simpa [hnone] using Ne.symm hid)]
    simp
  · rename_i hsome
    rw [join, Dict.get?_insert]
    by_cases hsame : id = idOf e.2 mode
    · subst hsame
      simp [enroll_eq_member hsome]
    · rw [if_neg hsame, List.filter_cons_of_neg (by simpa using Ne.symm hsame)]
      simp

/-- What the services leave under an id: those that are there, and then all services of the id. -/
theorem get?_foldl_take (hid : id ≠ "") : ((entries.foldl (take mode) d).get? id).getD [] =
    (d.get? id).getD [] ++ membersOf mode id entries := by
  induction entries generalizing d with
  | nil => simp [membersOf]
  | cons e entries ih =>
    have hcons : membersOf mode id (e :: entries) =
        membersOf mode id [e] ++ membersOf mode id entries := by
      rw [membersOf, membersOf, membersOf, ← List.map_append, ← List.filter_append,
        List.singleton_append]
    rw [List.foldl_cons, ih, get?_take hid, hcons, List.append_assoc]

/-- Services without a group are put nowhere. -/
theorem get?_empty_foldl_take : (entries.foldl (take mode) d).get? "" = d.get? "" := by
  induction entries generalizing d with
  | nil => rfl
  | cons e entries ih =>
    rw [List.foldl_cons, ih, take]
    split
    · rfl
    · rename_i hsome
      rw [join, Dict.get?_insert, if_neg (Ne.symm hsome)]

/-- Each id has all services of the id under it. -/
theorem getD_get?_foldl_take (hid : id ≠ "") :
    ((services.entries.foldl (take mode) ∅).get? id).getD [] =
      membersOf mode id services.entries := by
  rw [get?_foldl_take hid]
  rfl

/-- The group of an id. -/
def ofId (services : Dict Service) (mode : Option String) (id : String) : Group :=
  ⟨id, workloadName mode id (membersOf mode id services.entries),
    membersOf mode id services.entries⟩

theorem mem_membersOf {m : Service} : m ∈ membersOf mode id services.entries ↔
    ∃ s, services.get? m.name = some s ∧ idOf s mode = id ∧ m = member m.name s := by
  rw [membersOf, List.mem_map]
  constructor
  · rintro ⟨e, he, rfl⟩
    obtain ⟨he, hid⟩ := List.mem_filter.1 he
    exact ⟨e.2, Dict.get?_of_mem he, by simpa using hid, rfl⟩
  · rintro ⟨s, hs, hid, hm⟩
    refine ⟨(m.name, s), List.mem_filter.2 ⟨Dict.mem_of_get? hs, by simpa using hid⟩, hm.symm⟩

theorem increasing_membersOf :
    (membersOf mode id services.entries).Pairwise fun s t => s.name < t.name :=
  List.pairwise_map.2 (services.increasing.filter _)

/-- A service is a member of its group once. -/
theorem filter_name_membersOf (hs : services.get? key = some s) :
    (membersOf mode (idOf s mode) services.entries).filter (·.name = key) = [member key s] := by
  have hname : ((fun t : Service => decide (t.name = key)) ∘ fun e : String × Service =>
      member e.1 e.2) = fun e => decide (e.1 = key) := rfl
  rw [membersOf, List.filter_map, hname, List.filter_comm,
    Dict.filter_key_entries (Dict.mem_of_get? hs), List.filter_cons_of_pos (by simp)]
  rfl

end Group

theorem mem_groupsOf : g ∈ groupsOf services mode ↔
    g.id ≠ "" ∧ g.members ≠ [] ∧ g = Group.ofId services mode g.id := by
  constructor
  · intro hg
    obtain ⟨⟨id, members⟩, he, rfl⟩ := List.mem_map.1 hg
    have hget := Dict.get?_of_mem he
    have hid : id ≠ "" := by
      rintro rfl
      rw [Group.get?_empty_foldl_take] at hget
      cases hget
    have hmembers : members = Group.membersOf mode id services.entries := by
      rw [← Group.getD_get?_foldl_take hid, hget, Option.getD_some]
    subst hmembers
    refine ⟨hid, fun hnil => ?_, rfl⟩
    change Group.membersOf mode id services.entries = [] at hnil
    rw [hnil] at hget
    exact Group.ne_nil_of_foldl (d := ∅) List.not_mem_nil (Dict.mem_values_of_get? hget)
  · rintro ⟨hid, hmembers, hg⟩
    have hget : ((services.entries.foldl (Group.take mode) ∅).get? g.id).getD [] =
        Group.membersOf mode g.id services.entries := Group.getD_get?_foldl_take hid
    rw [hg] at hmembers
    cases hfound : (services.entries.foldl (Group.take mode) ∅).get? g.id with
    | none =>
      rw [hfound] at hget
      exact (hmembers hget.symm).elim
    | some members =>
      rw [hfound, Option.getD_some] at hget
      refine List.mem_map.2 ⟨(g.id, members), Dict.mem_of_get? hfound, ?_⟩
      rw [hg, hget]
      rfl

theorem increasing_groupsOf : (groupsOf services mode).Pairwise fun g h => g.id < h.id :=
  List.pairwise_map.2 (Dict.increasing _)

theorem nodup_ids : ((groupsOf services mode).map (·.id)).Nodup := by
  refine List.pairwise_map.2 (increasing_groupsOf.imp ?_)
  intro a b hlt heq
  exact String.lt_irrefl b.id (heq ▸ hlt)

/-- How services fall into groups: the list of the groups, and the services afterwards. -/
structure IsGrouping (services : Dict Service) (mode : Option String) (groups : List Group)
    (after : Dict Service) : Prop where
  ids_ne : "" ∉ groups.map (·.id)
  ids_nodup : (groups.map (·.id)).Nodup
  ids_ordered : (groups.map (·.id)).Pairwise fun i j => Text.bytes i < Text.bytes j
  names_ordered : ∀ g ∈ groups,
    (g.members.map (·.name)).Pairwise fun m n => Text.bytes m < Text.bytes n
  /-- Groups have no other members than services of their id. -/
  mem_members : ∀ g ∈ groups, ∀ m ∈ g.members, ∃ s, services.get? m.name = some s ∧
    Group.idOf s mode = g.id ∧ m = Group.member m.name s
  /-- A service that has an id is in the group of that id and in no other, once, and it is the
  same afterwards as in its group. -/
  shared : ∀ key s, services.get? key = some s → Group.idOf s mode ≠ "" →
    (∃ g, groups.filter (fun g => g.members.any (·.name = key)) = [g] ∧
      g.id = Group.idOf s mode ∧ g.members.filter (·.name = key) = [Group.member key s]) ∧
    after.get? key = some (Group.member key s)
  /-- A service that has none is left alone. -/
  alone : ∀ key s, services.get? key = some s → Group.idOf s mode = "" →
    groups.filter (fun g => g.members.any (·.name = key)) = [] ∧ after.get? key = some s
  keys : after.keys = services.keys
  name : ∀ g ∈ groups, ∃ first, g.members.head? = some first ∧
    g.name = resourceName (if mode = some "volume" then first.name else g.id)

theorem Group.workloadName_eq {members : List Service} {first : Service}
    (h : members.head? = some first) : workloadName mode id members =
      resourceName (if mode = some "volume" then first.name else id) := by
  rw [workloadName, h]
  split <;> rfl

theorem head?_of_mem_groupsOf (hg : g ∈ groupsOf services mode) : ∃ first,
    g.members.head? = some first ∧
      g.name = resourceName (if mode = some "volume" then first.name else g.id) := by
  obtain ⟨_, hmembers, hid⟩ := mem_groupsOf.1 hg
  obtain ⟨first, rest, hfirst⟩ := List.exists_cons_of_ne_nil hmembers
  have hhead : g.members.head? = some first := by rw [hfirst]; rfl
  have hname : g.name = Group.workloadName mode g.id g.members := by
    rw [hid]
    rfl
  exact ⟨first, hhead, hname.trans (Group.workloadName_eq hhead)⟩

theorem groups_eq_of_mem {h : Group} (hg : g ∈ groupsOf services mode)
    (hh : h ∈ groupsOf services mode) (hid : g.id = h.id) : g = h := by
  rw [(mem_groupsOf.1 hg).2.2, (mem_groupsOf.1 hh).2.2, hid]

/-- The groups that a service is found in are those of its id. -/
theorem filter_any_groupsOf (hs : services.get? key = some s) :
    (groupsOf services mode).filter (fun g => g.members.any (·.name = key)) =
      (groupsOf services mode).filter (·.id = Group.idOf s mode) := by
  apply List.filter_congr
  intro g hg
  obtain ⟨_, _, hof⟩ := mem_groupsOf.1 hg
  have hmembers : g.members = Group.membersOf mode g.id services.entries := congrArg (·.members) hof
  rw [Bool.eq_iff_iff, List.any_eq_true, decide_eq_true_eq, hmembers]
  constructor
  · rintro ⟨m, hm, hname⟩
    obtain ⟨t, ht, hid, _⟩ := Group.mem_membersOf.1 hm
    rw [decide_eq_true_eq] at hname
    rw [hname, hs, Option.some_inj] at ht
    rw [← hid, ht]
  · intro hid
    refine ⟨Group.member key s, Group.mem_membersOf.2 ⟨s, hs, hid.symm, rfl⟩, ?_⟩
    exact decide_eq_true rfl

theorem filter_id_groupsOf (hs : services.get? key = some s) (hid : Group.idOf s mode ≠ "") :
    (groupsOf services mode).filter (·.id = Group.idOf s mode) =
      [Group.ofId services mode (Group.idOf s mode)] := by
  have hmem : Group.ofId services mode (Group.idOf s mode) ∈ groupsOf services mode := by
    refine mem_groupsOf.2 ⟨hid, ?_, rfl⟩
    exact List.ne_nil_of_mem (Group.mem_membersOf.2 ⟨s, hs, rfl, rfl⟩ :
      Group.member key s ∈ Group.membersOf mode (Group.idOf s mode) services.entries)
  have hnodup : (groupsOf services mode).Nodup := nodup_ids.of_map
  refine List.perm_singleton.1 ((List.perm_ext_iff_of_nodup (hnodup.filter _) (by simp)).2 ?_)
  intro g
  rw [List.mem_filter, decide_eq_true_eq, List.mem_singleton]
  constructor
  · rintro ⟨hg, hsame⟩
    exact groups_eq_of_mem hg hmem hsame
  · rintro rfl
    exact ⟨hmem, rfl⟩

theorem isGrouping_groupsOf (services : Dict Service) (mode : Option String) :
    IsGrouping services mode (groupsOf services mode) (enrolled services mode) where
  ids_ne := by
    intro hmem
    obtain ⟨g, hg, hid⟩ := List.mem_map.1 hmem
    exact (mem_groupsOf.1 hg).1 hid
  ids_nodup := nodup_ids
  ids_ordered := List.pairwise_map.2 (increasing_groupsOf.imp bytes_lt_of_lt)
  names_ordered := by
    intro g hg
    rw [(mem_groupsOf.1 hg).2.2]
    exact List.pairwise_map.2 (Group.increasing_membersOf.imp bytes_lt_of_lt)
  mem_members := by
    intro g hg m hm
    rw [(mem_groupsOf.1 hg).2.2] at hm
    exact Group.mem_membersOf.1 hm
  shared := by
    intro key s hs hid
    refine ⟨⟨_, (filter_any_groupsOf hs).trans (filter_id_groupsOf hs hid), rfl,
      Group.filter_name_membersOf hs⟩, ?_⟩
    rw [enrolled, Dict.get?_map, hs, Option.map_some, Group.enroll_eq_member hid]
  alone := by
    intro key s hs hid
    constructor
    · rw [filter_any_groupsOf hs, List.filter_eq_nil_iff]
      intro g hg hsame
      rw [decide_eq_true_eq, hid] at hsame
      exact (mem_groupsOf.1 hg).1 hsame
    · rw [enrolled, Dict.get?_map, hs, Option.map_some, Group.enroll, if_pos hid]
  keys := by
    rw [enrolled, Dict.map, Dict.keys, Dict.keys, List.map_map]
    rfl
  name := fun _ => head?_of_mem_groupsOf

theorem Dict.eq_of_get? {β : Type} {d e : Dict β} (h : ∀ k, d.get? k = e.get? k) : d = e := by
  have hordered : ∀ c : Dict β,
      (c.entries.map Prod.fst).Pairwise fun a b => Text.bytes a < Text.bytes b :=
    fun c => List.pairwise_map.2 (c.increasing.imp bytes_lt_of_lt)
  apply Dict.ext_entries
  apply eq_of_ordered (hordered d) (hordered e)
  rintro ⟨k, v⟩
  constructor
  · intro hmem
    exact Dict.mem_of_get? ((h k).symm.trans (Dict.get?_of_mem hmem))
  · intro hmem
    exact Dict.mem_of_get? ((h k).trans (Dict.get?_of_mem hmem))

namespace IsGrouping

variable (h : IsGrouping services mode groups after)

include h

theorem exists_group (hs : services.get? key = some s) (hid : Group.idOf s mode ≠ "") :
    ∃ g ∈ groups, g.id = Group.idOf s mode ∧ Group.member key s ∈ g.members := by
  obtain ⟨⟨g, hg, hgid, hmembers⟩, _⟩ := h.shared key s hs hid
  have hmem : g ∈ groups.filter fun g => g.members.any (·.name = key) := by
    rw [hg]
    exact List.mem_singleton_self g
  have hin : Group.member key s ∈ g.members.filter (·.name = key) := by
    rw [hmembers]
    exact List.mem_singleton_self _
  exact ⟨g, (List.mem_filter.1 hmem).1, hgid, (List.mem_filter.1 hin).1⟩

theorem members_eq (hg : g ∈ groups) :
    g.members = Group.membersOf mode g.id services.entries := by
  have hid : g.id ≠ "" := fun hid => h.ids_ne (hid ▸ List.mem_map_of_mem hg)
  refine eq_of_ordered (h.names_ordered g hg)
    (List.pairwise_map.2 (Group.increasing_membersOf.imp bytes_lt_of_lt)) fun m => ?_
  rw [Group.mem_membersOf]
  constructor
  · exact h.mem_members g hg m
  · rintro ⟨s, hs, hsid, hm⟩
    obtain ⟨g', hg', hid', hin⟩ := h.exists_group hs (hsid ▸ hid)
    rwa [List.inj_on_of_nodup_map h.ids_nodup hg' hg (hid'.trans hsid), ← hm] at hin

theorem mem_groupsOf_of_mem (hg : g ∈ groups) : g ∈ groupsOf services mode := by
  obtain ⟨first, hfirst, hname⟩ := h.name g hg
  have hmembers := h.members_eq hg
  have hworkload : Group.workloadName mode g.id g.members = g.name :=
    (Group.workloadName_eq hfirst).trans hname.symm
  refine mem_groupsOf.2 ⟨fun hid => h.ids_ne (hid ▸ List.mem_map_of_mem hg), ?_, ?_⟩
  · intro hnil
    rw [hnil] at hfirst
    cases hfirst
  · rw [Group.ofId, ← hmembers, hworkload]

theorem mem_iff : g ∈ groups ↔ g ∈ groupsOf services mode := by
  refine ⟨h.mem_groupsOf_of_mem, fun hg => ?_⟩
  obtain ⟨hid, hmembers, hof⟩ := mem_groupsOf.1 hg
  obtain ⟨m, hm⟩ := List.exists_mem_of_ne_nil _ hmembers
  rw [hof] at hm
  obtain ⟨s, hs, hsid, _⟩ := Group.mem_membersOf.1 hm
  obtain ⟨g', hg', hid', _⟩ := h.exists_group hs (hsid ▸ hid)
  rw [groups_eq_of_mem hg (h.mem_groupsOf_of_mem hg') (hsid.symm.trans hid'.symm)]
  exact hg'

theorem get?_after : after.get? key = (enrolled services mode).get? key := by
  rw [enrolled, Dict.get?_map]
  cases hs : services.get? key with
  | none =>
    have hkey : ¬ after.contains key := by
      rw [Dict.contains_iff_mem_keys, h.keys, ← Dict.contains_iff_mem_keys, Dict.contains, hs]
      exact Bool.false_ne_true
    simpa [Dict.contains] using hkey
  | some s =>
    rw [Option.map_some]
    by_cases hid : Group.idOf s mode = ""
    · rw [(h.alone key s hs hid).2, Group.enroll, if_pos hid]
    · rw [(h.shared key s hs hid).2, Group.enroll_eq_member hid]

end IsGrouping

/-- Services fall into groups in one way: each is a member, once, of the group of its id and of no
other group, or has no id and is left alone. -/
theorem isGrouping_iff : IsGrouping services mode groups after ↔
    groups = groupsOf services mode ∧ after = enrolled services mode := by
  constructor
  · intro h
    have hordered := (isGrouping_groupsOf services mode).ids_ordered
    exact ⟨eq_of_ordered h.ids_ordered hordered fun _ => h.mem_iff,
      Dict.eq_of_get? fun _ => h.get?_after⟩
  · rintro ⟨rfl, rfl⟩
    exact isGrouping_groupsOf services mode

end Manifests
