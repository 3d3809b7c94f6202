import Manifests.Proofs.ConversionOrder

/-! Which services are in a group after grouping, and which are converted on their own. -/
namespace Manifests

section Lists

variable {α β : Type} {l : List α} {f : α → List β} {p : β → Bool} {b : β}

theorem filter_any_eq_nil (h : (l.flatMap f).filter p = []) :
    l.filter (fun a => (f a).any p) = [] := by
  rw [List.filter_flatMap, List.flatMap_eq_nil_iff] at h
  rw [List.filter_eq_nil_iff]
  intro a ha hany
  obtain ⟨c, hc, hp⟩ := List.any_eq_true.1 hany
  exact List.filter_eq_nil_iff.1 (h a ha) c hc hp

/-- What passes a test once in all lists together does so in one of them. -/
theorem exists_only_of_filter_flatMap (h : (l.flatMap f).filter p = [b]) :
    ∃ a, l.filter (fun a => (f a).any p) = [a] ∧ (f a).filter p = [b] := by
  induction l with
  | nil => cases h
  | cons a l ih =>
    rw [List.flatMap_cons, List.filter_append] at h
    rcases List.append_eq_singleton_iff.1 h with ⟨hnone, hrest⟩ | ⟨hfound, hrest⟩
    · have hany : ¬ (f a).any p := by
        intro hany
        obtain ⟨c, hc, hp⟩ := List.any_eq_true.1 hany
        exact List.filter_eq_nil_iff.1 hnone c hc hp
      rw [List.filter_cons_of_neg (p := fun a => (f a).any p) hany]
      exact ih hrest
    · have hb : b ∈ (f a).filter p := hfound ▸ List.mem_singleton_self b
      obtain ⟨hb, hp⟩ := List.mem_filter.1 hb
      refine ⟨a, ?_, hfound⟩
      rw [List.filter_cons_of_pos (p := fun a => (f a).any p) (List.any_eq_true.2 ⟨b, hb, hp⟩),
        filter_any_eq_nil hrest]

end Lists

theorem Dict.filter_key_entries {β : Type} {d : Dict β} {k : String} {v : β}
    (h : (k, v) ∈ d.entries) : d.entries.filter (·.1 = k) = [(k, v)] := by
  have hnodup : d.entries.Nodup := d.nodup_keys.of_map
  refine List.perm_singleton.1 ((List.perm_ext_iff_of_nodup (hnodup.filter _) (by simp)).2 ?_)
  rintro ⟨k', v'⟩
  rw [List.mem_filter, decide_eq_true_eq, List.mem_singleton]
  constructor
  · rintro ⟨hmem, rfl⟩
    have hsame := (Dict.get?_of_mem hmem).symm.trans (Dict.get?_of_mem h)
    rw [Option.some.inj hsame]
  · intro he
    cases he
    exact ⟨h, rfl⟩

variable {services : Dict Service} {mode : Option String} {key : String} {s member : Service}

/-- The groups that a service of this name is a member of. -/
def groupsWith (services : Dict Service) (mode : Option String) (name : String) : List Group :=
  (groupsOf services mode).filter fun g => g.members.any (·.name = name)

/-- The services of this name that are converted on their own. -/
def lonersNamed (services : Dict Service) (mode : Option String) (name : String) : List Service :=
  (loners services mode).filter (·.name = name)

/-- The units that a service of this name is converted in. -/
def unitsWith (services : Dict Service) (mode : Option String) (name : String) :
    List WorkloadUnit :=
  (unitsOf services mode).filter fun u => u.members.any (·.name = name)

/-- The service is in one unit, once. -/
def IsConvertedOnce (services : Dict Service) (mode : Option String) (member : Service) : Prop :=
  ∃ u, unitsWith services mode member.name = [u] ∧
    u.members.filter (·.name = member.name) = [member]

/-- The service is a member of one group, once, and is not converted on its own. -/
structure Shares (services : Dict Service) (mode : Option String) (member : Service) : Prop where
  group : ∃ g, groupsWith services mode member.name = [g] ∧
    g.members.filter (·.name = member.name) = [member]
  loners : lonersNamed services mode member.name = []

/-- The service is converted on its own, once, and no group has it. -/
structure StandsAlone (services : Dict Service) (mode : Option String) (member : Service) :
    Prop where
  groups : groupsWith services mode member.name = []
  loners : lonersNamed services mode member.name = [member]

/-- No group has the service, and it is not converted on its own either. -/
structure IsLost (services : Dict Service) (mode : Option String) (member : Service) : Prop where
  groups : groupsWith services mode member.name = []
  loners : lonersNamed services mode member.name = []

namespace Group

theorem idOf_enroll : idOf (enroll mode key s) mode = idOf s mode := by
  rw [enroll]
  split
  · rfl
  · rfl

theorem grouped_eq : grouped mode services.entries =
    (enrolled services mode).values.filter fun t => idOf t mode ≠ "" := by
  rw [grouped, values_enrolled, List.filter_map]
  congr 1
  apply List.filter_congr
  intro e _
  rw [Function.comp_apply, idOf_enroll]

end Group

theorem name_enroll_of_name (h : s.name = key) : (Group.enroll mode key s).name = key := by
  rw [Group.enroll]
  split
  · exact h
  · rfl

section Once

variable (mode : Option String) (hs : (key, s) ∈ (keyed services).entries)

include hs

/-- There is one service of each name. -/
theorem filter_name_enrolled (p : Service → Bool) :
    ((enrolled (keyed services) mode).values.filter p).filter (·.name = key) =
      [Group.enroll mode key s].filter p := by
  have hname : ∀ e ∈ (keyed services).entries,
      ((fun t : Service => decide (t.name = key)) ∘ fun e => Group.enroll mode e.1 e.2) e =
        decide (e.1 = key) := by
    intro e he
    rw [Function.comp_apply, name_enroll_of_name (name_of_mem_entries he)]
  rw [List.filter_comm, values_enrolled, List.filter_map, List.filter_congr hname,
    Dict.filter_key_entries hs, List.map_singleton]

theorem filter_name_members : (((groupsOf (keyed services) mode).flatMap (·.members)).filter
    (·.name = key)).Perm ([Group.enroll mode key s].filter fun t => Group.idOf t mode ≠ "") := by
  rw [← filter_name_enrolled mode hs, ← Group.grouped_eq]
  exact members_groupsOf_perm.filter _

theorem lonersNamed_eq : lonersNamed (keyed services) mode key =
    [Group.enroll mode key s].filter (!·.inGroup) :=
  filter_name_enrolled mode hs _

/-- A service that has a group is a member of one. -/
theorem exists_groupsWith (hid : Group.idOf s mode ≠ "") :
    ∃ g, groupsWith (keyed services) mode key = [g] ∧
      g.members.filter (·.name = key) = [Group.enroll mode key s] := by
  have hmembers := filter_name_members mode hs
  rw [List.filter_cons_of_pos (by simpa [Group.idOf_enroll] using hid), List.filter_nil] at hmembers
  exact exists_only_of_filter_flatMap (List.perm_singleton.1 hmembers)

theorem groupsWith_eq_nil (hid : Group.idOf s mode = "") :
    groupsWith (keyed services) mode key = [] := by
  have hmembers := filter_name_members mode hs
  rw [List.filter_cons_of_neg (by simpa [Group.idOf_enroll] using hid), List.filter_nil] at hmembers
  exact filter_any_eq_nil (List.perm_nil.1 hmembers)

theorem groupsWith_eq_nil_iff :
    groupsWith (keyed services) mode key = [] ↔ Group.idOf s mode = "" := by
  constructor
  · intro hnone
    by_contra hid
    obtain ⟨g, hg, _⟩ := exists_groupsWith mode hs hid
    rw [hnone] at hg
    cases hg
  · exact groupsWith_eq_nil mode hs

/-- The mark keeps a service from being converted on its own. -/
theorem lonersNamed_eq_nil_iff :
    lonersNamed (keyed services) mode key = [] ↔ (Group.enroll mode key s).inGroup := by
  rw [lonersNamed_eq mode hs]
  simp

theorem lonersNamed_eq_singleton_iff :
    lonersNamed (keyed services) mode key = [Group.enroll mode key s] ↔
      (Group.enroll mode key s).inGroup = false := by
  rw [lonersNamed_eq mode hs]
  simp

theorem name_of_enroll : (Group.enroll mode key s).name = key :=
  name_enroll_of_name (name_of_mem_entries hs)

theorem shares_iff :
    Shares (keyed services) mode (Group.enroll mode key s) ↔ Group.idOf s mode ≠ "" := by
  have hname := name_of_enroll mode hs
  constructor
  · rintro ⟨⟨g, hg, _⟩, _⟩ hid
    rw [hname, groupsWith_eq_nil mode hs hid] at hg
    cases hg
  · intro hid
    have hmark : (Group.enroll mode key s).inGroup := by simp [inGroup_enroll, hid]
    constructor
    · rw [hname]
      exact exists_groupsWith mode hs hid
    · rw [hname]
      exact (lonersNamed_eq_nil_iff mode hs).2 hmark

theorem standsAlone_iff : StandsAlone (keyed services) mode (Group.enroll mode key s) ↔
    Group.idOf s mode = "" ∧ (Group.enroll mode key s).inGroup = false := by
  have hname := name_of_enroll mode hs
  rw [← groupsWith_eq_nil_iff mode hs, ← lonersNamed_eq_singleton_iff mode hs]
  constructor
  · rintro ⟨hgroups, hloners⟩
    rw [hname] at hgroups hloners
    exact ⟨hgroups, hloners⟩
  · rintro ⟨hgroups, hloners⟩
    exact ⟨by rw [hname, hgroups], by rw [hname, hloners]⟩

theorem isLost_iff : IsLost (keyed services) mode (Group.enroll mode key s) ↔
    Group.idOf s mode = "" ∧ (Group.enroll mode key s).inGroup := by
  have hname := name_of_enroll mode hs
  rw [← groupsWith_eq_nil_iff mode hs, ← lonersNamed_eq_nil_iff mode hs]
  constructor
  · rintro ⟨hgroups, hloners⟩
    rw [hname] at hgroups hloners
    exact ⟨hgroups, hloners⟩
  · rintro ⟨hgroups, hloners⟩
    exact ⟨by rw [hname, hgroups], by rw [hname, hloners]⟩

theorem filter_name_units : (((unitsOf (keyed services) mode).flatMap (·.members)).filter
    (·.name = key)).Perm (([Group.enroll mode key s].filter fun t => Group.idOf t mode ≠ "") ++
      [Group.enroll mode key s].filter (!·.inGroup)) := by
  rw [members_eq_conversionOrder, conversionOrder, List.filter_append]
  refine (filter_name_members mode hs).append ?_
  rw [← lonersNamed_eq mode hs, lonersNamed]

theorem isConvertedOnce_iff : IsConvertedOnce (keyed services) mode (Group.enroll mode key s) ↔
    ¬ IsLost (keyed services) mode (Group.enroll mode key s) := by
  have hunits := filter_name_units mode hs
  have hmark : (Group.enroll mode key s).inGroup = (s.inGroup || Group.idOf s mode ≠ "") :=
    inGroup_enroll
  rw [IsConvertedOnce, isLost_iff mode hs, name_of_enroll mode hs]
  constructor
  · rintro ⟨u, hu, _⟩ ⟨hid, hlost⟩
    have hnone : [Group.enroll mode key s].filter (!·.inGroup) = [] := by simp [hlost]
    rw [List.filter_cons_of_neg (by simpa [Group.idOf_enroll] using hid), List.filter_nil, hnone,
      List.append_nil] at hunits
    rw [unitsWith, filter_any_eq_nil (List.perm_nil.1 hunits)] at hu
    cases hu
  · intro hkept
    have hone : ([Group.enroll mode key s].filter fun t => Group.idOf t mode ≠ "") ++
        [Group.enroll mode key s].filter (!·.inGroup) = [Group.enroll mode key s] := by
      by_cases hid : Group.idOf s mode = ""
      · have hfree : (Group.enroll mode key s).inGroup = false := by simpa [hid] using hkept
        simp [Group.idOf_enroll, hid, hfree]
      · simp [Group.idOf_enroll, hid, hmark]
    rw [hone] at hunits
    exact exists_only_of_filter_flatMap (List.perm_singleton.1 hunits)

end Once

/-- A service as it is in its map after grouping. -/
def afterGrouping (mode : Option String) (key : String) (s : Service) : Service :=
  Group.enroll mode key { s with name := key }

/-- After grouping, a service is marked when it has a group or came with the mark. One that has a
group is a member of that group alone. One that has none is converted on its own, unless it came
with the mark: then it is lost, and only then the mark stands without a group. All others are
converted once. -/
theorem converted_once_iff (mode : Option String) (hs : (key, s) ∈ services.entries) :
    (enrolled (keyed services) mode).get? key = some (afterGrouping mode key s) ∧
    ((afterGrouping mode key s).inGroup ↔ Group.idOf s mode ≠ "" ∨ s.inGroup) ∧
    (Shares (keyed services) mode (afterGrouping mode key s) ↔ Group.idOf s mode ≠ "") ∧
    (StandsAlone (keyed services) mode (afterGrouping mode key s) ↔
      Group.idOf s mode = "" ∧ s.inGroup = false) ∧
    (IsLost (keyed services) mode (afterGrouping mode key s) ↔
      Group.idOf s mode = "" ∧ s.inGroup) ∧
    (IsConvertedOnce (keyed services) mode (afterGrouping mode key s) ↔
      ¬ IsLost (keyed services) mode (afterGrouping mode key s)) ∧
    (((afterGrouping mode key s).inGroup ↔
        Shares (keyed services) mode (afterGrouping mode key s)) ↔
      ¬ IsLost (keyed services) mode (afterGrouping mode key s)) := by
  have hkeyed : (key, { s with name := key }) ∈ (keyed services).entries :=
    List.mem_map.2 ⟨(key, s), hs, rfl⟩
  have hid : Group.idOf { s with name := key } mode = Group.idOf s mode := rfl
  have hmark : (Group.enroll mode key { s with name := key }).inGroup =
      (s.inGroup || Group.idOf s mode ≠ "") := inGroup_enroll
  rw [afterGrouping, isConvertedOnce_iff mode hkeyed, shares_iff mode hkeyed,
    standsAlone_iff mode hkeyed, isLost_iff mode hkeyed, hid, hmark, enrolled, Dict.get?_map,
    Dict.get?_of_mem hkeyed]
  by_cases hnone : Group.idOf s mode = "" <;> cases s.inGroup <;> simp [hnone]

/-- A service that comes with the mark, next to one that does not. -/
def markedServices : Dict Service :=
  .ofList [("api", { image := "api" }), ("web", { image := "nginx", inGroup := true })]

theorem mem_marked : ("api", { image := "api" }) ∈ markedServices.entries ∧
    ("web", { image := "nginx", inGroup := true }) ∈ markedServices.entries := by
  decide +kernel

/-- The service with the mark is lost, the other one is not. -/
theorem converted_once_iff_marked :
    IsLost (keyed markedServices) none
      (afterGrouping none "web" { image := "nginx", inGroup := true }) ∧
    StandsAlone (keyed markedServices) none (afterGrouping none "api" { image := "api" }) := by
  obtain ⟨hapi, hweb⟩ := mem_marked
  obtain ⟨_, _, _, _, hlost, _⟩ := converted_once_iff none hweb
  obtain ⟨_, _, _, halone, _⟩ := converted_once_iff none hapi
  exact ⟨hlost.2 (by decide), halone.2 (by decide)⟩

/-- A service without a group that comes with the mark is not converted. -/
theorem not_all_converted : ¬ ∀ (services : Dict Service) (mode : Option String) (key : String)
    (s : Service), (key, s) ∈ services.entries →
      Shares (keyed services) mode (afterGrouping mode key s) ∨
      StandsAlone (keyed services) mode (afterGrouping mode key s) := by
  intro h
  rcases h markedServices none _ _ mem_marked.2 with ⟨⟨g, hg, _⟩, _⟩ | ⟨_, hloners⟩
  · have hnone : groupsWith (keyed markedServices) none "web" = [] := by decide +kernel
    exact List.cons_ne_nil g [] (hg.symm.trans hnone)
  · have hnone : lonersNamed (keyed markedServices) none "web" = [] := by decide +kernel
    exact List.cons_ne_nil _ [] (hloners.symm.trans hnone)

end Manifests
