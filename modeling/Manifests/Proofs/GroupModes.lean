import Manifests.CommandLine
import Manifests.Proofs.Grouping

/-! Which group modes reach a conversion, and what an unknown one does there. -/
namespace Manifests

variable {services : Dict Service} {mode : Option String}

namespace Group

theorem idOf_of_unknown {s : Service} (h : mode ∉ [some "label", some "volume"]) :
    idOf s mode = "" := by
  unfold idOf
  split
  · exact (h (by simp)).elim
  · exact (h (by simp)).elim
  · rfl

theorem take_of_unknown {d : Dict (List Service)} {e : String × Service}
    (h : mode ∉ [some "label", some "volume"]) : take mode d e = d := by
  rw [take, if_pos (idOf_of_unknown h)]

end Group

theorem groupsOf_of_unknown (h : mode ∉ [some "label", some "volume"]) :
    groupsOf services mode = [] := by
  have hnone : ∀ entries : List (String × Service),
      entries.foldl (Group.take mode) ∅ = (∅ : Dict (List Service)) := by
    intro entries
    induction entries with
    | nil => rfl
    | cons e entries ih => rw [List.foldl_cons, Group.take_of_unknown h, ih]
  rw [groupsOf, hnone]
  rfl

theorem enrolled_of_unknown (h : mode ∉ [some "label", some "volume"]) :
    enrolled services mode = services := by
  apply Dict.ext_entries
  refine (List.map_congr_left fun e _ => ?_).trans (List.map_id' _)
  rw [Group.enroll, if_pos (Group.idOf_of_unknown h)]

/-- A mode that is not known is as good as none. -/
theorem convert_of_unknown {opt : Options} (h : opt.groupMode ∉ [some "label", some "volume"]) :
    convert services opt = convert services { opt with groupMode := none } := by
  have hnone : (none : Option String) ∉ [some "label", some "volume"] := by
    simp
  have hunits : unitsOf (keyed services) opt.groupMode = unitsOf (keyed services) none := by
    rw [unitsOf, unitsOf, groupsOf_of_unknown h, groupsOf_of_unknown hnone, enrolled_of_unknown h,
      enrolled_of_unknown hnone]
  have henrolled : enrolled (keyed services) opt.groupMode = enrolled (keyed services) none := by
    rw [enrolled_of_unknown h, enrolled_of_unknown hnone]
  rw [convert, convert]
  dsimp only
  rw [hunits, henrolled]
  rfl

namespace ConvertRequest

variable {c c' : ConvertRequest} {s : ConvertSettings} {opt : Options}

theorem all_ne_iff {mode : String} :
    (["label", "volume"].all fun known => known ≠ mode) ↔
      some mode ∉ [none, some "label", some "volume"] := by
  simp only [List.all_cons, List.all_nil, Bool.and_true, Bool.and_eq_true, decide_eq_true_eq,
    List.mem_cons, List.not_mem_nil, Option.some.injEq, reduceCtorEq, false_or, or_false, not_or,
    ne_eq, @eq_comm _ mode]

/-- What is checked is the flag alone, and an empty mode does not pass. -/
theorem checked_ok_iff : c.checked = .ok c' ↔
    c' = c ∧ ¬ (c.stdout ∧ c.out.isSome) ∧ c.groupMode ∈ [none, some "label", some "volume"] := by
  rw [checked, ← Bool.and_eq_true]
  split
  · rename_i hboth
    refine iff_of_false (fun h => ?_) fun h => h.2.1 hboth
    cases h
  · rename_i hboth
    dsimp only
    split
    · rename_i mode hmode
      obtain ⟨hmode, hunknown⟩ := Option.filter_eq_some_iff.1 hmode
      refine iff_of_false (fun h => ?_) fun h => all_ne_iff.1 hunknown (hmode ▸ h.2.2)
      cases h
    · rename_i hknown
      have hpasses : c.groupMode ∈ [none, some "label", some "volume"] := by
        by_contra hno
        cases hmode : c.groupMode with
        | none => exact hno (hmode ▸ List.mem_cons_self)
        | some mode =>
          rw [hmode] at hno hknown
          exact Option.filter_eq_none_iff.1 hknown mode rfl (all_ne_iff.2 hno)
      constructor
      · intro h
        cases h
        exact ⟨rfl, hboth, hpasses⟩
      · rintro ⟨rfl, -, -⟩
        rfl

/-- Whatever the source of the other choices, the mode of the flag goes before that of the
settings. -/
theorem groupMode_options (h : c.options s = .ok opt) :
    opt.groupMode = c.groupMode.or s.groupMode := by
  rw [options] at h
  split at h
  all_goals
    obtain ⟨controller, _, h⟩ := bind_ok h
    dsimp only at h
    split at h
  all_goals
    obtain ⟨provider, _, h⟩ := bind_ok h
    split at h
  all_goals
    obtain ⟨volumes, _, h⟩ := bind_ok h
    cases h
    rfl

/-- The modes that a conversion knows, and the two ways to ask for none. -/
def knownModes : List (Option String) := [none, some "", some "label", some "volume"]

/-- The check covers the flag and the merging checks nothing, so the mode is known exactly if the
flag gives it or the settings happen to name a known one. One that is not known counts as none. -/
theorem groupMode_known_iff (hc : c.checked = .ok c') (ho : c'.options s = .ok opt) :
    opt.groupMode = c.groupMode.or s.groupMode ∧
    (opt.groupMode ∈ knownModes ↔ c.groupMode.isSome ∨ s.groupMode ∈ knownModes) ∧
    (opt.groupMode ∉ knownModes → ∀ services : Dict Service,
      convert services opt = convert services { opt with groupMode := none }) := by
  obtain ⟨rfl, -, hflag⟩ := checked_ok_iff.1 hc
  have hmode := groupMode_options ho
  refine ⟨hmode, ?_, fun hunknown services => convert_of_unknown fun hknown => ?_⟩
  · rw [hmode]
    cases hgiven : c'.groupMode with
    | none => simp
    | some mode =>
      rw [hgiven] at hflag
      refine iff_of_true ?_ (.inl rfl)
      rw [Option.some_or]
      simp only [knownModes, List.mem_cons] at hflag ⊢
      tauto
  · exact hunknown (List.mem_cons_of_mem _ (List.mem_cons_of_mem _ hknown))

/-- Settings that name a mode which is not known. -/
def podSettings : ConvertSettings := { groupMode := some "pod" }

theorem groupMode_known_iff_pod :
    (∃ opt, ({ groupMode := some "label" } : ConvertRequest).options podSettings = .ok opt ∧
      opt.groupMode ∈ knownModes) ∧
    ∃ opt, ({} : ConvertRequest).options podSettings = .ok opt ∧ opt.groupMode ∉ knownModes ∧
      ∀ services, convert services opt = convert services { opt with groupMode := none } := by
  constructor
  · have h := groupMode_known_iff (c := { groupMode := some "label" }) (s := podSettings) rfl rfl
    exact ⟨_, rfl, h.2.1.2 (.inl rfl)⟩
  · have h := groupMode_known_iff (c := {}) (s := podSettings) rfl rfl
    have hunknown : (some "pod" : Option String) ∉ knownModes := by decide
    exact ⟨_, rfl, hunknown, h.2.2 hunknown⟩

theorem not_all_modes_known : ¬ ∀ (c c' : ConvertRequest) (s : ConvertSettings) (opt : Options),
    c.checked = .ok c' → c'.options s = .ok opt → opt.groupMode ∈ knownModes := by
  intro h
  have hknown := h { file := "services.yaml" } _ podSettings _ rfl rfl
  revert hknown
  decide

end ConvertRequest

end Manifests
