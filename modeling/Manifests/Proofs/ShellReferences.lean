import Mathlib.Data.List.Forall2
import Manifests.PodStep
import Manifests.Proofs.Text

/-! What becomes of the references to variables in the arguments of a command. What a reference is,
and which one of a text comes first, is said on its own; the rewriting takes one after the other and
leaves none, because no text can come to refer to a variable where it is put together. -/
namespace Manifests.ShellReference

variable {s t w w' name name' before before' after after' rest : List Char} {c : Char}

/-- A letter or an underscore, and behind it letters, digits and underscores. -/
def IsVariable (name : List Char) : Prop :=
  ∃ c behind, name = c :: behind ∧ (c.isAlpha ∨ c = '_') ∧ ∀ d ∈ behind, d.isAlphanum ∨ d = '_'

/-- How a variable is referred to. -/
inductive Spells (name : List Char) : List Char → Prop
  | bare (h : IsVariable name) : Spells name ('$' :: name)
  | braced (h : IsVariable name) : Spells name ('$' :: '{' :: (name ++ ['}']))

/-- Somewhere in the text a variable is referred to. -/
def Refers (s : List Char) : Prop :=
  ∃ before w after name, s = before ++ w ++ after ∧ Spells name w

/-- The first reference in a text, with all that can belong to it. -/
structure FirstReference (s before w after name : List Char) : Prop where
  parts : s = before ++ w ++ after
  spells : Spells name w
  leftmost : ∀ before' w' after' name', s = before' ++ w' ++ after' → Spells name' w' →
    before.length ≤ before'.length
  longest : ∀ w' after' name', s = before ++ w' ++ after' → Spells name' w' → w'.length ≤ w.length

/-- The form in which a cluster resolves a variable. -/
def resolvable (name : List Char) : List Char := '$' :: '(' :: (name ++ [')'])

/-- A text with its references written in the other form, one after another from the front, and all
else as it is. -/
inductive Rewritten : List Char → List Char → Prop
  | unchanged {s : List Char} (h : ¬Refers s) : Rewritten s s
  | next {s before w after name t : List Char} (h : FirstReference s before w after name)
      (ht : Rewritten after t) : Rewritten s (before ++ resolvable name ++ t)

section Names

theorem isStart_iff : isStart c ↔ c.isAlpha ∨ c = '_' := by
  have hupper : c.isUpper = ('A' ≤ c && c ≤ 'Z') := Bool.decide_and ('A' ≤ c) (c ≤ 'Z')
  have hlower : c.isLower = ('a' ≤ c && c ≤ 'z') := rfl
  have halpha : c.isAlpha = (c.isUpper || c.isLower) := rfl
  rw [isStart, Bool.or_eq_true, decide_eq_true_eq, halpha, hupper, hlower, Bool.or_comm]

theorem isPart_iff : isPart c ↔ c.isAlphanum ∨ c = '_' := by
  have halphanum : c.isAlphanum = (c.isAlpha || ('0' ≤ c && c ≤ '9')) := rfl
  rw [isPart, Bool.or_eq_true, isStart_iff, halphanum, Bool.or_eq_true]
  exact or_right_comm

theorem isVariable_iff : IsVariable name ↔ isName name ∧ ∀ c ∈ name, isPart c := by
  constructor
  · rintro ⟨c, behind, rfl, hc, hbehind⟩
    have hstart : isStart c := isStart_iff.2 hc
    refine ⟨hstart, List.forall_mem_cons.2 ⟨?_, fun d hd => isPart_iff.2 (hbehind d hd)⟩⟩
    rw [isPart, hstart, Bool.true_or]
  · rintro ⟨hname, hparts⟩
    cases name with
    | nil => cases hname
    | cons c behind =>
      rw [List.forall_mem_cons] at hparts
      exact ⟨c, behind, rfl, isStart_iff.1 hname, fun d hd => isPart_iff.1 (hparts.2 d hd)⟩

theorem ne_of_isPart {d : Char} (hc : isPart c) (hd : isPart d = false) : c ≠ d := by
  rintro rfl
  rw [hc] at hd
  cases hd

theorem Spells.isVariable (h : Spells name w) : IsVariable name := by
  cases h with
  | bare h => exact h
  | braced h => exact h

/-- A reference opens with a dollar sign and has no other. -/
theorem Spells.eq_cons (h : Spells name w) : ∃ v, w = '$' :: v ∧ ∀ c ∈ v, c ≠ '$' := by
  cases h with
  | bare h =>
    obtain ⟨-, hparts⟩ := isVariable_iff.1 h
    exact ⟨name, rfl, fun c hc => ne_of_isPart (hparts c hc) (by decide)⟩
  | braced h =>
    obtain ⟨-, hparts⟩ := isVariable_iff.1 h
    refine ⟨_, rfl, fun c hc => ?_⟩
    rw [List.mem_cons, List.mem_append, List.mem_singleton] at hc
    rcases hc with rfl | hc | rfl
    · decide
    · exact ne_of_isPart (hparts c hc) (by decide)
    · decide

/-- A reference is to one variable. -/
theorem Spells.name_unique (h : Spells name w) (h' : Spells name' w) : name = name' := by
  have hopen : ∀ {v behind : List Char}, IsVariable v → v ≠ '{' :: behind := by
    rintro v behind hv rfl
    have hbrace : ¬isStart '{' := by decide
    exact hbrace (isVariable_iff.1 hv).1
  cases h with
  | bare hname =>
    generalize hw : '$' :: name = w at h'
    cases h' with
    | bare hname' => exact (List.cons.inj hw).2
    | braced hname' => exact absurd (List.cons.inj hw).2 (hopen hname)
  | braced hname =>
    generalize hw : '$' :: '{' :: (name ++ ['}']) = w at h'
    cases h' with
    | bare hname' => exact absurd (List.cons.inj hw).2.symm (hopen hname')
    | braced hname' =>
      exact List.append_cancel_right (List.cons.inj (List.cons.inj hw).2).2

end Names

section Reading

theorem read?_bare (h : IsVariable name) :
    read? (name ++ rest) = some (name ++ rest.takeWhile isPart, rest.dropWhile isPart) := by
  obtain ⟨hname, hparts⟩ := isVariable_iff.1 h
  have htake : (name ++ rest).takeWhile isPart = name ++ rest.takeWhile isPart :=
    List.takeWhile_append_of_pos hparts
  have hdrop : (name ++ rest).dropWhile isPart = rest.dropWhile isPart :=
    List.dropWhile_append_of_pos hparts
  cases name with
  | nil => cases hname
  | cons c behind =>
    have hc : c ≠ '{' := ne_of_isPart (hparts c List.mem_cons_self) (by decide)
    unfold read?
    split
    · rename_i heq
      exact absurd (List.cons.inj heq).1 hc
    · rw [htake, hdrop]
      exact if_pos hname

theorem read?_braced (h : IsVariable name) :
    read? ('{' :: (name ++ '}' :: rest)) = some (name, rest) := by
  obtain ⟨hname, hparts⟩ := isVariable_iff.1 h
  have hstop : ('}' :: rest).takeWhile isPart = [] := rfl
  have htake : (name ++ '}' :: rest).takeWhile isPart = name :=
    takeWhile_append_of_stop hparts hstop
  have hdrop : (name ++ '}' :: rest).dropWhile isPart = '}' :: rest :=
    dropWhile_append_of_stop hparts hstop
  simp only [read?, htake, hdrop, hname, if_true]

/-- Where a dollar sign opens a reference, one is read that goes at least as far. -/
theorem exists_read?_of_spells (h : Spells name w) (hs : '$' :: s = w ++ after) :
    ∃ name' rest, read? s = some (name', rest) ∧ rest.length ≤ after.length := by
  cases h with
  | bare h =>
    rw [List.cons_append] at hs
    rw [(List.cons.inj hs).2]
    exact ⟨_, _, read?_bare h, length_dropWhile_le isPart after⟩
  | braced h =>
    rw [List.cons_append, List.cons_append, List.append_assoc, List.singleton_append] at hs
    rw [(List.cons.inj hs).2]
    exact ⟨_, _, read?_braced h, Nat.le_refl _⟩

/-- What is read behind a dollar sign is a reference and the text that follows it. -/
theorem spells_of_read? (h : read? s = some (name, rest)) :
    ∃ w, Spells name w ∧ '$' :: s = w ++ rest := by
  have hclass : ∀ u : List Char, ∀ c ∈ u.takeWhile isPart, isPart c :=
    fun _ _ => List.mem_takeWhile_imp
  unfold read? at h
  split at h
  · rename_i u
    split at h
    · rename_i tail htail
      split at h
      · rename_i hname
        cases h
        refine ⟨_, .braced (isVariable_iff.2 ⟨hname, hclass u⟩), ?_⟩
        rw [List.cons_append, List.cons_append, List.append_assoc, List.singleton_append, ← htail,
          List.takeWhile_append_dropWhile]
      · cases h
    · cases h
  · split at h
    · rename_i hname
      cases h
      refine ⟨_, .bare (isVariable_iff.2 ⟨hname, hclass s⟩), ?_⟩
      rw [List.cons_append, List.takeWhile_append_dropWhile]
    · cases h

end Reading

/-- The text opens with a reference. -/
def Opens (s : List Char) : Prop := ∃ w after name, s = w ++ after ∧ Spells name w

section Places

theorem not_opens_of_ne (hc : c ≠ '$') : ¬Opens (c :: s) := by
  rintro ⟨w, after, name, hs, hw⟩
  obtain ⟨v, rfl, -⟩ := hw.eq_cons
  exact hc (List.cons.inj hs).1

theorem not_opens_of_read? (h : read? s = none) : ¬Opens ('$' :: s) := by
  rintro ⟨w, after, name, hs, hw⟩
  obtain ⟨name', rest, hread, -⟩ := exists_read?_of_spells hw hs
  rw [h] at hread
  cases hread

/-- Whether a dollar sign opens a reference is settled before the next one. -/
theorem opens_congr (h : s.takeWhile (· ≠ '$') = t.takeWhile (· ≠ '$')) (hs : Opens ('$' :: s)) :
    Opens ('$' :: t) := by
  obtain ⟨w, after, name, hparts, hw⟩ := hs
  obtain ⟨v, rfl, hv⟩ := hw.eq_cons
  have hnone : ∀ c ∈ v, (decide (c ≠ '$')) = true := fun c hc => decide_eq_true (hv c hc)
  rw [List.cons_append] at hparts
  rw [(List.cons.inj hparts).2, List.takeWhile_append_of_pos hnone] at h
  refine ⟨_, after.takeWhile (· ≠ '$') ++ t.dropWhile (· ≠ '$'), name, ?_, hw⟩
  rw [List.cons_append, ← List.append_assoc, h, List.takeWhile_append_dropWhile]

theorem refers_cons : Refers (c :: s) ↔ Opens (c :: s) ∨ Refers s := by
  constructor
  · rintro ⟨before, w, after, name, hs, hw⟩
    cases before with
    | nil => exact .inl ⟨w, after, name, hs, hw⟩
    | cons d before => exact .inr ⟨before, w, after, name, (List.cons.inj hs).2, hw⟩
  · rintro (⟨w, after, name, hs, hw⟩ | ⟨before, w, after, name, rfl, hw⟩)
    · exact ⟨[], w, after, name, hs, hw⟩
    · exact ⟨c :: before, w, after, name, rfl, hw⟩

theorem not_refers_nil : ¬Refers [] := by
  rintro ⟨before, w, after, name, hs, hw⟩
  obtain ⟨v, rfl, -⟩ := hw.eq_cons
  simp at hs

/-- A text without dollar signs changes nothing in the references behind it. -/
theorem refers_append (h : ∀ c ∈ w, c ≠ '$') : Refers (w ++ s) ↔ Refers s := by
  induction w with
  | nil => rfl
  | cons c w ih =>
    rw [List.forall_mem_cons] at h
    rw [List.cons_append, refers_cons, or_iff_right (not_opens_of_ne h.1), ih h.2]

end Places

section First

theorem FirstReference.unique (h : FirstReference s before w after name)
    (h' : FirstReference s before' w' after' name') :
    before = before' ∧ name = name' ∧ after = after' := by
  have hleft : before.length = before'.length :=
    Nat.le_antisymm (h.leftmost _ _ _ _ h'.parts h'.spells) (h'.leftmost _ _ _ _ h.parts h.spells)
  have hparts := h.parts.symm.trans h'.parts
  rw [List.append_assoc, List.append_assoc] at hparts
  obtain ⟨rfl, hbehind⟩ := List.append_inj hparts hleft
  have hlong : w.length = w'.length :=
    Nat.le_antisymm (h'.longest _ _ _ h.parts h.spells) (h.longest _ _ _ h'.parts h'.spells)
  obtain ⟨rfl, hafter⟩ := List.append_inj hbehind hlong
  exact ⟨rfl, h.spells.name_unique h'.spells, hafter⟩

theorem FirstReference.refers (h : FirstReference s before w after name) : Refers s :=
  ⟨before, w, after, name, h.parts, h.spells⟩

/-- What opens with no reference has the first one of the text behind its first character. -/
theorem FirstReference.cons (hc : ¬Opens (c :: s)) (h : FirstReference s before w after name) :
    FirstReference (c :: s) (c :: before) w after name where
  parts := by rw [List.cons_append, List.cons_append, ← h.parts]
  spells := h.spells
  leftmost := by
    intro before' w' after' name' hs hw
    cases before' with
    | nil => exact absurd ⟨w', after', name', hs, hw⟩ hc
    | cons d before' =>
      exact Nat.succ_le_succ (h.leftmost _ _ _ _ (List.cons.inj hs).2 hw)
  longest := fun w' after' name' hs hw => h.longest _ _ _ (List.cons.inj hs).2 hw

/-- A text is rewritten to one other text. -/
theorem Rewritten.unique (h : Rewritten s t) {t' : List Char} (h' : Rewritten s t') : t = t' := by
  induction h generalizing t' with
  | unchanged hnone =>
    cases h' with
    | unchanged => rfl
    | next hfirst => exact absurd hfirst.refers hnone
  | next hfirst _ ih =>
    cases h' with
    | unchanged hnone => exact absurd hfirst.refers hnone
    | next hfirst' ht =>
      obtain ⟨rfl, rfl, rfl⟩ := hfirst.unique hfirst'
      rw [ih ht]

theorem Rewritten.cons (hc : ¬Opens (c :: s)) (h : Rewritten s t) :
    Rewritten (c :: s) (c :: t) := by
  cases h with
  | unchanged hnone => exact .unchanged fun hrefers => (refers_cons.1 hrefers).elim hc hnone
  | next hfirst ht => exact .next (hfirst.cons hc) ht

/-- What is read behind a dollar sign at the front of a text is its first reference. -/
theorem firstReference_of_read? (h : read? s = some (name, rest)) :
    ∃ w, FirstReference ('$' :: s) [] w rest name := by
  obtain ⟨w, hw, hs⟩ := spells_of_read? h
  refine ⟨w, hs, hw, fun _ _ _ _ _ _ => Nat.zero_le _, fun w' after' name' hs' hw' => ?_⟩
  rw [List.nil_append] at hs'
  obtain ⟨_, _, hread, hfar⟩ := exists_read?_of_spells hw' hs'
  rw [h] at hread
  cases hread
  have hlength := congrArg List.length (hs.symm.trans hs')
  rw [List.length_append, List.length_append] at hlength
  omega

end First

section Rewriting

theorem forCluster_of_ne (hc : c ≠ '$') : forCluster (c :: s) = c :: forCluster s := by
  rw [forCluster, if_neg hc]

theorem forCluster_of_none (h : read? s = none) : forCluster ('$' :: s) = '$' :: forCluster s := by
  rw [forCluster, if_pos rfl]
  split
  · rename_i heq
    rw [h] at heq
    cases heq
  · rfl

theorem forCluster_of_some (h : read? s = some (name, rest)) :
    forCluster ('$' :: s) = resolvable name ++ forCluster rest := by
  rw [forCluster, if_pos rfl]
  split
  · rename_i heq
    rw [h] at heq
    cases heq
    rfl
  · rename_i heq
    rw [h] at heq
    cases heq

/-- A text is nothing, or opens with a character that is kept, or opens with a reference. -/
@[elab_as_elim]
theorem rewriting_induction {motive : List Char → Prop} (nil : motive [])
    (kept : ∀ c u, ¬Opens (c :: u) → forCluster (c :: u) = c :: forCluster u → motive u →
      motive (c :: u))
    (reference : ∀ u name rest, read? u = some (name, rest) →
      forCluster ('$' :: u) = resolvable name ++ forCluster rest → motive rest → motive ('$' :: u))
    (s : List Char) : motive s := by
  induction hlength : s.length using Nat.strong_induction_on generalizing s with
  | h n ih =>
    cases s with
    | nil => exact nil
    | cons c u =>
      rw [List.length_cons] at hlength
      by_cases hc : c = '$'
      · subst hc
        cases hread : read? u with
        | none =>
          have hu := ih u.length (by omega) u rfl
          exact kept '$' u (not_opens_of_read? hread) (forCluster_of_none hread) hu
        | some found =>
          have hshort := length_of_read? hread
          have hrest := ih found.2.length (by omega) found.2 rfl
          exact reference u found.1 found.2 hread (forCluster_of_some hread) hrest
      · have hu := ih u.length (by omega) u rfl
        exact kept c u (not_opens_of_ne hc) (forCluster_of_ne hc) hu

theorem rewritten_forCluster : Rewritten s (forCluster s) := by
  induction s using rewriting_induction with
  | nil =>
    rw [forCluster]
    exact .unchanged not_refers_nil
  | kept c u hopens hforCluster ih =>
    rw [hforCluster]
    exact ih.cons hopens
  | reference u name rest hread hforCluster ih =>
    obtain ⟨w, hfirst⟩ := firstReference_of_read? hread
    rw [hforCluster]
    exact .next hfirst ih

theorem rewritten_iff : Rewritten s t ↔ t = forCluster s := by
  constructor
  · intro h
    exact h.unique rewritten_forCluster
  · rintro rfl
    exact rewritten_forCluster

/-- Up to its first dollar sign a text stays as it is. -/
theorem takeWhile_forCluster : (forCluster s).takeWhile (· ≠ '$') = s.takeWhile (· ≠ '$') := by
  induction s using rewriting_induction with
  | nil => rw [forCluster]
  | kept c u hopens hforCluster ih => rw [hforCluster, List.takeWhile_cons, List.takeWhile_cons, ih]
  | reference u name rest hread hforCluster ih =>
    rw [hforCluster]
    rfl

/-- A resolvable form refers to nothing, whatever stands behind it. -/
theorem refers_resolvable (h : IsVariable name) : Refers (resolvable name ++ s) ↔ Refers s := by
  have hparen : ¬Opens ('$' :: ('(' :: (name ++ [')']) ++ s)) := not_opens_of_read? rfl
  have hnone : ∀ c ∈ '(' :: (name ++ [')']), c ≠ '$' := by
    intro c hc
    rw [List.mem_cons, List.mem_append, List.mem_singleton] at hc
    rcases hc with rfl | hc | rfl
    · decide
    · exact ne_of_isPart ((isVariable_iff.1 h).2 c hc) (by decide)
    · decide
  rw [resolvable, List.cons_append, refers_cons, or_iff_right hparen, refers_append hnone]

/-- A dollar sign that opened no reference opens none when what follows it is rewritten: it is
followed by the same text up to the next one. -/
theorem not_refers_forCluster : ¬Refers (forCluster s) := by
  induction s using rewriting_induction with
  | nil =>
    rw [forCluster]
    exact not_refers_nil
  | kept c u hopens hforCluster ih =>
    have hstill : ¬Opens (c :: forCluster u) := by
      by_cases hc : c = '$'
      · subst hc
        exact fun h => hopens (opens_congr takeWhile_forCluster h)
      · exact not_opens_of_ne hc
    rw [hforCluster, refers_cons, or_iff_right hstill]
    exact ih
  | reference u name rest hread hforCluster ih =>
    obtain ⟨w, hw, -⟩ := spells_of_read? hread
    rw [hforCluster, refers_resolvable hw.isVariable]
    exact ih

theorem forCluster_forCluster : forCluster (forCluster s) = forCluster s :=
  (rewritten_iff.1 (.unchanged not_refers_forCluster)).symm

end Rewriting

end Manifests.ShellReference

namespace Manifests.Service

open ShellReference in
/-- Each argument of a container is one of its service, with the references rewritten from the first
to the last. It refers to nothing any more, and so it is rewritten to itself. -/
theorem containerArgs_rewritten (s : Service) :
    List.Forall₂ (fun arg written : String =>
        (∀ t : String, Rewritten arg.toList t.toList ↔ t = written) ∧ ¬Refers written.toList)
      s.args s.containerArgs ∧
    ({ s with args := s.containerArgs } : Service).containerArgs = s.containerArgs := by
  constructor
  · rw [containerArgs, List.forall₂_map_right_iff, List.forall₂_same]
    intro arg _
    rw [String.toList_ofList]
    refine ⟨fun t => ?_, not_refers_forCluster⟩
    rw [rewritten_iff, String.ext_iff, String.toList_ofList]
  · simp only [containerArgs, List.map_map]
    refine List.map_congr_left fun arg _ => ?_
    rw [Function.comp_apply, String.toList_ofList, forCluster_forCluster]

/-- A half-open reference and a dollar sign alone stay as they are next to references. -/
example : ({ args := ["$$A:${B_1}", "${C$D}"] } : Service).containerArgs =
    ["$$(A):$(B_1)", "${C$(D)}"] := by
  cbv

end Manifests.Service
