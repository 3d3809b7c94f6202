import Manifests.Name

/-! Names of objects do not change when they are made names of objects again. -/
namespace Manifests

namespace Text

namespace CaseRun

variable {r q : CaseRun} {n : Nat}

/-- Where a run moves its code points, the other run has none: it lies elsewhere, or has the code
points in between. -/
def apart (r q : CaseRun) : Bool :=
  Nat.blt 0 (r.first + r.shift).toNat &&
    (Nat.blt (r.last + r.shift).toNat q.first || Nat.blt q.last (r.first + r.shift).toNat ||
      (Nat.beq q.step 2 && (Nat.beq r.step 2 || Nat.beq r.first r.last) &&
        Nat.beq (((r.first + r.shift).toNat + q.first) % 2) 1))

theorem covers_iff : r.covers n ↔ r.first ≤ n ∧ n ≤ r.last ∧ (n - r.first) % r.step = 0 := by
  simp [covers, and_assoc]

theorem not_covers_of_apart (h : r.apart q) (hn : r.covers n) :
    q.covers (n + r.shift).toNat = false := by
  rw [apart] at h
  simp only [Bool.and_eq_true, Bool.or_eq_true, Nat.blt_eq, Nat.beq_eq] at h
  obtain ⟨hfirst, hlast, hstep⟩ := covers_iff.1 hn
  rw [← Bool.not_eq_true, covers_iff]
  rintro ⟨hqfirst, hqlast, hqstep⟩
  obtain ⟨hpos, (hbefore | hbehind) | ⟨⟨hq, hr | hr⟩, hodd⟩⟩ := h
  · omega
  · omega
  · rw [hq] at hqstep
    rw [hr] at hstep
    omega
  · rw [hq] at hqstep
    omega

end CaseRun

/-- The characters that stay where they are, and those that are treated on their own. -/
def fixedRuns : List CaseRun := [⟨'_'.toNat, '_'.toNat, 1, 0⟩, ⟨'İ'.toNat, 'İ'.toNat, 1, 0⟩]

theorem apart_runs : (lowerRuns.all fun r => (fixedRuns ++ lowerRuns).all r.apart) = true := by
  decide +kernel

/-- A character that neither lowering nor the change of underscores touches. -/
structure Settled (c : Char) : Prop where
  notSigma : c ≠ 'Σ'
  notDotted : c ≠ 'İ'
  notUnderscore : c ≠ '_'
  shifted : CaseRun.shifted lowerRuns c = c

theorem settled_of_uncovered {c : Char}
    (h : ((fixedRuns ++ lowerRuns).any (·.covers c.toNat)) = false) : Settled c where
  notSigma := by
    rintro rfl
    exact absurd h (by decide +kernel)
  notDotted := by
    rintro rfl
    exact absurd h (by decide +kernel)
  notUnderscore := by
    rintro rfl
    exact absurd h (by decide +kernel)
  shifted := by
    have hnone : lowerRuns.find? (·.covers c.toNat) = none := by
      rw [List.find?_eq_none]
      intro q hq
      rw [List.any_eq_false] at h
      exact h q (List.mem_append_right _ hq)
    rw [CaseRun.shifted, hnone]

theorem toNat_ofNat {n : Nat} : (Char.ofNat n).toNat = n ∨ (Char.ofNat n).toNat = 0 := by
  by_cases h : n.isValidChar
  · rw [Char.ofNat, dif_pos h]
    exact Or.inl rfl
  · rw [Char.ofNat, dif_neg h]
    exact Or.inr rfl

/-- To lower a character once is enough. -/
theorem settled_shifted {c : Char} (hsigma : c ≠ 'Σ') (hdotted : c ≠ 'İ') (hunderscore : c ≠ '_') :
    Settled (CaseRun.shifted lowerRuns c) := by
  cases h : lowerRuns.find? (·.covers c.toNat) with
  | none =>
    have hsame : CaseRun.shifted lowerRuns c = c := by
      rw [CaseRun.shifted, h]
    exact ⟨by rwa [hsame], by rwa [hsame], by rwa [hsame], by rw [hsame, hsame]⟩
  | some r =>
    have hr := List.mem_of_find?_eq_some h
    have hcovers : r.covers c.toNat := by
      simpa using List.find?_some h
    have hapart := List.all_eq_true.1 apart_runs r hr
    rw [CaseRun.shifted, h]
    apply settled_of_uncovered
    rcases toNat_ofNat (n := (c.toNat + r.shift).toNat) with hn | hn
    · simp only [hn]
      rw [List.any_eq_false]
      intro q hq
      rw [Bool.not_eq_true]
      exact CaseRun.not_covers_of_apart (List.all_eq_true.1 hapart q hq) hcovers
    · simp only [hn]
      decide +kernel

theorem settled_lowerChar {a c : Char} (hsigma : a ≠ 'Σ') (hunderscore : a ≠ '_')
    (hc : c ∈ lowerChar a) : Settled c := by
  rw [lowerChar] at hc
  split at hc
  · rcases List.mem_cons.1 hc with rfl | hc
    · exact settled_of_uncovered (by decide +kernel)
    · rw [List.mem_singleton.1 hc]
      exact settled_of_uncovered (by decide +kernel)
  · rename_i hdotted
    rw [List.mem_singleton.1 hc]
    exact settled_shifted hsigma hdotted hunderscore

theorem settled_lowerFrom {before l : List Char} {c : Char} (hl : '_' ∉ l)
    (hc : c ∈ lowerFrom before l) : Settled c := by
  induction l generalizing before with
  | nil => cases hc
  | cons a l ih =>
    rw [List.mem_cons, not_or] at hl
    rw [lowerFrom, List.mem_append] at hc
    rcases hc with hc | hc
    · split at hc
      · rw [List.mem_singleton] at hc
        split at hc
        · rw [hc]
          exact settled_of_uncovered (by decide +kernel)
        · rw [hc]
          exact settled_of_uncovered (by decide +kernel)
      · rename_i hsigma
        exact settled_lowerChar hsigma (Ne.symm hl.1) hc
    · exact ih hl.2 hc

theorem lowerFrom_of_settled {before l : List Char} (hl : ∀ c ∈ l, Settled c) :
    lowerFrom before l = l := by
  induction l generalizing before with
  | nil => rfl
  | cons a l ih =>
    have ha := hl a List.mem_cons_self
    rw [lowerFrom, if_neg ha.notSigma, lowerChar, if_neg ha.notDotted, ha.shifted,
      ih fun c hc => hl c (List.mem_cons_of_mem _ hc)]
    rfl

end Text

theorem notMem_hyphenated {l : List Char} : '_' ∉ hyphenated l := by
  intro h
  obtain ⟨c, _, hc⟩ := List.mem_map.1 h
  split at hc
  · exact absurd hc (by decide)
  · rename_i hne
    exact hne hc

theorem hyphenated_of_notMem {l : List Char} (h : '_' ∉ l) : hyphenated l = l := by
  rw [hyphenated]
  conv => rhs; rw [← List.map_id' l]
  apply List.map_congr_left
  intro c hc
  have hne : c ≠ '_' := fun he => h (he ▸ hc)
  rw [if_neg hne]

/-- No character of a name of an object is changed again. -/
theorem settled_resourceName {s : String} {c : Char} (h : c ∈ (resourceName s).toList) :
    Text.Settled c := by
  rw [resourceName, String.toList_ofList] at h
  exact Text.settled_lowerFrom notMem_hyphenated h

theorem notMem_resourceName {s : String} : '_' ∉ (resourceName s).toList :=
  fun h => (settled_resourceName h).notUnderscore rfl

/-- Whatever text it stands behind, a name of an object is in lower case. -/
theorem lowerFrom_resourceName {s : String} {before : List Char} :
    Text.lowerFrom before (resourceName s).toList = (resourceName s).toList :=
  Text.lowerFrom_of_settled fun _ => settled_resourceName

theorem resourceName_resourceName {s : String} :
    resourceName (resourceName s) = resourceName s := by
  conv => lhs; rw [resourceName]
  rw [hyphenated_of_notMem notMem_resourceName, Text.lower, lowerFrom_resourceName,
    String.ofList_toList]

end Manifests
