import Mathlib.Data.List.TakeWhile
import Manifests.Text.Blank
import Manifests.Text.Decimal
import Manifests.Text.Pieces

/-! Texts told apart by what they begin or end with, cut at separators, and trimmed. -/
namespace Manifests

variable {α : Type} {a b w w' : List α} {c : α}

theorem after?_eq_some {front text rest : List Char} :
    Text.after? front text = some rest ↔ text = front ++ rest := by
  induction front generalizing text with
  | nil => simp [Text.after?]
  | cons c front ih =>
    cases text with
    | nil => simp [Text.after?]
    | cons d text =>
      rw [Text.after?]
      split
      · rename_i hc
        simp [ih, hc]
      · rename_i hc
        simp [Ne.symm hc]

section Cutting

variable {sep head tail s : List Char} {d : Char}

/-- There is nothing to cut where the separator is not found. -/
theorem cut?_eq_none_iff : Text.cut? (d :: sep) s = none ↔ ¬(d :: sep) <:+: s := by
  induction s with
  | nil => simp [Text.cut?]
  | cons c s ih =>
    rw [Text.cut?, List.infix_cons_iff]
    cases hafter : Text.after? (d :: sep) (c :: s) with
    | some rest =>
      have hparts := after?_eq_some.1 hafter
      rw [hparts]
      simp
    | none =>
      have hno : ¬(d :: sep) <+: c :: s := by
        rintro ⟨rest, hrest⟩
        rw [after?_eq_some.2 hrest.symm] at hafter
        cases hafter
      rw [or_iff_right hno, ← ih]
      exact Option.map_eq_none_iff

theorem cut?_eq_none_of_notMem (h : d ∉ s) : Text.cut? (d :: sep) s = none := by
  rw [cut?_eq_none_iff]
  intro hfound
  exact h (hfound.subset List.mem_cons_self)

/-- A text is cut behind what cannot be the beginning of a separator. -/
theorem cut?_append (h : d ∉ head) :
    Text.cut? (d :: sep) (head ++ d :: sep ++ tail) = some (head, tail) := by
  induction head with
  | nil =>
    have hafter : Text.after? (d :: sep) (d :: (sep ++ tail)) = some tail := after?_eq_some.2 rfl
    rw [List.nil_append, List.cons_append, Text.cut?, hafter]
  | cons c head ih =>
    rw [List.mem_cons, not_or] at h
    have hafter : Text.after? (d :: sep) (c :: (head ++ d :: sep ++ tail)) = none := by
      rw [Text.after?, if_neg h.1]
    rw [List.cons_append, List.cons_append, Text.cut?, hafter]
    dsimp only
    rw [ih h.2, Option.map_some]

end Cutting

/-- Two texts are cut at the last occurrence of a separator in one way only. -/
theorem eq_of_append_cons (hw : c ∉ w) (hw' : c ∉ w') (h : a ++ c :: w = b ++ c :: w') :
    a = b ∧ w = w' := by
  rcases List.append_eq_append_iff.1 h with ⟨m, hb, hm⟩ | ⟨m, ha, hm⟩
  · cases m with
    | nil =>
      rw [List.append_nil] at hb
      exact ⟨hb.symm, (List.cons.inj hm).2⟩
    | cons d m =>
      have hmem : c ∈ w := by
        rw [(List.cons.inj hm).2]
        exact List.mem_append_right _ List.mem_cons_self
      exact (hw hmem).elim
  · cases m with
    | nil =>
      rw [List.append_nil] at ha
      exact ⟨ha, (List.cons.inj hm).2.symm⟩
    | cons d m =>
      have hmem : c ∈ w' := by
        rw [(List.cons.inj hm).2]
        exact List.mem_append_right _ List.mem_cons_self
      exact (hw' hmem).elim

theorem eq_of_append_hyphen {stem stem' ending ending' : String} (h : '-' ∉ ending.toList)
    (h' : '-' ∉ ending'.toList) (hsame : stem ++ "-" ++ ending = stem' ++ "-" ++ ending') :
    stem = stem' ∧ ending = ending' := by
  have hparts : ∀ s e : String, (s ++ "-" ++ e).toList = s.toList ++ '-' :: e.toList := by
    intro s e
    have hhyphen : "-".toList = ['-'] := rfl
    simp only [String.toList_append, hhyphen, List.append_assoc, List.cons_append, List.nil_append]
  have hlists := congrArg String.toList hsame
  rw [hparts, hparts] at hlists
  obtain ⟨hstem, hending⟩ := eq_of_append_cons h h' hlists
  exact ⟨String.toList_inj.1 hstem, String.toList_inj.1 hending⟩

section Pieces

variable [DecidableEq α]

theorem pieces_eq_splitOn : Text.pieces c a = a.splitOn c := by
  rw [List.splitOn_eq_splitOnP]
  induction a with
  | nil => rfl
  | cons d a ih =>
    obtain ⟨p, ps, hpieces⟩ := List.exists_cons_of_ne_nil (List.splitOnP_ne_nil (· == c) a)
    rw [Text.pieces, ih, List.splitOnP_cons_eq_if_modifyHead, hpieces]
    simp only [beq_iff_eq, List.modifyHead_cons]

theorem pieces_ne_nil : Text.pieces c a ≠ [] := by
  rw [pieces_eq_splitOn, List.splitOn_eq_splitOnP]
  exact List.splitOnP_ne_nil _ _

theorem pieces_of_notMem (hw : c ∉ w) : Text.pieces c w = [w] := by
  rw [pieces_eq_splitOn, List.splitOn_eq_splitOnP]
  apply List.splitOnP_eq_singleton
  intro d hd
  rw [beq_eq_false_iff_ne]
  rintro rfl
  exact hw hd

/-- The pieces of a text are those on both sides of any separator in it. -/
theorem pieces_append_cons : Text.pieces c (a ++ c :: b) = Text.pieces c a ++ Text.pieces c b := by
  simp only [pieces_eq_splitOn, List.splitOn_eq_splitOnP]
  exact List.splitOnP_append_cons a b (beq_self_eq_true c)

end Pieces

section Class

variable {p : α → Bool} {front behind : List α}

/-- A text splits behind the elements of a class, where the next one is not of it. -/
theorem takeWhile_append_of_stop (hfront : ∀ c ∈ front, p c) (hstop : behind.takeWhile p = []) :
    (front ++ behind).takeWhile p = front := by
  rw [List.takeWhile_append_of_pos hfront, hstop, List.append_nil]

theorem dropWhile_append_of_stop (hfront : ∀ c ∈ front, p c) (hstop : behind.takeWhile p = []) :
    (front ++ behind).dropWhile p = behind := by
  have hkept := List.takeWhile_append_dropWhile (p := p) (l := behind)
  rw [hstop, List.nil_append] at hkept
  rw [List.dropWhile_append_of_pos hfront, hkept]

end Class

section Trimmed

variable {p : Char → Bool} {front middle back s : List Char} {sep : Char}

theorem notMem_of_forall (hsep : p sep = false) (h : ∀ c ∈ s, p c) : sep ∉ s := by
  intro hmem
  rw [h sep hmem] at hsep
  cases hsep

/-- A text is what is left of it without the characters of a class at either end, and these. -/
theorem exists_trimWhere : ∃ front back, s = front ++ Text.trimWhere p s ++ back ∧
    (∀ c ∈ front, p c) ∧ ∀ c ∈ back, p c := by
  refine ⟨s.takeWhile p, ((s.dropWhile p).reverse.takeWhile p).reverse, ?_,
    fun c => List.mem_takeWhile_imp, fun c hc => List.mem_takeWhile_imp (List.mem_reverse.1 hc)⟩
  rw [Text.trimWhere, Text.dropEndWhile, List.append_assoc, ← List.reverse_append,
    List.takeWhile_append_dropWhile, List.reverse_reverse, List.takeWhile_append_dropWhile]

theorem trimWhere_append_left (hfront : ∀ c ∈ front, p c) :
    Text.trimWhere p (front ++ s) = Text.trimWhere p s := by
  rw [Text.trimWhere, Text.trimWhere, List.dropWhile_append_of_pos hfront]

theorem trimWhere_append_right (hback : ∀ c ∈ back, p c) :
    Text.trimWhere p (s ++ back) = Text.trimWhere p s := by
  have hends : ∀ c ∈ back.reverse, p c := fun c hc => hback c (List.mem_reverse.1 hc)
  rw [Text.trimWhere, Text.trimWhere, List.dropWhile_append]
  split
  · rename_i hnil
    rw [List.isEmpty_iff.1 hnil, List.dropWhile_eq_nil_iff.2 hback]
  · rw [Text.dropEndWhile, Text.dropEndWhile, List.reverse_append,
      List.dropWhile_append_of_pos hends]

/-- Nothing is taken from a text if neither of its ends is of the class. -/
theorem trimWhere_eq_self (hhead : ∀ c ∈ s.head?, p c = false)
    (hlast : ∀ c ∈ s.getLast?, p c = false) : Text.trimWhere p s = s := by
  have hkept : ∀ {l : List Char}, (∀ c ∈ l.head?, p c = false) → l.dropWhile p = l := by
    intro l hl
    cases l with
    | nil => rfl
    | cons d l => exact List.dropWhile_cons_of_neg (Bool.not_eq_true _ ▸ hl d rfl)
  rw [← List.head?_reverse] at hlast
  rw [Text.trimWhere, hkept hhead, Text.dropEndWhile, hkept hlast, List.reverse_reverse]

/-- A text is left of itself and what is of a class around it, if neither of its ends is. -/
theorem trimWhere_append (hfront : ∀ c ∈ front, p c) (hback : ∀ c ∈ back, p c)
    (hhead : ∀ c ∈ middle.head?, p c = false) (hlast : ∀ c ∈ middle.getLast?, p c = false) :
    Text.trimWhere p (front ++ middle ++ back) = middle := by
  rw [trimWhere_append_right hback, trimWhere_append_left hfront, trimWhere_eq_self hhead hlast]

/-- A word that has nothing of a class is left where it stands between characters of the class. -/
theorem trimWhere_word (hfront : ∀ c ∈ front, p c) (hmiddle : ∀ c ∈ middle, p c = false)
    (hback : ∀ c ∈ back, p c) : Text.trimWhere p (front ++ middle ++ back) = middle :=
  trimWhere_append hfront hback (fun c hc => hmiddle c (List.mem_of_mem_head? hc))
    fun c hc => hmiddle c (List.mem_of_mem_getLast? hc)

section Separated

variable (hsep : p sep = false)
include hsep

theorem map_trimWhere_pieces_left (hfront : ∀ c ∈ front, p c) :
    (Text.pieces sep (front ++ s)).map (Text.trimWhere p) =
      (Text.pieces sep s).map (Text.trimWhere p) := by
  have hno : sep ∉ front := notMem_of_forall hsep hfront
  by_cases hmem : sep ∈ s
  · obtain ⟨w, rest, rfl, hw⟩ := List.eq_append_cons_of_mem hmem
    have hfirst : sep ∉ front ++ w := List.not_mem_append hno hw
    rw [← List.append_assoc, pieces_append_cons, pieces_append_cons, pieces_of_notMem hfirst,
      pieces_of_notMem hw, List.map_append, List.map_append, List.map_singleton, List.map_singleton,
      trimWhere_append_left hfront]
  · rw [pieces_of_notMem (List.not_mem_append hno hmem), pieces_of_notMem hmem, List.map_singleton,
      List.map_singleton, trimWhere_append_left hfront]

theorem map_trimWhere_pieces_right (hback : ∀ c ∈ back, p c) :
    (Text.pieces sep (s ++ back)).map (Text.trimWhere p) =
      (Text.pieces sep s).map (Text.trimWhere p) := by
  have hno : sep ∉ back := notMem_of_forall hsep hback
  by_cases hmem : sep ∈ s
  · -- only the piece behind the last separator grows
    obtain ⟨w, rest, hs, hw⟩ := List.eq_append_cons_of_mem (List.mem_reverse.2 hmem)
    have hlast : s = rest.reverse ++ sep :: w.reverse := by
      rw [List.reverse_eq_iff.1 hs]
      simp
    have hw : sep ∉ w.reverse := fun h => hw (List.mem_reverse.1 h)
    rw [hlast, List.append_assoc, List.cons_append, pieces_append_cons, pieces_append_cons,
      pieces_of_notMem (List.not_mem_append hw hno), pieces_of_notMem hw, List.map_append,
      List.map_append, List.map_singleton, List.map_singleton, trimWhere_append_right hback]
  · rw [pieces_of_notMem (List.not_mem_append hmem hno), pieces_of_notMem hmem, List.map_singleton,
      List.map_singleton, trimWhere_append_right hback]

/-- Where all pieces of a text are trimmed, it makes no difference that the text was trimmed
before. -/
theorem map_trimWhere_pieces_trimWhere : (Text.pieces sep (Text.trimWhere p s)).map
    (Text.trimWhere p) = (Text.pieces sep s).map (Text.trimWhere p) := by
  obtain ⟨front, back, hs, hfront, hback⟩ := exists_trimWhere (p := p) (s := s)
  conv => rhs; rw [hs]
  rw [map_trimWhere_pieces_right hsep hback, map_trimWhere_pieces_left hsep hfront]

end Separated

end Trimmed

section Digits

variable {front front' : List Char} {i j : Nat}

/-- A range of characters is one of their numbers. -/
theorem toNat_of_between {low high d : Char} (h : low ≤ d && d ≤ high) :
    low.toNat ≤ d.toNat ∧ d.toNat ≤ high.toNat := by
  simp only [Bool.and_eq_true, decide_eq_true_eq] at h
  exact h

theorem toNat_of_isDigit {d : Char} (h : Text.isDigit d) : 48 ≤ d.toNat ∧ d.toNat ≤ 57 :=
  toNat_of_between h

theorem isBlank_of_isDigit {d : Char} (h : Text.isDigit d) : Text.isBlank d = false := by
  obtain ⟨hlow, hhigh⟩ := toNat_of_isDigit h
  simp only [Text.isBlank, Bool.or_eq_false_iff, Bool.and_eq_false_iff, decide_eq_false_iff_not,
    beq_eq_false_iff_ne]
  omega

theorem toList_toString : (toString i).toList = Nat.toDigits 10 i := Nat.toList_repr

theorem isDigit_of_mem_toString {d : Char} (h : d ∈ (toString i).toList) : d.isDigit := by
  rw [toList_toString] at h
  exact Nat.isDigit_of_mem_toDigits (by decide) (by decide) h

/-- Behind a word without digits, a number can be read back. -/
theorem eq_of_append_toString (hfront : ∀ d ∈ front, d.isDigit = false)
    (hfront' : ∀ d ∈ front', d.isDigit = false)
    (h : front ++ (toString i).toList = front' ++ (toString j).toList) :
    front = front' ∧ i = j := by
  have hword : ∀ {l : List Char} {k : Nat}, (∀ d ∈ l, d.isDigit = false) →
      (l ++ (toString k).toList).takeWhile (!·.isDigit) = l := by
    intro l k hl
    have hdigits : (toString k).toList.takeWhile (!·.isDigit) = [] := by
      rw [List.takeWhile_eq_nil_iff]
      intro hlength
      simpa using isDigit_of_mem_toString (List.getElem_mem hlength)
    rw [List.takeWhile_append_of_pos fun d hd => by simp [hl d hd], hdigits, List.append_nil]
  have hsame : front = front' := by
    rw [← hword (k := i) hfront, h, hword hfront']
  subst hsame
  have hnumber := List.append_cancel_left h
  rw [toList_toString, toList_toString] at hnumber
  refine ⟨rfl, ?_⟩
  calc i = Nat.ofDigitChars 10 (Nat.toDigits 10 i) 0 := Nat.ofDigitChars_ten_toDigits.symm
    _ = Nat.ofDigitChars 10 (Nat.toDigits 10 j) 0 := by rw [hnumber]
    _ = j := Nat.ofDigitChars_ten_toDigits

/-- An integer is written with its sign in front, if it has one. -/
theorem toList_toString_int {n : Int} : (toString n).toList =
    (if n < 0 then ['-'] else []) ++ (toString n.natAbs).toList := by
  cases n with
  | ofNat k => rfl
  | negSucc k =>
    change ("-" ++ toString (k + 1)).toList = _
    rw [String.toList_append, if_pos (Int.negSucc_lt_zero k)]
    rfl

theorem isDigit_or_sign_of_mem_toString {n : Int} {d : Char} (h : d ∈ (toString n).toList) :
    d.isDigit ∨ d = '-' := by
  rw [toList_toString_int, List.mem_append] at h
  rcases h with h | h
  · split at h
    · exact .inr (List.mem_singleton.1 h)
    · cases h
  · exact .inl (isDigit_of_mem_toString h)

theorem eq_of_toString_eq {m n : Int} (h : toString m = toString n) : m = n := by
  have hsign : ∀ k : Int, ∀ d ∈ (if k < 0 then ['-'] else [] : List Char), d.isDigit = false := by
    intro k d hd
    split at hd
    · rw [List.mem_singleton.1 hd]
      rfl
    · cases hd
  have htexts := congrArg String.toList h
  rw [toList_toString_int, toList_toString_int] at htexts
  obtain ⟨hsigns, hsize⟩ := eq_of_append_toString (hsign m) (hsign n) htexts
  have hnegative : m < 0 ↔ n < 0 := by
    by_cases hm : m < 0 <;> by_cases hn : n < 0 <;> simp [hm, hn] at hsigns ⊢
  omega

end Digits

end Manifests
