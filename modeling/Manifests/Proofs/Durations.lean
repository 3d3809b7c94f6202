import Manifests.Duration
import Manifests.Proofs.Text

/-! Which texts are durations. The grammar is written down first, on its own; then a scan that takes
term after term off the front of a text is compared with it. The scan takes every text of the
grammar, and beyond those only texts with more than one sign. -/
namespace Manifests.Duration

variable {s w rest tail : List Char} {t : Term} {ts : List Term} {text : String}

/-- Digits, or digits with a point somewhere among or beside them; one digit at the least. -/
inductive IsNumber : List Char → Prop
  | whole {digits : List Char} (hdigits : ∀ c ∈ digits, Text.isDigit c) (hne : digits ≠ []) :
      IsNumber digits
  | point {whole fraction : List Char} (hwhole : ∀ c ∈ whole, Text.isDigit c)
      (hfraction : ∀ c ∈ fraction, Text.isDigit c) (hne : whole ≠ [] ∨ fraction ≠ []) :
      IsNumber (whole ++ '.' :: fraction)

def unitSpellings : List String := ["ns", "us", "µs", "ms", "s", "m", "h"]

/-- A number and a unit. -/
def IsTerm (w : List Char) : Prop :=
  ∃ number, IsNumber number ∧ ∃ spelling ∈ unitSpellings, w = number ++ spelling.toList

/-- One or more terms. -/
inductive IsSum : List Char → Prop
  | one {w : List Char} (h : IsTerm w) : IsSum w
  | more {w s : List Char} (h : IsTerm w) (hs : IsSum s) : IsSum (w ++ s)

/-- A duration without its sign. -/
def IsBody (body : List Char) : Prop := body = ['0'] ∨ IsSum body

/-- A text, without the white space around it, is signs and behind them a zero or a sum of terms. -/
structure IsSigned (text : String) (signs body : List Char) : Prop where
  parts : ∃ front back, text.toList = front ++ (signs ++ body) ++ back ∧
    (∀ c ∈ front, Text.isBlank c) ∧ ∀ c ∈ back, Text.isBlank c
  signs : ∀ c ∈ signs, c = '-' ∨ c = '+'
  body : IsBody body

/-- A duration has one sign at most. -/
def IsDuration (text : String) : Prop := ∃ signs body, IsSigned text signs body ∧ signs.length ≤ 1

/-- A duration but for a sign too many. -/
def IsOversigned (text : String) : Prop := ∃ signs body, IsSigned text signs body ∧ 2 ≤ signs.length

/-- The text is read if it is a duration, and else refused under its own name. -/
structure ReadByGrammar (text : String) : Prop where
  accepted : (∃ n, seconds text = .ok n) ↔ IsDuration text
  refused : ¬IsDuration text → seconds text = .error (.invalidDuration text)

section Units

variable {spelling : String}

theorem unitSpellings_toList : unitSpellings.map String.toList = unitNames.map Prod.fst := by decide

theorem spelling_of_unit? {unit : TimeUnit} (h : unit? s = some (unit, tail)) :
    ∃ spelling ∈ unitSpellings, s = spelling.toList ++ tail := by
  obtain ⟨⟨name, own⟩, hname, hfound⟩ := List.exists_of_findSome?_eq_some h
  obtain ⟨rest, hafter, hrest⟩ := Option.map_eq_some_iff.1 hfound
  cases hrest
  have hmem : name ∈ unitSpellings.map String.toList := by
    rw [unitSpellings_toList]
    exact List.mem_map_of_mem (f := Prod.fst) hname
  obtain ⟨spelling, hspelling, rfl⟩ := List.mem_map.1 hmem
  exact ⟨spelling, hspelling, after?_eq_some.1 hafter⟩

theorem toList_spelling (h : spelling ∈ unitSpellings) :
    spelling.toList = ['n', 's'] ∨ spelling.toList = ['u', 's'] ∨ spelling.toList = ['µ', 's'] ∨
      spelling.toList = ['m', 's'] ∨ spelling.toList = ['s'] ∨ spelling.toList = ['m'] ∨
      spelling.toList = ['h'] := by
  have hname : spelling.toList ∈ unitNames.map Prod.fst := by
    rw [← unitSpellings_toList]
    exact List.mem_map_of_mem h
  simpa only [unitNames, List.map_cons, List.map_nil, List.mem_cons, List.not_mem_nil,
    or_false] using hname

/-- A unit is read off where it is spelled. Only behind an `m` could the next letter make it another
unit. -/
theorem unit?_spelling (h : spelling ∈ unitSpellings) (htail : tail.head? ≠ some 's') :
    ∃ unit, unit? (spelling.toList ++ tail) = some (unit, tail) := by
  rcases toList_spelling h with hs | hs | hs | hs | hs | hs | hs <;> rw [hs]
  · exact ⟨.nanosecond, rfl⟩
  · exact ⟨.microsecond, rfl⟩
  · exact ⟨.microsecond, rfl⟩
  · exact ⟨.millisecond, rfl⟩
  · exact ⟨.second, rfl⟩
  · cases tail with
    | nil => exact ⟨.minute, rfl⟩
    | cons c tail =>
      have hc : 's' ≠ c := by
        rintro rfl
        exact htail rfl
      exact ⟨.minute, by simp [unit?, unitNames, Text.after?, hc]⟩
  · exact ⟨.hour, rfl⟩

theorem getLast_spelling (h : spelling ∈ unitSpellings) :
    ∃ before c, spelling.toList = before ++ [c] ∧ Text.isBlank c = false := by
  rcases toList_spelling h with hs | hs | hs | hs | hs | hs | hs
  · exact ⟨['n'], 's', hs, by decide⟩
  · exact ⟨['u'], 's', hs, by decide⟩
  · exact ⟨['µ'], 's', hs, by decide⟩
  · exact ⟨['m'], 's', hs, by decide⟩
  · exact ⟨[], 's', hs, by decide⟩
  · exact ⟨[], 'm', hs, by decide⟩
  · exact ⟨[], 'h', hs, by decide⟩

/-- A unit begins with a character that no number has. -/
theorem head_spelling (h : spelling ∈ unitSpellings) :
    ∃ c behind, spelling.toList = c :: behind ∧ Text.isDigit c = false ∧ c ≠ '.' := by
  rcases toList_spelling h with hs | hs | hs | hs | hs | hs | hs <;>
    exact ⟨_, _, hs, by decide, by decide⟩

end Units

section Terms

variable {number : List Char}

/-- The first character of a text can be that of a number. -/
def OpensNumber (s : List Char) : Prop := ∃ c behind, s = c :: behind ∧ (Text.isDigit c ∨ c = '.')

theorem OpensNumber.append (h : OpensNumber s) : OpensNumber (s ++ rest) := by
  obtain ⟨c, behind, rfl, hc⟩ := h
  exact ⟨c, behind ++ rest, rfl, hc⟩

theorem OpensNumber.head?_ne (h : OpensNumber s) : s.head? ≠ some 's' := by
  obtain ⟨c, behind, rfl, hc⟩ := h
  intro heq
  cases heq
  exact absurd hc (by decide)

theorem IsNumber.opens (h : IsNumber number) : OpensNumber number := by
  cases h with
  | whole hdigits hne =>
    obtain ⟨c, behind, rfl⟩ := List.exists_cons_of_ne_nil hne
    exact ⟨c, behind, rfl, .inl (hdigits c List.mem_cons_self)⟩
  | @point whole fraction hwhole hfraction hne =>
    cases whole with
    | nil => exact ⟨'.', fraction, rfl, .inr rfl⟩
    | cons c whole => exact ⟨c, _, rfl, .inl (hwhole c List.mem_cons_self)⟩

theorem IsTerm.opens (h : IsTerm w) : OpensNumber w := by
  obtain ⟨number, hnumber, spelling, _, rfl⟩ := h
  exact hnumber.opens.append

/-- The text from a unit on holds no more of the number before it. -/
theorem spelling_stops {spelling : String} (h : spelling ∈ unitSpellings) :
    (spelling.toList ++ tail).takeWhile Text.isDigit = [] ∧
      Text.fraction (spelling.toList ++ tail) = ([], spelling.toList ++ tail) := by
  obtain ⟨c, behind, hspelling, hdigit, hpoint⟩ := head_spelling h
  rw [hspelling, List.cons_append]
  refine ⟨by rw [List.takeWhile_cons, hdigit]; rfl, ?_⟩
  unfold Text.fraction
  split
  · rename_i heq
    exact absurd (List.cons.inj heq).1 hpoint
  · rfl

theorem term?_of_fraction {whole fraction : List Char} (hwhole : s.takeWhile Text.isDigit = whole)
    (hfraction : Text.fraction (s.dropWhile Text.isDigit) = (fraction, rest)) :
    term? s = if whole = [] ∧ fraction = [] then none
      else (unit? rest).map fun (unit, tail) => (⟨whole, fraction, unit⟩, tail) := by
  rw [term?, hwhole, hfraction]

/-- A term is taken off the front of a text, if what follows is no letter that might belong to its
unit. -/
theorem term?_append (h : IsTerm w) (htail : tail.head? ≠ some 's') :
    ∃ t, term? (w ++ tail) = some (t, tail) := by
  obtain ⟨number, hnumber, spelling, hspelling, rfl⟩ := h
  obtain ⟨unit, hunit⟩ := unit?_spelling hspelling htail
  obtain ⟨hstop, hpoint⟩ := @spelling_stops tail spelling hspelling
  rw [List.append_assoc]
  cases hnumber with
  | whole hdigits hne =>
    refine ⟨⟨number, [], unit⟩, ?_⟩
    rw [term?_of_fraction (takeWhile_append_of_stop hdigits hstop)
      (by rw [dropWhile_append_of_stop hdigits hstop, hpoint]), if_neg (fun hnone => hne hnone.1),
      hunit, Option.map_some]
  | @point whole fraction hwhole hfraction hne =>
    have hdot : ('.' :: (fraction ++ (spelling.toList ++ tail))).takeWhile Text.isDigit = [] := rfl
    have hbehind : Text.fraction ('.' :: (fraction ++ (spelling.toList ++ tail))) =
        (fraction, spelling.toList ++ tail) :=
      congrArg₂ Prod.mk (takeWhile_append_of_stop hfraction hstop)
        (dropWhile_append_of_stop hfraction hstop)
    have hne : ¬(whole = [] ∧ fraction = []) := by
      rintro ⟨hnone, hnone'⟩
      exact hne.elim (· hnone) (· hnone')
    refine ⟨⟨whole, fraction, unit⟩, ?_⟩
    rw [List.append_assoc, List.cons_append,
      term?_of_fraction (takeWhile_append_of_stop hwhole hdot)
        (by rw [dropWhile_append_of_stop hwhole hdot, hbehind]), if_neg hne, hunit, Option.map_some]

/-- A text is its point and the digits behind it, and the rest; or else it has no point in front. -/
theorem fraction_cases {fraction : List Char} (h : Text.fraction s = (fraction, rest)) :
    (s = '.' :: (fraction ++ rest) ∧ ∀ c ∈ fraction, Text.isDigit c) ∨
      (fraction = [] ∧ rest = s) := by
  unfold Text.fraction at h
  split at h
  · cases h
    exact .inl ⟨by rw [List.takeWhile_append_dropWhile], fun c => List.mem_takeWhile_imp⟩
  · cases h
    exact .inr ⟨rfl, rfl⟩

/-- What is taken off the front of a text is a term. -/
theorem isTerm_of_term? (h : term? s = some (t, tail)) : ∃ w, IsTerm w ∧ s = w ++ tail := by
  have hwhole : ∀ c ∈ s.takeWhile Text.isDigit, Text.isDigit c := fun c => List.mem_takeWhile_imp
  have hparts : s.takeWhile Text.isDigit ++ s.dropWhile Text.isDigit = s :=
    List.takeWhile_append_dropWhile
  obtain ⟨fraction, rest, hfraction⟩ :
      ∃ fraction rest, Text.fraction (s.dropWhile Text.isDigit) = (fraction, rest) := ⟨_, _, rfl⟩
  rw [term?_of_fraction rfl hfraction] at h
  generalize s.takeWhile Text.isDigit = whole at h hwhole hparts
  split at h
  · cases h
  · rename_i hne
    obtain ⟨⟨unit, _⟩, hunit, hsame⟩ := Option.map_eq_some_iff.1 h
    cases hsame
    obtain ⟨spelling, hspelling, rfl⟩ := spelling_of_unit? hunit
    rcases fraction_cases hfraction with ⟨hpoint, hdigits⟩ | ⟨rfl, hrest⟩
    · refine ⟨_, ⟨_, .point hwhole hdigits ?_, spelling, hspelling, rfl⟩, ?_⟩
      · rwa [← not_and_or]
      · rw [← hparts, hpoint]
        simp only [List.append_assoc, List.cons_append]
    · refine ⟨_, ⟨whole, .whole hwhole fun hnone => hne ⟨hnone, rfl⟩, spelling, hspelling, rfl⟩, ?_⟩
      rw [← hparts, ← hrest, List.append_assoc]

theorem length_of_term? (h : term? s = some (t, tail)) : tail.length < s.length := by
  obtain ⟨w, hterm, rfl⟩ := isTerm_of_term? h
  obtain ⟨c, behind, hw, _⟩ := hterm.opens
  rw [hw, List.length_append, List.length_cons]
  omega

end Terms

section Scan

/-- Terms taken one after another off the front of a text, and what is left then. -/
inductive Scan : List Char → List Term → List Char → Prop
  | stop {s : List Char} : Scan s [] s
  | next {s tail rest : List Char} {t : Term} {ts : List Term} (h : term? s = some (t, tail))
      (hs : Scan tail ts rest) : Scan s (t :: ts) rest

/-- Each term leaves a shorter text, so no scan goes on for ever. -/
theorem wellFounded_term? :
    WellFounded fun tail s : List Char => ∃ t, term? s = some (t, tail) :=
  Subrelation.wf (fun ⟨_, h⟩ => length_of_term? h) (measure List.length).wf

theorem IsSum.opens (h : IsSum s) : OpensNumber s := by
  cases h with
  | one hterm => exact hterm.opens
  | more hterm _ => exact hterm.opens.append

/-- A scan to the end takes a sum apart, if there is something to take apart. -/
theorem isSum_of_scan (h : Scan s ts []) (hne : s ≠ []) : IsSum s := by
  generalize hrest : ([] : List Char) = rest at h
  induction h with
  | stop => exact absurd hrest.symm hne
  | @next s tail rest t ts hterm hscan ih =>
    obtain ⟨w, hw, rfl⟩ := isTerm_of_term? hterm
    by_cases htail : tail = []
    · rw [htail, List.append_nil]
      exact .one hw
    · exact .more hw (ih htail hrest)

theorem exists_scan_of_isSum (h : IsSum s) : ∃ ts, Scan s ts [] := by
  induction h with
  | @one w hw =>
    obtain ⟨t, ht⟩ : ∃ t, term? (w ++ []) = some (t, []) := term?_append hw (by simp)
    rw [List.append_nil] at ht
    exact ⟨[t], .next ht .stop⟩
  | more hw hs ih =>
    obtain ⟨ts, hscan⟩ := ih
    obtain ⟨t, ht⟩ := term?_append hw hs.opens.head?_ne
    exact ⟨t :: ts, .next ht hscan⟩

theorem scan_nil : Scan [] ts [] ↔ ts = [] := by
  constructor
  · intro h
    cases h with
    | stop => rfl
    | next hterm _ => cases hterm
  · rintro rfl
    exact .stop

/-- A bound that is no less than the length of the text does not end a scan. -/
theorem termsWithin_eq_some_iff {n : Nat} (h : s.length ≤ n) :
    termsWithin n s = some ts ↔ Scan s ts [] := by
  induction n generalizing s ts with
  | zero =>
    rw [List.length_eq_zero_iff.1 (Nat.le_zero.1 h), scan_nil, termsWithin, Option.some.injEq,
      eq_comm]
  | succ n ih =>
    cases s with
    | nil => rw [scan_nil, termsWithin, Option.some.injEq, eq_comm]
    | cons c s =>
      simp only [termsWithin, bind, Option.bind_eq_some_iff, pure, Option.some.injEq, Prod.exists]
      constructor
      · rintro ⟨t, tail, hterm, ts, hrest, rfl⟩
        have hshort := length_of_term? hterm
        exact .next hterm ((ih (by omega)).1 hrest)
      · intro hscan
        cases hscan with
        | next hterm hrest =>
          have hshort := length_of_term? hterm
          exact ⟨_, _, hterm, _, (ih (by omega)).2 hrest, rfl⟩

theorem terms?_eq_some_iff : terms? s = some ts ↔ s ≠ [] ∧ Scan s ts [] := by
  rw [terms?, Option.ite_none_left_eq_some, termsWithin_eq_some_iff (Nat.le_refl _)]

theorem exists_terms?_iff : (∃ ts, terms? s = some ts) ↔ IsSum s := by
  simp only [terms?_eq_some_iff]
  constructor
  · rintro ⟨ts, hne, hscan⟩
    exact isSum_of_scan hscan hne
  · intro h
    obtain ⟨ts, hscan⟩ := exists_scan_of_isSum h
    obtain ⟨c, behind, hs, _⟩ := h.opens
    exact ⟨ts, by rw [hs]; exact List.cons_ne_nil _ _, hscan⟩

end Scan

section Signs

variable {signs body : List Char}

/-- The first character of a number is neither a sign nor white space. -/
theorem not_isSign_of_opens {c : Char} (h : Text.isDigit c ∨ c = '.') :
    isSign c = false ∧ Text.isBlank c = false := by
  rcases h with hdigit | rfl
  · obtain ⟨hlow, _⟩ := toNat_of_isDigit hdigit
    have hne : ∀ d : Char, d.toNat < 48 → c ≠ d := by
      rintro d hd rfl
      omega
    exact ⟨by simp [isSign, hne '-' (by decide), hne '+' (by decide)], isBlank_of_isDigit hdigit⟩
  · decide

theorem OpensNumber.takeWhile_isSign (h : OpensNumber s) : s.takeWhile isSign = [] := by
  obtain ⟨c, behind, rfl, hc⟩ := h
  rw [List.takeWhile_cons, (not_isSign_of_opens hc).1]
  rfl

theorem OpensNumber.isBlank_of_mem_head? {c : Char} (h : OpensNumber s) (hc : c ∈ s.head?) :
    Text.isBlank c = false := by
  obtain ⟨d, behind, rfl, hd⟩ := h
  cases hc
  exact (not_isSign_of_opens hd).2

theorem IsBody.opens (h : IsBody body) : OpensNumber body := by
  rcases h with rfl | hsum
  · exact ⟨'0', [], rfl, .inl (by decide)⟩
  · exact hsum.opens

theorem IsSum.getLast (h : IsSum s) : ∃ before c, s = before ++ [c] ∧ Text.isBlank c = false := by
  induction h with
  | one hterm =>
    obtain ⟨number, _, spelling, hspelling, rfl⟩ := hterm
    obtain ⟨before, c, hs, hc⟩ := getLast_spelling hspelling
    exact ⟨number ++ before, c, by rw [hs, List.append_assoc], hc⟩
  | more _ _ ih =>
    obtain ⟨before, c, rfl, hc⟩ := ih
    exact ⟨_, c, (List.append_assoc ..).symm, hc⟩

theorem IsBody.isBlank_of_mem_getLast? {c : Char} (h : IsBody body)
    (hc : c ∈ (signs ++ body).getLast?) : Text.isBlank c = false := by
  obtain ⟨before, d, rfl, hd⟩ : ∃ before d, body = before ++ [d] ∧ Text.isBlank d = false := by
    rcases h with rfl | hsum
    · exact ⟨[], '0', rfl, by decide⟩
    · exact hsum.getLast
  rw [← List.append_assoc, List.getLast?_concat] at hc
  cases hc
  exact hd

/-- White space around a duration is what trimming takes away. -/
theorem isSigned_iff_trim : IsSigned text signs body ↔
    Text.trim text.toList = signs ++ body ∧ (∀ c ∈ signs, isSign c) ∧ IsBody body := by
  have hclass : (∀ c ∈ signs, isSign c) ↔ ∀ c ∈ signs, c = '-' ∨ c = '+' := by simp [isSign]
  rw [hclass]
  constructor
  · rintro ⟨⟨front, back, htext, hfront, hback⟩, hsigns, hbody⟩
    refine ⟨?_, hsigns, hbody⟩
    have hhead : ∀ c ∈ (signs ++ body).head?, Text.isBlank c = false := by
      intro c hc
      cases signs with
      | nil => exact hbody.opens.isBlank_of_mem_head? hc
      | cons d signs =>
        cases hc
        rcases hsigns c List.mem_cons_self with rfl | rfl <;> decide
    rw [htext]
    exact trimWhere_append hfront hback hhead fun c => hbody.isBlank_of_mem_getLast?
  · rintro ⟨htrim, hsigns, hbody⟩
    obtain ⟨front, back, htext, hfront, hback⟩ :=
      exists_trimWhere (p := Text.isBlank) (s := text.toList)
    refine ⟨⟨front, back, ?_, hfront, hback⟩, hsigns, hbody⟩
    rw [← htrim]
    exact htext

/-- There is one way to tell the signs of a text from what they stand before. -/
theorem isSigned_iff : IsSigned text signs body ↔
    signs = (Text.trim text.toList).takeWhile isSign ∧
      body = (Text.trim text.toList).dropWhile isSign ∧ IsBody body := by
  rw [isSigned_iff_trim]
  constructor
  · rintro ⟨htrim, hsigns, hbody⟩
    rw [htrim, takeWhile_append_of_stop hsigns hbody.opens.takeWhile_isSign,
      dropWhile_append_of_stop hsigns hbody.opens.takeWhile_isSign]
    exact ⟨rfl, rfl, hbody⟩
  · rintro ⟨rfl, rfl, hbody⟩
    exact ⟨List.takeWhile_append_dropWhile.symm, fun c => List.mem_takeWhile_imp, hbody⟩

/-- A text is read if a zero or a sum of terms stands behind its signs, and else refused. -/
theorem seconds_cases : (∃ n, seconds text = .ok n) ∧
      IsBody ((Text.trim text.toList).dropWhile isSign) ∨
    seconds text = .error (.invalidDuration text) ∧
      ¬IsBody ((Text.trim text.toList).dropWhile isSign) := by
  unfold seconds IsBody
  generalize Text.trim text.toList = signed
  dsimp only
  by_cases hzero : signed.dropWhile isSign = ['0']
  · exact .inl ⟨⟨0, if_pos hzero⟩, .inl hzero⟩
  · rw [if_neg hzero]
    cases hterms : terms? (signed.dropWhile isSign) with
    | none =>
      refine .inr ⟨rfl, fun h => ?_⟩
      obtain ⟨ts, hts⟩ := exists_terms?_iff.2 (h.resolve_left hzero)
      rw [hterms] at hts
      cases hts
    | some ts =>
      refine .inl ⟨?_, .inr (exists_terms?_iff.1 ⟨ts, hterms⟩)⟩
      dsimp only
      split <;> exact ⟨_, rfl⟩

theorem exists_isSigned_iff :
    (∃ signs body, IsSigned text signs body) ↔ IsDuration text ∨ IsOversigned text := by
  constructor
  · rintro ⟨signs, body, h⟩
    rcases Nat.lt_or_ge signs.length 2 with hfew | hmany
    · exact .inl ⟨signs, body, h, Nat.le_of_lt_succ hfew⟩
    · exact .inr ⟨signs, body, h, hmany⟩
  · rintro (⟨signs, body, h, _⟩ | ⟨signs, body, h, _⟩) <;> exact ⟨signs, body, h⟩

theorem isBody_iff : IsBody ((Text.trim text.toList).dropWhile isSign) ↔
    IsDuration text ∨ IsOversigned text := by
  rw [← exists_isSigned_iff]
  constructor
  · intro h
    exact ⟨_, _, isSigned_iff.2 ⟨rfl, rfl, h⟩⟩
  · rintro ⟨signs, body, h⟩
    obtain ⟨_, rfl, hbody⟩ := isSigned_iff.1 h
    exact hbody

theorem IsOversigned.not_isDuration (h : IsOversigned text) : ¬IsDuration text := by
  rintro ⟨signs, body, hsigned, hfew⟩
  obtain ⟨signs', body', hsigned', hmany⟩ := h
  rw [(isSigned_iff.1 hsigned).1] at hfew
  rw [(isSigned_iff.1 hsigned').1] at hmany
  omega

theorem exists_seconds_iff : (∃ n, seconds text = .ok n) ↔ IsDuration text ∨ IsOversigned text := by
  rw [← isBody_iff]
  rcases @seconds_cases text with ⟨hread, hbody⟩ | ⟨hrefused, hnone⟩
  · exact iff_of_true hread hbody
  · refine iff_of_false ?_ hnone
    rintro ⟨n, hread⟩
    rw [hrefused] at hread
    cases hread

theorem seconds_eq_error_iff {failure : Failure} : seconds text = .error failure ↔
    failure = .invalidDuration text ∧ ¬IsDuration text ∧ ¬IsOversigned text := by
  rw [← not_or, ← isBody_iff]
  rcases @seconds_cases text with ⟨⟨n, hread⟩, hbody⟩ | ⟨hrefused, hnone⟩
  · simp [hread, hbody]
  · simp [hrefused, hnone, eq_comm]

theorem readByGrammar_iff : ReadByGrammar text ↔ ¬IsOversigned text := by
  constructor
  · intro h hmany
    exact hmany.not_isDuration (h.accepted.1 (exists_seconds_iff.2 (.inr hmany)))
  · intro hfew
    refine ⟨?_, fun h => seconds_eq_error_iff.2 ⟨rfl, h, hfew⟩⟩
    rw [exists_seconds_iff, or_iff_left hfew]

end Signs

/-- A text is read just as the grammar has it, unless it is a duration behind more signs than one:
that is read too. No scan goes on for ever, and reading finds the terms of the one that comes to the
end. -/
theorem seconds_by_grammar_iff (text : String) :
    (ReadByGrammar text ↔ ¬IsOversigned text) ∧
      ((∃ n, seconds text = .ok n) ↔ IsDuration text ∨ IsOversigned text) ∧
      (∀ failure, seconds text = .error failure ↔
        failure = .invalidDuration text ∧ ¬IsDuration text ∧ ¬IsOversigned text) ∧
      (WellFounded fun tail s : List Char => ∃ t, term? s = some (t, tail)) ∧
      ∀ s ts, terms? s = some ts ↔ s ≠ [] ∧ Scan s ts [] :=
  ⟨readByGrammar_iff, exists_seconds_iff, fun _ => seconds_eq_error_iff, wellFounded_term?,
    fun _ _ => terms?_eq_some_iff⟩

/-- Five seconds behind two signs. -/
theorem isOversigned_two_signs : IsOversigned "--5s" := by
  have hnumber : IsNumber ['5'] :=
    .whole (List.forall_mem_singleton.2 (by decide)) (List.cons_ne_nil _ _)
  have hterm : IsTerm ['5', 's'] := ⟨['5'], hnumber, "s", by decide, rfl⟩
  have hsigns : ∀ c ∈ ['-', '-'], c = '-' ∨ c = '+' := by
    intro c hc
    exact .inl (List.eq_of_mem_replicate (n := 2) hc)
  exact ⟨['-', '-'], ['5', 's'],
    ⟨⟨[], [], rfl, List.forall_mem_nil _, List.forall_mem_nil _⟩, hsigns, .inr (.one hterm)⟩,
    Nat.le_refl 2⟩

/-- Five seconds are read behind two signs. -/
theorem not_all_read_by_grammar : ¬∀ text, ReadByGrammar text := by
  intro h
  exact readByGrammar_iff.1 (h "--5s") isOversigned_two_signs

end Manifests.Duration
