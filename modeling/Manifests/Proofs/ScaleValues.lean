import Manifests.Autoscaling
import Manifests.Object.Manifest
import Manifests.Proofs.PodRuns
import Manifests.Proofs.Text

/-! The values of autoscalers. What number a label gives, if it gives one, is written down on its
own; then each value is the label's number where that is allowed, and else its default. -/
namespace Manifests

namespace Text

variable {s digits front back : List Char} {n m : Int} {k i : Nat} {c : Char} {text : String}

/-- One or more digits. -/
def IsDigits (digits : List Char) : Prop := digits ≠ [] ∧ ∀ c ∈ digits, isDigit c

/-- A whole number as it is written: digits, behind one sign at most. -/
inductive IsNumeral : List Char → Int → Prop
  | unsigned {digits : List Char} (h : IsDigits digits) :
      IsNumeral digits (Nat.ofDigitChars 10 digits 0)
  | positive {digits : List Char} (h : IsDigits digits) :
      IsNumeral ('+' :: digits) (Nat.ofDigitChars 10 digits 0)
  | negative {digits : List Char} (h : IsDigits digits) :
      IsNumeral ('-' :: digits) (-(Nat.ofDigitChars 10 digits 0 : Nat))

/-- The number is one of 32 bits. -/
def IsInt32 (n : Int) : Prop := -2147483648 ≤ n ∧ n < 2147483648

/-- The text is the number, perhaps with white space around it. -/
def Denotes (text : String) (n : Int) : Prop :=
  IsInt32 n ∧ ∃ front numeral back, text.toList = front ++ numeral ++ back ∧ IsNumeral numeral n ∧
    (∀ c ∈ front, isBlank c) ∧ ∀ c ∈ back, isBlank c

theorem filter_digit (h : 10 ≤ i) : (some i).filter (· < 10) = none := by
  rw [Option.filter_some, if_neg]
  simpa using h

/-- In base ten there are no digits but those from zero to nine. -/
theorem digitValue?_ten : digitValue? 10 c = if isDigit c then some (c.toNat - 48) else none := by
  rw [digitValue?, isDigit]
  by_cases hdigit : ('0' ≤ c && c ≤ '9')
  · have hsmall : c.toNat - 48 < 10 := by
      have hhigh := (toNat_of_isDigit hdigit).2
      omega
    rw [if_pos hdigit, if_pos hdigit, Option.filter_some, if_pos (decide_eq_true hsmall)]
  · rw [if_neg hdigit, if_neg hdigit]
    by_cases hlower : ('a' ≤ c && c ≤ 'z')
    · have hlow : 97 ≤ c.toNat := (toNat_of_between hlower).1
      rw [if_pos hlower]
      exact filter_digit (by omega)
    · rw [if_neg hlower]
      by_cases hupper : ('A' ≤ c && c ≤ 'Z')
      · have hlow : 65 ≤ c.toNat := (toNat_of_between hupper).1
        rw [if_pos hupper]
        exact filter_digit (by omega)
      · rw [if_neg hupper]
        rfl

theorem foldlM_digitValue? :
    s.foldlM (fun n c => (digitValue? 10 c).map (n * 10 + ·)) k = some i ↔
      (∀ c ∈ s, isDigit c) ∧ i = Nat.ofDigitChars 10 s k := by
  induction s generalizing k with
  | nil =>
    rw [List.foldlM_nil, Nat.ofDigitChars_nil, and_iff_right (List.forall_mem_nil _)]
    exact Option.some_inj.trans eq_comm
  | cons c s ih =>
    rw [List.foldlM_cons, digitValue?_ten, List.forall_mem_cons, Nat.ofDigitChars_cons]
    by_cases hc : isDigit c
    · rw [if_pos hc, and_iff_right hc, Nat.mul_comm 10]
      exact ih
    · rw [if_neg hc, and_assoc, iff_false_intro hc, false_and]
      exact iff_of_false (Option.some_ne_none i).symm not_false

theorem natural?_ten_eq_some_iff :
    natural? 10 s = some i ↔ IsDigits s ∧ i = Nat.ofDigitChars 10 s 0 := by
  cases s with
  | nil => simp [natural?, IsDigits]
  | cons c s =>
    rw [natural?, IsDigits, and_iff_right (List.cons_ne_nil c s), ← foldlM_digitValue?]
    rfl

theorem integer?_ten_eq_some_iff : integer? 10 s = some n ↔ IsNumeral s n := by
  constructor
  · intro h
    unfold integer? at h
    split at h
    · rename_i digits
      obtain ⟨i, hi, rfl⟩ := Option.map_eq_some_iff.1 h
      obtain ⟨hdigits, rfl⟩ := natural?_ten_eq_some_iff.1 hi
      exact .positive hdigits
    · rename_i digits
      cases hi : natural? 10 digits with
      | none =>
        rw [hi] at h
        cases h
      | some i =>
        obtain ⟨hdigits, rfl⟩ := natural?_ten_eq_some_iff.1 hi
        rw [hi] at h
        cases h
        exact .negative hdigits
    · obtain ⟨i, hi, rfl⟩ := Option.map_eq_some_iff.1 h
      obtain ⟨hdigits, rfl⟩ := natural?_ten_eq_some_iff.1 hi
      exact .unsigned hdigits
  · intro h
    cases h with
    | positive h => rw [integer?, natural?_ten_eq_some_iff.2 ⟨h, rfl⟩]; rfl
    | negative h => rw [integer?, natural?_ten_eq_some_iff.2 ⟨h, rfl⟩]; rfl
    | unsigned h =>
      unfold integer?
      split
      · exact absurd (h.2 '+' List.mem_cons_self) (by decide)
      · exact absurd (h.2 '-' List.mem_cons_self) (by decide)
      · rw [natural?_ten_eq_some_iff.2 ⟨h, rfl⟩]; rfl

theorem int32?_eq_some_iff : int32? s = some n ↔ IsNumeral s n ∧ IsInt32 n := by
  have hpow : Int.pow 2 (32 - 1) = 2147483648 := rfl
  have hfits : fits 32 n ↔ IsInt32 n := by
    rw [fits, hpow, Bool.and_eq_true, decide_eq_true_eq, decide_eq_true_eq, IsInt32]
  rw [int32?, Option.filter_eq_some_iff, integer?_ten_eq_some_iff, hfits]

theorem IsNumeral.isBlank_eq_false (h : IsNumeral s n) (hc : c ∈ s) : isBlank c = false := by
  cases h with
  | unsigned h => exact isBlank_of_isDigit (h.2 c hc)
  | positive h | negative h =>
    rcases List.mem_cons.1 hc with rfl | hc
    · decide
    · exact isBlank_of_isDigit (h.2 c hc)

theorem int32?_trim_eq_some_iff : int32? (trim text.toList) = some n ↔ Denotes text n := by
  rw [int32?_eq_some_iff, Denotes, and_comm]
  refine and_congr_right fun _ => ⟨fun h => ?_, ?_⟩
  · obtain ⟨front, back, htext, hfront, hback⟩ :=
      exists_trimWhere (p := isBlank) (s := text.toList)
    exact ⟨front, _, back, htext, h, hfront, hback⟩
  · rintro ⟨front, numeral, back, htext, hnumeral, hfront, hback⟩
    rw [trim, htext, trimWhere_word hfront (fun c => hnumeral.isBlank_eq_false) hback]
    exact hnumeral

end Text

namespace ScaleValues

variable {labels : Dict String} {key : String} {allowed : Int → Prop} {standard n m : Int}

/-- The label has this number. -/
def Gives (labels : Dict String) (key : String) (n : Int) : Prop :=
  ∃ text, labels.get? key = some text ∧ Text.Denotes text n

/-- The number of a label, if it is allowed, and else the standard one. -/
structure ReadFrom (labels : Dict String) (key : String) (allowed : Int → Prop)
    (standard value : Int) : Prop where
  given : ∀ n, Gives labels key n → allowed n → value = n
  otherwise : (∀ n, Gives labels key n → ¬allowed n) → value = standard

def IsCount (n : Int) : Prop := 0 ≤ n

def IsShare (n : Int) : Prop := 1 ≤ n ∧ n ≤ 100

/-- All values come from their labels, except that the larger number of pods is raised to the
smaller one. -/
structure FromLabels (labels : Dict String) (values : ScaleValues) : Prop where
  min : ReadFrom labels Label.minReplicas IsCount 1 values.min
  max : ∃ limit, ReadFrom labels Label.maxReplicas IsCount 3 limit ∧
    values.max = Max.max values.min limit
  cpu : ReadFrom labels Label.cpu IsShare 50 values.cpu
  memory : ReadFrom labels Label.memory IsShare 70 values.memory

/-- The values are those that an autoscaler can have. -/
structure InRange (values : ScaleValues) : Prop where
  min : 0 ≤ values.min
  max : values.min ≤ values.max
  int32 : values.max < 2147483648
  cpu : IsShare values.cpu
  memory : IsShare values.memory

theorem gives_iff : Gives labels key n ↔
    ((labels.get? key).bind fun v => Text.int32? (Text.trim v.toList)) = some n := by
  simp only [Gives, Option.bind_eq_some_iff, Text.int32?_trim_eq_some_iff]

theorem Gives.isInt32 (h : Gives labels key n) : Text.IsInt32 n := by
  obtain ⟨_, _, hdenotes⟩ := h
  exact hdenotes.1

/-- What is read from a label is a number that it gives and that is allowed, or else the standard
one. -/
theorem ReadFrom.cases (h : ReadFrom labels key allowed standard n) :
    (Gives labels key n ∧ allowed n) ∨ n = standard := by
  by_cases hgiven : ∃ m, Gives labels key m ∧ allowed m
  · obtain ⟨m, hm, hallowed⟩ := hgiven
    rw [h.given m hm hallowed]
    exact .inl ⟨hm, hallowed⟩
  · exact .inr (h.otherwise fun m hm hallowed => hgiven ⟨m, hm, hallowed⟩)

theorem readFrom_ofLabel : ReadFrom labels key IsCount standard (ofLabel labels key standard) where
  given := by
    intro n hn hallowed
    rw [ofLabel, gives_iff.1 hn, Option.filter_some, if_pos (decide_eq_true (p := 0 ≤ n) hallowed),
      Option.getD_some]
  otherwise := by
    intro hnone
    have hfilter : (((labels.get? key).bind fun v => Text.int32? (Text.trim v.toList)).filter
        (0 ≤ ·)) = none := by
      rw [Option.filter_eq_none_iff]
      intro n hn hcount
      exact hnone n (gives_iff.2 hn) (of_decide_eq_true (p := 0 ≤ n) hcount)
    rw [ofLabel, hfilter, Option.getD_none]

theorem readFrom_percentage :
    ReadFrom labels key IsShare standard (percentage labels key standard) where
  given := by
    intro n hn hshare
    have hcount : IsCount n := Int.le_trans (by decide) hshare.1
    rw [percentage, readFrom_ofLabel.given n hn hcount]
    exact if_pos hshare
  otherwise := by
    intro hnone
    have hread : ReadFrom labels key IsCount standard (ofLabel labels key standard) :=
      readFrom_ofLabel
    rw [percentage]
    split
    · rename_i hshare
      rcases hread.cases with ⟨hn, _⟩ | heq
      · exact absurd hshare (hnone _ hn)
      · exact heq
    · rfl

theorem fromLabels_ofLabels : FromLabels labels (ofLabels labels) where
  min := readFrom_ofLabel
  max := ⟨_, readFrom_ofLabel, Int.max_comm _ _⟩
  cpu := readFrom_percentage
  memory := readFrom_percentage

theorem ReadFrom.of_standard (h : ReadFrom labels key allowed standard n) (hs : allowed standard) :
    allowed n := by
  rcases h.cases with ⟨_, hn⟩ | rfl
  · exact hn
  · exact hs

theorem ReadFrom.isInt32 (h : ReadFrom labels key allowed standard n) (hs : Text.IsInt32 standard) :
    Text.IsInt32 n := by
  rcases h.cases with ⟨hn, _⟩ | rfl
  · exact hn.isInt32
  · exact hs

theorem FromLabels.inRange {values : ScaleValues} (h : FromLabels labels values) :
    values.InRange := by
  obtain ⟨limit, hlimit, hmax⟩ := h.max
  have hmin : values.min < 2147483648 := (h.min.isInt32 (by unfold Text.IsInt32; decide)).2
  have hint32 : limit < 2147483648 := (hlimit.isInt32 (by unfold Text.IsInt32; decide)).2
  exact
    { min := h.min.of_standard (by unfold IsCount; decide)
      max := by omega
      int32 := by omega
      cpu := h.cpu.of_standard (by unfold IsShare; decide)
      memory := h.memory.of_standard (by unfold IsShare; decide) }

/-- Neither share is zero, so both metrics are kept. -/
theorem metrics_autoscaler {name kind apiVersion : String} :
    (autoscaler name kind apiVersion labels).metrics =
      [⟨"cpu", (ofLabels labels).cpu⟩, ⟨"memory", (ofLabels labels).memory⟩] := by
  have hrange : (ofLabels labels).InRange := fromLabels_ofLabels.inRange
  apply List.filter_eq_self.2
  intro metric hmetric
  rw [decide_eq_true_eq]
  rcases List.mem_cons.1 hmetric with rfl | hmetric
  · exact hrange.cpu.1
  · rw [List.mem_singleton.1 hmetric]
    exact hrange.memory.1

/-- Whatever the labels hold, the values of an autoscaler are read from them and are in range. Its
metrics are the processors' share and then the memory's, and so they are written. -/
theorem fromLabels_autoscaler (labels : Dict String) (name kind apiVersion : String) :
    FromLabels labels (ofLabels labels) ∧ (ofLabels labels).InRange ∧
      (autoscaler name kind apiVersion labels).minReplicas = (ofLabels labels).min ∧
      (autoscaler name kind apiVersion labels).maxReplicas = (ofLabels labels).max ∧
      (autoscaler name kind apiVersion labels).metrics =
        [⟨"cpu", (ofLabels labels).cpu⟩, ⟨"memory", (ofLabels labels).memory⟩] ∧
      ∀ value, ("metrics", value) ∈ (autoscaler name kind apiVersion labels).specFields ↔
        value = .sequence [UtilizationMetric.document ⟨"cpu", (ofLabels labels).cpu⟩,
          UtilizationMetric.document ⟨"memory", (ofLabels labels).memory⟩] := by
  refine ⟨fromLabels_ofLabels, fromLabels_ofLabels.inRange, rfl, rfl, metrics_autoscaler, ?_⟩
  intro value
  simp [Autoscaler.specFields, Document.mem_always, Document.mem_unlessEmpty, metrics_autoscaler,
    Document.list]

/-- A number too large for 32 bits counts for nothing, white space around one for nothing either. -/
example : ofLabels (.ofList [(Label.minReplicas, " +5\n"), (Label.maxReplicas, "2147483648"),
    (Label.cpu, "100"), (Label.memory, "-0")]) = ⟨5, 5, 100, 70⟩ := by
  decide +kernel

end ScaleValues

end Manifests
