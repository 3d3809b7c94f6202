import Manifests.Command
import Manifests.Proofs.Text

/-! Commands that are written as lists in brackets: the arguments are read as they are, whatever
spaces and quotes stand around them. -/
namespace Manifests.Command

/-- What divides a list, or encloses it or its arguments. -/
def marks : List Char := [',', '[', ']', '"', '\'']

/-- A text without marks, and without white space at its ends. -/
structure IsArgument (s : String) : Prop where
  plain : ∀ c ∈ s.toList, c ∉ marks
  opens : ∀ c ∈ s.toList.head?, Text.isBlank c = false
  ends : ∀ c ∈ s.toList.getLast?, Text.isBlank c = false

theorem isArgument_iff {s : String} : IsArgument s ↔
    (s.toList.all fun c => !marks.contains c) ∧ (s.toList.head?.all fun c => !Text.isBlank c) ∧
      s.toList.getLast?.all fun c => !Text.isBlank c := by
  simp only [List.all_eq_true, Option.all_eq_true, Bool.not_eq_true', List.contains_eq_mem,
    decide_eq_false_iff_not]
  exact ⟨fun h => ⟨h.plain, h.opens, h.ends⟩, fun h => ⟨h.1, h.2.1, h.2.2⟩⟩

instance (s : String) : Decidable (IsArgument s) := decidable_of_iff _ isArgument_iff.symm

abbrev Argument : Type := { s : String // IsArgument s }

/-- The text is the argument, bare or between two quotes of one kind with spaces around it. -/
inductive Encloses (a : Argument) : List Char → Prop
  | bare : Encloses a a.val.toList
  | quoted {quote : Char} {left right : List Char} (hquote : quote = '"' ∨ quote = '\'')
      (hleft : ∀ c ∈ left, c = ' ') (hright : ∀ c ∈ right, c = ' ') :
      Encloses a ((quote :: left) ++ a.val.toList ++ (right ++ [quote]))

/-- White space may stand around the argument and its quotes. -/
def IsWritten (a : Argument) (text : List Char) : Prop :=
  ∃ front core back, text = front ++ core ++ back ∧ Encloses a core ∧
    (∀ c ∈ front, Text.isBlank c) ∧ ∀ c ∈ back, Text.isBlank c

/-- The arguments are written one behind the other, with commas between them. -/
inductive IsListed : List Argument → List Char → Prop
  | one {a : Argument} {text : List Char} (h : IsWritten a text) : IsListed [a] text
  | more {a : Argument} {as : List Argument} {text rest : List Char} (h : IsWritten a text)
      (hs : IsListed as rest) : IsListed (a :: as) (text ++ ',' :: rest)

/-- The line is a list of the arguments, in brackets. -/
def Renders (args : List Argument) (line : String) : Prop :=
  ∃ body, line.toList = ['['] ++ body ++ [']'] ∧ IsListed args body

section Argument

variable {a : Argument} {core text : List Char} {c quote : Char}

theorem notMem_marks_of_isBlank (h : Text.isBlank c) : c ∉ marks := by
  intro hc
  have hvisible : (marks.all fun d => !Text.isBlank d) = true := by decide
  have hc := List.all_eq_true.1 hvisible c hc
  rw [h] at hc
  cases hc

theorem isBlank_quote (h : quote = '"' ∨ quote = '\'') : Text.isBlank quote = false := by
  rcases h with rfl | rfl <;> decide

theorem isQuoteOrSpace_eq_false (hmark : c ∉ marks) (hblank : Text.isBlank c = false) :
    isQuoteOrSpace c = false := by
  have hspace : c ≠ ' ' := by
    rintro rfl
    cases hblank
  simp only [marks, List.mem_cons, not_or] at hmark
  simp [isQuoteOrSpace, hspace, hmark]

/-- Quotes keep the white space within them from being trimmed. -/
theorem Encloses.trim_eq (h : Encloses a core) : Text.trim core = core := by
  cases h with
  | bare => exact trimWhere_eq_self a.property.opens a.property.ends
  | quoted hquote hleft hright =>
    apply trimWhere_eq_self
    · intro c hc
      cases hc
      exact isBlank_quote hquote
    · intro c hc
      rw [← List.append_assoc, List.getLast?_concat] at hc
      cases hc
      exact isBlank_quote hquote

theorem Encloses.unquoted_eq (h : Encloses a core) :
    Text.trimWhere isQuoteOrSpace core = a.val.toList := by
  obtain ⟨s, hplain, hopens, hends⟩ := a
  have hhead : ∀ c ∈ s.toList.head?, isQuoteOrSpace c = false := fun c hc =>
    isQuoteOrSpace_eq_false (hplain c (List.mem_of_mem_head? hc)) (hopens c hc)
  have hlast : ∀ c ∈ s.toList.getLast?, isQuoteOrSpace c = false := fun c hc =>
    isQuoteOrSpace_eq_false (hplain c (List.mem_of_mem_getLast? hc)) (hends c hc)
  cases h with
  | bare => exact trimWhere_eq_self hhead hlast
  | @quoted quote left right hquote hleft hright =>
    have hclass : isQuoteOrSpace quote := by
      rcases hquote with rfl | rfl <;> rfl
    refine trimWhere_append ?_ ?_ hhead hlast
    · intro c hc
      rcases List.mem_cons.1 hc with rfl | hc
      · exact hclass
      · rw [hleft c hc]
        rfl
    · intro c hc
      rcases List.mem_append.1 hc with hc | hc
      · rw [hright c hc]
        rfl
      · rw [List.mem_singleton.1 hc]
        exact hclass

theorem inner_of_notMem_marks (h : c ∉ marks) : c ≠ ',' ∧ isBracket c = false := by
  simp only [marks, List.mem_cons, not_or] at h
  simp [isBracket, h]

/-- A list neither goes on nor ends within an argument. -/
theorem Encloses.inner (h : Encloses a core) (hc : c ∈ core) : c ≠ ',' ∧ isBracket c = false := by
  cases h with
  | bare => exact inner_of_notMem_marks (a.property.plain c hc)
  | quoted hquote hleft hright =>
    simp only [List.mem_append, List.mem_cons, List.not_mem_nil, or_false] at hc
    rcases hc with ((rfl | hc) | hc) | hc | rfl
    · rcases hquote with rfl | rfl <;> decide
    · rw [hleft c hc]
      decide
    · exact inner_of_notMem_marks (a.property.plain c hc)
    · rw [hright c hc]
      decide
    · rcases hquote with rfl | rfl <;> decide

theorem IsWritten.read (h : IsWritten a text) :
    Text.trimWhere isQuoteOrSpace (Text.trim text) = a.val.toList := by
  obtain ⟨front, core, back, rfl, hcore, hfront, hback⟩ := h
  have htrim : Text.trim (front ++ core ++ back) = Text.trim core := by
    rw [Text.trim, trimWhere_append_right hback, trimWhere_append_left hfront, Text.trim]
  rw [htrim, hcore.trim_eq, hcore.unquoted_eq]

theorem IsWritten.inner (h : IsWritten a text) (hc : c ∈ text) : c ≠ ',' ∧ isBracket c = false := by
  obtain ⟨front, core, back, rfl, hcore, hfront, hback⟩ := h
  rw [List.mem_append, List.mem_append] at hc
  rcases hc with (hc | hc) | hc
  · exact inner_of_notMem_marks (notMem_marks_of_isBlank (hfront c hc))
  · exact hcore.inner hc
  · exact inner_of_notMem_marks (notMem_marks_of_isBlank (hback c hc))

end Argument

section Line

variable {args : List Argument} {body : List Char} {c : Char} {line : String}

theorem IsListed.isBracket_eq_false (h : IsListed args body) (hc : c ∈ body) :
    isBracket c = false := by
  induction h with
  | one h => exact (h.inner hc).2
  | more h _ ih =>
    rw [List.mem_append, List.mem_cons] at hc
    rcases hc with hc | rfl | hc
    · exact (h.inner hc).2
    · rfl
    · exact ih hc

theorem IsListed.comma_mem_iff (h : IsListed args body) : ',' ∈ body ↔ 2 ≤ args.length := by
  cases h with
  | one h =>
    have hno : ',' ∉ body := fun hc => (h.inner hc).1 rfl
    simp [hno]
  | more _ hs => cases hs <;> simp

/-- What stands between two commas is read as the argument that is written there. -/
theorem IsListed.read_pieces (h : IsListed args body) :
    ((Text.pieces ',' body).map fun part =>
      String.ofList (Text.trimWhere isQuoteOrSpace (Text.trim part))) = args.map Subtype.val := by
  induction h with
  | one h =>
    rw [pieces_of_notMem fun hc => (h.inner hc).1 rfl, List.map_singleton, List.map_singleton,
      h.read, String.ofList_toList]
  | more h _ ih =>
    rw [pieces_append_cons, pieces_of_notMem fun hc => (h.inner hc).1 rfl, List.map_append, ih,
      List.map_singleton, h.read, String.ofList_toList]
    rfl

/-- That the list is trimmed as a whole before shows in none of its arguments. -/
theorem IsListed.read_pieces_trim (h : IsListed args body) :
    ((Text.pieces ',' (Text.trim body)).map fun part =>
      String.ofList (Text.trimWhere isQuoteOrSpace (Text.trim part))) = args.map Subtype.val := by
  have hmap : ∀ parts : List (List Char),
      (parts.map fun part => String.ofList (Text.trimWhere isQuoteOrSpace (Text.trim part))) =
        (parts.map Text.trim).map fun part => .ofList (Text.trimWhere isQuoteOrSpace part) := by
    intro parts
    rw [List.map_map]
    rfl
  have htrim : (Text.pieces ',' (Text.trim body)).map Text.trim =
      (Text.pieces ',' body).map Text.trim :=
    map_trimWhere_pieces_trimWhere (by decide)
  rw [hmap, htrim, ← hmap, h.read_pieces]

/-- A list of two arguments or more is read as it was written. A shorter one has no comma, and is
left as one argument with its brackets. -/
theorem parse_of_renders (h : Renders args line) :
    (2 ≤ args.length → parse line = args.map Subtype.val) ∧
      (args.length < 2 → parse line = [line]) := by
  obtain ⟨body, hline, hbody⟩ := h
  have hne : line ≠ "" := by
    rintro rfl
    cases hline
  have hcomma : line.toList.contains ',' ↔ 2 ≤ args.length := by
    rw [List.contains_iff_mem, hline, ← hbody.comma_mem_iff]
    simp
  have hbrackets : Text.trimWhere isBracket line.toList = body := by
    rw [hline]
    exact trimWhere_word (by simp [isBracket]) (fun c => hbody.isBracket_eq_false)
      (by simp [isBracket])
  rw [parse, if_neg hne, hbrackets]
  constructor
  · intro hlength
    rw [if_pos (hcomma.2 hlength), hbody.read_pieces_trim]
  · intro hlength
    rw [if_neg fun hmem => absurd (hcomma.1 hmem) (Nat.not_le.2 hlength)]

/-- The arguments of a shell, in three ways of writing them, and an empty one. -/
def shellArguments : List Argument :=
  [⟨"sh", by decide⟩, ⟨"-c", by decide⟩, ⟨"echo  hi", by decide⟩, ⟨"", by decide⟩]

theorem renders_shell : Renders shellArguments "[ sh,'-c'\t, \" echo  hi \",]" := by
  have hblank : ∀ c ∈ [' '], Text.isBlank c := List.forall_mem_singleton.2 rfl
  have htab : ∀ c ∈ ['\t'], Text.isBlank c := List.forall_mem_singleton.2 rfl
  have hnone : ∀ c ∈ [], Text.isBlank c := List.forall_mem_nil _
  have hspace : ∀ c ∈ [' '], c = ' ' := List.forall_mem_singleton.2 rfl
  have hsh : IsWritten shellArguments[0] [' ', 's', 'h'] :=
    ⟨[' '], _, [], rfl, .bare, hblank, hnone⟩
  have hoption : IsWritten shellArguments[1] "'-c'\t".toList :=
    ⟨[], _, ['\t'], rfl, .quoted (.inr rfl) (List.forall_mem_nil _) (List.forall_mem_nil _), hnone,
      htab⟩
  have hecho : IsWritten shellArguments[2] " \" echo  hi \"".toList :=
    ⟨[' '], _, [], rfl, .quoted (.inl rfl) hspace hspace, hblank, hnone⟩
  have hempty : IsWritten shellArguments[3] [] := ⟨[], _, [], rfl, .bare, hnone, hnone⟩
  exact ⟨_, rfl, .more hsh (.more hoption (.more hecho (.one hempty)))⟩

theorem parse_of_renders_shell : Renders shellArguments "[ sh,'-c'\t, \" echo  hi \",]" ∧
    2 ≤ shellArguments.length ∧
      parse "[ sh,'-c'\t, \" echo  hi \",]" = ["sh", "-c", "echo  hi", ""] :=
  ⟨renders_shell, by decide, (parse_of_renders renders_shell).1 (by decide)⟩

end Line

end Manifests.Command
