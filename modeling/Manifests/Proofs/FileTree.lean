import Manifests.Files.Tree
import Manifests.Proofs.Dict
import Manifests.Proofs.Outcome

/-! What putting a file into a tree changes, and what it leaves as it was. -/
namespace Manifests.FileTree

variable {t t' new x : FileTree} {entries : List (String × FileTree)}
  {names parent start steps more : List String} {name k : String} {bytes : ByteArray}

theorem lookup_replace :
    (replace name new entries).lookup k = if k = name then some new else entries.lookup k := by
  induction entries with
  | nil => exact Dict.lookup_cons
  | cons e rest ih =>
    rw [replace]
    split
    · rename_i he
      rw [Dict.lookup_cons, Dict.lookup_cons, he]
      by_cases hk : k = name
      · rw [if_pos hk, if_pos hk]
      · rw [if_neg hk, if_neg hk, if_neg hk]
    · rename_i he
      rw [Dict.lookup_cons, Dict.lookup_cons, ih]
      by_cases hk : k = e.1
      · rw [if_pos hk, if_neg (hk ▸ he), if_pos hk]
      · rw [if_neg hk, if_neg hk]

theorem isSome_lookup_replace (h : (entries.lookup k).isSome) :
    ((replace name new entries).lookup k).isSome := by
  rw [lookup_replace]
  split
  · rfl
  · exact h

theorem at?_append : t.at? (names ++ more) = (t.at? names).bind (·.at? more) := by
  induction names generalizing t with
  | nil => rfl
  | cons n names ih =>
    rw [List.cons_append, at?, at?]
    cases t.child? n with
    | none => rfl
    | some c => exact ih

theorem child?_put : (t.put new (name :: names)).child? k =
    if k = name then some (((t.child? name).getD empty).put new names) else t.child? k := by
  cases t with
  | file bytes => exact lookup_replace
  | directory entries => exact lookup_replace

/-- What is put somewhere is there. -/
theorem at?_put_self : (t.put new names).at? names = some new := by
  induction names generalizing t with
  | nil => rfl
  | cons n names ih =>
    rw [at?, child?_put, if_pos rfl]
    exact ih

/-- A file is as it was, and a directory has all the names that it had. -/
inductive Grows : FileTree → FileTree → Prop
  | file (bytes : ByteArray) : Grows (file bytes) (file bytes)
  | directory {entries entries' : List (String × FileTree)}
      (h : ∀ k, (entries.lookup k).isSome → (entries'.lookup k).isSome) :
      Grows (directory entries) (directory entries')

theorem Grows.refl (x : FileTree) : x.Grows x := by
  cases x with
  | file bytes => exact .file bytes
  | directory entries => exact .directory fun _ h => h

/-- What is put into a directory leaves all that does not stand at or below its place. -/
theorem at?_put (hparent : t.at? parent = some (directory entries)) (hx : t.at? names = some x)
    (hplace : ¬ (parent ++ [name]) <+: names) :
    ∃ y, (t.put new (parent ++ [name])).at? names = some y ∧ x.Grows y := by
  induction parent generalizing t names with
  | nil =>
    cases hparent
    cases names with
    | nil =>
      cases hx
      exact ⟨_, rfl, .directory fun _ h => isSome_lookup_replace h⟩
    | cons n names =>
      have hne : n ≠ name := by
        rintro rfl
        exact hplace (List.cons_prefix_cons.2 ⟨rfl, List.nil_prefix⟩)
      refine ⟨x, ?_, .refl x⟩
      rw [List.nil_append, at?, child?_put, if_neg hne]
      exact hx
  | cons p parent ih =>
    cases t with
    | file bytes => cases hparent
    | directory old =>
      cases names with
      | nil =>
        cases hx
        exact ⟨_, rfl, .directory fun _ h => isSome_lookup_replace h⟩
      | cons n names =>
        rw [List.cons_append, at?, child?_put]
        by_cases hn : n = p
        · subst hn
          rw [at?] at hparent hx
          cases hc : (directory old).child? n with
          | none =>
            rw [hc] at hparent
            cases hparent
          | some c =>
            rw [hc] at hparent hx
            rw [if_pos rfl]
            exact ih hparent hx fun h => hplace (List.cons_prefix_cons.2 ⟨rfl, h⟩)
        · rw [if_neg hn]
          exact ⟨x, hx, .refl x⟩

section Walk

/-- Where a step leads, from names with the last one first. -/
def moved (names : List String) (step : String) : List String :=
  if step = "." then names else if step = ".." then names.tail else step :: names

/-- A step can be made in a directory. -/
def Passes (entries : List (String × FileTree)) (step : String) : Prop :=
  step = "." ∨ step = ".." ∨ step.utf8ByteSize ≤ maxNameSize ∧ (entries.lookup step).isSome

theorem Passes.of_imp {entries' : List (String × FileTree)} {step : String}
    (h : Passes entries step)
    (hkept : (entries.lookup step).isSome → (entries'.lookup step).isSome) : Passes entries' step :=
  h.imp_right (Or.imp_right (And.imp_right hkept))

variable {step : String} {found : List String}

/-- A walk goes on from where its first step leads. -/
theorem walk_cons (hat : t.at? names.reverse = some (directory entries))
    (hstep : Passes entries step) :
    t.walk names (step :: steps) = t.walk (moved names step) steps := by
  rw [walk, hat]
  dsimp only
  rw [moved]
  by_cases hdot : step = "."
  · rw [if_pos hdot, if_pos hdot]
  · rw [if_neg hdot, if_neg hdot]
    by_cases hup : step = ".."
    · rw [if_pos hup, if_pos hup]
    · obtain ⟨hsize, hthere⟩ := (hstep.resolve_left hdot).resolve_left hup
      rw [if_neg hup, if_neg hup, if_neg (Nat.not_lt.2 hsize), if_pos hthere]

/-- A walk that succeeds makes its first step. -/
theorem walk_cons_ok (h : t.walk names (step :: steps) = .ok found) : ∃ entries,
    t.at? names.reverse = some (directory entries) ∧ Passes entries step ∧
      t.walk (moved names step) steps = .ok found := by
  have hmade : ∃ entries, t.at? names.reverse = some (directory entries) ∧ Passes entries step := by
    rw [walk] at h
    split at h
    · rename_i entries hat
      refine ⟨entries, hat, ?_⟩
      by_cases hdot : step = "."
      · exact Or.inl hdot
      · by_cases hup : step = ".."
        · exact Or.inr (Or.inl hup)
        · rw [if_neg hdot, if_neg hup] at h
          split at h
          · cases h
          · rename_i hsize
            split at h
            · rename_i hthere
              exact Or.inr (Or.inr ⟨Nat.not_lt.1 hsize, hthere⟩)
            · cases h
    · cases h
    · cases h
  obtain ⟨entries, hat, hpasses⟩ := hmade
  exact ⟨entries, hat, hpasses, by rwa [← walk_cons hat hpasses]⟩

theorem walk_append (h : t.walk names steps = .ok found) :
    t.walk names (steps ++ more) = t.walk found more := by
  induction steps generalizing names with
  | nil =>
    cases h
    rfl
  | cons step steps ih =>
    obtain ⟨entries, hat, hpasses, hrest⟩ := walk_cons_ok h
    rw [List.cons_append, walk_cons hat hpasses, ih hrest]

theorem walk_append_ok (h : t.walk names (steps ++ more) = .ok found) :
    ∃ middle, t.walk names steps = .ok middle ∧ t.walk middle more = .ok found := by
  induction steps generalizing names with
  | nil => exact ⟨names, rfl, h⟩
  | cons step steps ih =>
    obtain ⟨entries, hat, hpasses, hrest⟩ := walk_cons_ok h
    obtain ⟨middle, hmiddle, hmore⟩ := ih hrest
    exact ⟨middle, by rwa [walk_cons hat hpasses], hmore⟩

/-- A walk leads to something of the name of its last step. -/
theorem head?_of_walk (hname : name ≠ "." ∧ name ≠ "..")
    (h : t.walk start (steps ++ [name]) = .ok found) : found.head? = some name := by
  obtain ⟨middle, _, hlast⟩ := walk_append_ok h
  obtain ⟨_, _, _, hmoved⟩ := walk_cons_ok hlast
  rw [moved, if_neg hname.1, if_neg hname.2] at hmoved
  cases hmoved
  rfl

end Walk

/-- All directories are there, with all names that they had. -/
def Extends (t t' : FileTree) : Prop :=
  ∀ names entries, t.at? names = some (directory entries) → ∃ entries',
    t'.at? names = some (directory entries') ∧
      ∀ k, (entries.lookup k).isSome → (entries'.lookup k).isSome

namespace Extends

variable (h : t.Extends t')

include h

theorem trans {t'' : FileTree} (h' : t'.Extends t'') : t.Extends t'' := by
  intro names entries hat
  obtain ⟨entries', hat', hkept⟩ := h names entries hat
  obtain ⟨entries'', hat'', hkept'⟩ := h' names entries' hat'
  exact ⟨entries'', hat'', fun k hk => hkept' k (hkept k hk)⟩

/-- A walk leads where it led before. -/
theorem walk_eq {found : List String} (hwalk : t.walk names steps = .ok found) :
    t'.walk names steps = .ok found := by
  induction steps generalizing names with
  | nil => exact hwalk
  | cons step steps ih =>
    obtain ⟨entries, hat, hpasses, hrest⟩ := walk_cons_ok hwalk
    obtain ⟨entries', hat', hkept⟩ := h _ _ hat
    rw [walk_cons hat' (hpasses.of_imp (hkept step)), ih hrest]

end Extends

theorem Extends.refl (t : FileTree) : t.Extends t := fun _ entries h => ⟨entries, h, fun _ hk => hk⟩

/-- The entry of a directory that some steps lead to. -/
structure Target.Reached (t : FileTree) (start steps : List String) (target : Target) : Prop where
  steps_eq : steps = steps.dropLast ++ [target.name]
  walked : t.walk start steps.dropLast = .ok target.parent.reverse
  parent : ∃ entries, t.at? target.parent = some (directory entries) ∧
    ((target.name = "." ∨ target.name = "..") ∧ target.entry = some empty ∨
      (target.name ≠ "." ∧ target.name ≠ ".." ∧ target.name.utf8ByteSize ≤ maxNameSize) ∧
        target.entry = entries.lookup target.name)

theorem target_ok {target : Target} (hnil : steps ≠ []) (h : t.target start steps = .ok target) :
    target.Reached t start steps := by
  have hlast : steps.getLast?.getD "." = steps.getLast hnil := by
    rw [List.getLast?_eq_some_getLast hnil]
    rfl
  have hsteps : steps = steps.dropLast ++ [steps.getLast?.getD "."] := by
    rw [hlast, List.dropLast_append_getLast]
  rw [FileTree.target] at h
  obtain ⟨found, hwalk, h⟩ := bind_ok h
  dsimp only at h
  split at h
  · rename_i entries hat
    split at h
    · rename_i hdots
      cases h
      exact ⟨hsteps, by rw [List.reverse_reverse]; exact hwalk, entries, hat, Or.inl ⟨hdots, rfl⟩⟩
    · rename_i hdots
      rw [not_or] at hdots
      split at h
      · cases h
      · rename_i hsize
        cases h
        exact ⟨hsteps, by rw [List.reverse_reverse]; exact hwalk, entries, hat,
          Or.inr ⟨⟨hdots.1, hdots.2, Nat.not_lt.1 hsize⟩, rfl⟩⟩
  · cases h
  · cases h

theorem at?_names {target : Target} (hat : t.at? target.parent = some (directory entries)) :
    t.at? target.names = entries.lookup target.name := by
  rw [Target.names, at?_append, hat, Option.bind_some, at?, child?]
  cases entries.lookup target.name <;> rfl

/-- A file can be put there: no directory stands under this name. -/
structure Target.IsFree (target : Target) (t : FileTree) : Prop where
  parent : ∃ entries, t.at? target.parent = some (directory entries)
  free : ∀ entries, t.at? target.names ≠ some (directory entries)

namespace Target.IsFree

variable {target : Target} (h : target.IsFree t)

include h

/-- There is at most a file, and nothing below it. -/
theorem eq_of_prefix (hx : t.at? names = some x) (hbelow : target.names <+: names) :
    names = target.names ∧ ∃ b, x = file b := by
  obtain ⟨more, rfl⟩ := hbelow
  rw [at?_append] at hx
  cases hplace : t.at? target.names with
  | none =>
    rw [hplace] at hx
    cases hx
  | some found =>
    rw [hplace, Option.bind_some] at hx
    cases found with
    | directory entries => exact (h.free entries hplace).elim
    | file b =>
      cases more with
      | nil =>
        cases hx
        exact ⟨List.append_nil _, b, rfl⟩
      | cons n more => cases hx

theorem extends_put : t.Extends (t.put (file bytes) target.names) := by
  intro names entries hat
  obtain ⟨old, hparent⟩ := h.parent
  have hplace : ¬ target.names <+: names := by
    intro hbelow
    obtain ⟨_, b, hfile⟩ := h.eq_of_prefix hat hbelow
    cases hfile
  obtain ⟨y, hy, hgrows⟩ := at?_put hparent hat hplace
  cases hgrows with
  | directory hkept => exact ⟨_, hy, hkept⟩

/-- The other files are as they were. -/
theorem frame_put {b : ByteArray} (hne : names ≠ target.names) (hat : t.at? names = some (file b)) :
    (t.put (file bytes) target.names).at? names = some (file b) := by
  obtain ⟨old, hparent⟩ := h.parent
  have hplace : ¬ target.names <+: names := fun hbelow => hne (h.eq_of_prefix hat hbelow).1
  obtain ⟨y, hy, hgrows⟩ := at?_put hparent hat hplace
  cases hgrows with
  | file => exact hy

end Target.IsFree

end Manifests.FileTree
