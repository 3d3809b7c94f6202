/-! References to variables in the arguments of a command. -/

namespace Manifests

namespace ShellReference

def isStart (c : Char) : Bool := ('a' ≤ c && c ≤ 'z') || ('A' ≤ c && c ≤ 'Z') || c = '_'

def isPart (c : Char) : Bool := isStart c || ('0' ≤ c && c ≤ '9')

def isName : List Char → Bool
  | [] => false
  | c :: _ => isStart c

/-- The longest name that a dollar sign before this text refers to, bare or in braces, and what
follows the reference. -/
def read? : List Char → Option (List Char × List Char)
  | '{' :: s =>
    match s.dropWhile isPart with
    | '}' :: rest => if isName (s.takeWhile isPart) then some (s.takeWhile isPart, rest) else none
    | _ => none
  | s =>
    if isName (s.takeWhile isPart) then some (s.takeWhile isPart, s.dropWhile isPart) else none

theorem length_dropWhile_le (p : Char → Bool) (s : List Char) :
    (s.dropWhile p).length ≤ s.length := (List.dropWhile_sublist p).length_le

theorem length_of_read? {s name rest : List Char} (h : read? s = some (name, rest)) :
    rest.length ≤ s.length := by
  unfold read? at h
  split at h
  · rename_i t
    split at h
    · rename_i tail ht
      split at h
      · obtain ⟨-, rfl⟩ := Prod.mk.inj (Option.some.inj h)
        have := length_dropWhile_le isPart t
        rw [ht] at this
        simp only [List.length_cons] at this ⊢
        omega
      · cases h
    · cases h
  · split at h
    · obtain ⟨-, rfl⟩ := Prod.mk.inj (Option.some.inj h)
      exact length_dropWhile_le isPart s
    · cases h

/-- Writes every reference as `$(NAME)`, the form that a cluster resolves. -/
def forCluster : List Char → List Char
  | [] => []
  | c :: s =>
    if c = '$' then
      match h : read? s with
      | some (name, rest) =>
        have := length_of_read? h
        ['$', '('] ++ name ++ [')'] ++ forCluster rest
      | none => c :: forCluster s
    else c :: forCluster s
termination_by s => s.length
decreasing_by all_goals simp only [List.length_cons]; omega

end ShellReference

end Manifests
