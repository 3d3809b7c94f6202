/-! Lists in which the first element of a key stands for all of them. -/

namespace Manifests

variable {α κ : Type} [DecidableEq κ]

/-- Adds an element at the end unless its key is taken. -/
def addNew (key : α → κ) (l : List α) (a : α) : List α :=
  if l.any fun b => key b = key a then l else l ++ [a]

/-- The first list, and behind it what the second has under keys of its own. -/
def unionBy (key : α → κ) (l m : List α) : List α := m.foldl (addNew key) l

/-- The first element of each key, in order. -/
def firstOfEach (key : α → κ) (l : List α) : List α := unionBy key [] l

/-- A list that is there only when it holds something. -/
def nonempty? (l : List α) : Option (List α) := if l.isEmpty then none else some l

end Manifests
