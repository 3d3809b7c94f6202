/-! Texts cut at separators. -/

namespace Manifests.Text

/-- The pieces between the occurrences of a separator; there is always at least one. -/
def pieces {α : Type} [DecidableEq α] (sep : α) : List α → List (List α)
  | [] => [[]]
  | c :: rest =>
    match pieces sep rest with
    | [] => [[c]]
    | p :: ps => if c = sep then [] :: p :: ps else (c :: p) :: ps

/-- The rest of a text that starts with the given one. -/
def after? : List Char → List Char → Option (List Char)
  | [], rest => some rest
  | _ :: _, [] => none
  | p :: ps, c :: rest => if p = c then after? ps rest else none

/-- What stands before and after the first occurrence of a separator. -/
def cut? (sep : List Char) : List Char → Option (List Char × List Char)
  | [] => if sep.isEmpty then some ([], []) else none
  | c :: rest =>
    match after? sep (c :: rest) with
    | some tail => some ([], tail)
    | none => (cut? sep rest).map fun (head, tail) => (c :: head, tail)

def contains (sub s : List Char) : Bool := (cut? sub s).isSome

def endsWith (tail s : List Char) : Bool := (after? tail.reverse s.reverse).isSome

end Manifests.Text
