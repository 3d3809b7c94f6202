import Manifests.Text.Pieces

/-! Paths, as texts of steps between slashes. -/

namespace Manifests

namespace Path

def isAbsolute (path : String) : Bool := path.toList.head? == some '/'

/-- The steps of a path one after another; where two slashes meet, or one ends the path, the path
stays where it is. -/
def steps (path : String) : List String :=
  (Text.pieces '/' path.toList).map fun step => if step = [] then "." else .ofList step

/-- A path below another; an absolute path stands for itself. -/
def join (base path : String) : String :=
  if isAbsolute path || base = "" then path
  else if base.toList.getLast? == some '/' then base ++ path
  else base ++ "/" ++ path

/-- A path without the slashes at its end; one that has nothing else keeps the first. -/
def trimmed (path : String) : String :=
  let front := (path.toList.reverse.dropWhile (· = '/')).reverse
  .ofList (if front = [] then path.toList.take 1 else front)

/-- The step leads somewhere. -/
def isProper (step : List Char) : Bool := step ≠ [] && step ≠ ['.']

/-- The steps before the last proper one. -/
def beforeLast (steps : List (List Char)) : List (List Char) :=
  let upward := steps.reverse.dropWhile (!isProper ·)
  ((upward.drop 1).dropWhile (!isProper ·)).reverse

def slashed : List (List Char) → List Char
  | [] => []
  | [step] => step
  | step :: rest => step ++ '/' :: slashed rest

/-- The directory in which the last step of a path stands. A dot in front counts as a step. -/
def parent (path : String) : String :=
  match Text.pieces '/' path.toList with
  | ['.'] :: rest =>
    if rest.any isProper then .ofList (slashed (['.'] :: beforeLast rest)) else ""
  | [] :: rest =>
    if isAbsolute path then .ofList ('/' :: slashed (beforeLast rest)) else ""
  | steps => .ofList (slashed (beforeLast steps))

/-- What stands behind the last point of a name; a point in front of a name does not count. -/
def extension? (path : String) : Option String :=
  let name := (Text.pieces '/' path.toList).reverse.find? isProper |>.getD []
  match (Text.pieces '.' name).reverse with
  | [] | [_] | [_, []] => none
  | last :: _ => some (.ofList last)

end Path

end Manifests
