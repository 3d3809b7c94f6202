import Manifests.Service
import Manifests.Text.Blank
import Manifests.Text.Pieces

/-! Names of objects, containers and files. -/

namespace Manifests

/-- The longest label value and object name that a cluster takes. -/
def maxNameLength : Nat := 63

def hyphenated (s : List Char) : List Char := s.map fun c => if c = '_' then '-' else c

/-- A name as objects carry it: hyphens for underscores, in lower case. -/
def resourceName (s : String) : String := .ofList (Text.lower (hyphenated s.toList))

/-- The container's own name comes before that of its service. -/
def Service.container (s : Service) : String :=
  resourceName ((filled s.containerName).getD s.name)

/-- Puts the service in front of a name that is empty or starts with a hyphen, and cuts the name
to length before it is lowered. -/
def usableName (name service : String) : String :=
  let repaired :=
    match name.toList with
    | [] => (resourceName service).toList
    | '-' :: rest => (resourceName service).toList ++ '-' :: rest
    | cs => cs
  .ofList (Text.lower (repaired.take maxNameLength))

def isAsciiAlphanumeric (c : Char) : Bool :=
  ('a' ≤ c && c ≤ 'z') || ('A' ≤ c && c ≤ 'Z') || ('0' ≤ c && c ≤ '9')

/-- The config map of an environment file. -/
def envMapName (path service : String) : String :=
  let trimmed := Text.trimWhere (fun c => c = '.' || c = '/') path.toList
  let hyphens := trimmed.map fun c => if isAsciiAlphanumeric c then c else '-'
  usableName (.ofList hyphens) service

/-- The last step of a path that names something below its parent. -/
def baseName? (path : String) : Option String :=
  match ((Text.pieces '/' path.toList).filter fun p => p ≠ [] && p ≠ ['.']).getLast? with
  | some p => if p = ['.', '.'] then none else some (.ofList p)
  | none => none

def baseName (path : String) : String := (baseName? path).getD path

/-- The key of a file in a config map. -/
def fileKey (path : String) : String := .ofList (hyphenated (baseName path).toList)

end Manifests
