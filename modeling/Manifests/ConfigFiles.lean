import Manifests.Files.Tree
import Manifests.Name

/-! Configuration files behind the host paths of volumes. -/

namespace Manifests

/-- What a host path is to a volume. -/
inductive HostPath where
  /-- Nothing to mount. -/
  | ignored
  /-- Data, or nothing that is there. -/
  | data
  | configuration
deriving DecidableEq

/-- A path without a name or of a socket is ignored; a file, or a directory with a file anywhere
below it, is configuration. -/
def HostPath.classify (path : String) (found : Except SystemError FileTree) : HostPath :=
  if path = "" || Text.endsWith ".sock".toList path.toList then ignored
  else
    match found with
    | .ok t => if t.holdsFile then configuration else data
    | .error _ => data

namespace ConfigContent

/-- What went wrong with which file. -/
structure Unread where
  path : String
  error : SystemError

def read (path : String) (found : Except SystemError FileTree) : Except Unread String :=
  (found.bind FileTree.text).mapError (⟨path, ·⟩)

/-- The file at a path under its key, or the files right below a directory under their names. -/
def ofTree (path : String) (found : Except SystemError FileTree) :
    Except Unread ConfigContent :=
  match found with
  | .ok (.directory entries) => do
    let files ← (entries.filter (·.2.isFile)).mapM fun (name, t) =>
      return (name, ← read (Path.join path name) (.ok t))
    return { files := .ofList files, isDir := true }
  | found => do
    return { files := .singleton (fileKey path) (← read path found) }

end ConfigContent

end Manifests
