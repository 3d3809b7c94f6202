import Manifests.ConfigFiles
import Manifests.DotEnv
import Manifests.Files.Disk
import Manifests.Problem
import Manifests.ServiceFile

/-! Services out of their file, with the files that they point at. -/

namespace Manifests

namespace Loading

variable {m : Type → Type} [Monad m] [Disk m] (environment : Dict String)

/-- The variables of an environment file. -/
def envFile (path : String) : ExceptT Problem m (Dict String) := do
  match ← (Disk.fetch path : m _) with
  | .ok (some bytes) =>
    match DotEnv.read? environment bytes with
    | some values => return values
    | none => throw (.load path "a line is malformed")
  | .ok none => throw (.load path SystemError.isDirectory.message)
  | .error e => throw (.load path e.message)

/-- Environment files that bring no values of their own are read. -/
def withValues (base : String) (f : EnvFile) : ExceptT Problem m EnvFile := do
  if f.values.isEmpty then
    return { f with values := ← envFile environment (Path.join base f.path) }
  else return f

def configContent (path : String) : ExceptT Problem m ConfigContent := do
  match ConfigContent.ofTree path (← (Disk.look path : m _)) with
  | .ok content => return content
  | .error unread => throw (.load unread.path unread.error.message)

/-- The volume with the files behind its host path, unless the path is ignored. -/
def withContent (base : String) (v : DeclaredVolume) :
    ExceptT Problem m (Option DeclaredVolume) := do
  match filled v.host with
  | none => return some v
  | some host =>
    let path := Path.join base host
    match HostPath.classify path (← (Disk.look path : m _)) with
    | .ignored => return none
    | .data => return some v
    | .configuration =>
      if v.config.isSome then return some v
      else return some { v with config := some (← configContent path) }

def withFiles (base : String) (s : Service) : ExceptT Problem m Service := do
  let envFiles ← s.envFiles.mapM (withValues environment base)
  let volumes ← s.volumes.filterMapM (withContent base)
  return { s with envFiles, volumes }

/-- The services of a file by name. The paths in it start in its directory. -/
def services (path : String) : ExceptT Problem m (Dict Service) := do
  match ← (Disk.readText path : m _) with
  | .error e => throw (.load path e.message)
  | .ok text =>
    match ServiceFile.services? text with
    | none => throw (.load path "it does not describe services")
    | some services =>
      let loaded ← services.entries.mapM fun (name, s) =>
        return (name, ← withFiles environment (Path.parent path) { s with name })
      return .ofList loaded

end Loading

end Manifests
