import Manifests.Files.System

/-! Disks: where a program finds and leaves its files. -/

namespace Manifests

/-- What a program does with files. A path that is not absolute starts in its working directory. -/
class Disk (m : Type → Type) where
  /-- What stands at a path, with what is below it. -/
  look : String → m (Except SystemError FileTree)
  /-- The bytes of a file; a directory has none. -/
  fetch : String → m (Except SystemError (Option ByteArray))
  /-- Makes a directory and those above it. -/
  makeDirectories : String → m (Except SystemError Unit)
  /-- Writes a file over what it held. -/
  writeFile : String → String → m (Except SystemError Unit)

instance : Disk (StateM FileSystem) where
  look path := do return (← get).look path
  fetch path := do return ((← get).look path).map FileTree.bytes?
  makeDirectories path := do
    let (s, failure) := (← get).makeDirectories path (path.length + 1)
    set s
    return failure.elim (.ok ()) .error
  writeFile path text := do
    match (← get).writeFile path text.toUTF8 with
    | .ok s =>
      set s
      return .ok ()
    | .error e => return .error e

/-- What is done in a working directory, without a way out of it. -/
def FileSystem.within {α : Type} (act : StateM FileSystem α) : StateM FileTree α := fun t =>
  let (result, s) := act.run { tree := t, extent := .workingDirectory }
  (result, s.tree)

instance : Disk (StateM FileTree) where
  look path := FileSystem.within (Disk.look path)
  fetch path := FileSystem.within (Disk.fetch path)
  makeDirectories path := FileSystem.within (Disk.makeDirectories path)
  writeFile path text := FileSystem.within (Disk.writeFile path text)

namespace Disk

variable {m : Type → Type} [Monad m] [Disk m]

/-- The text of the file at a path. -/
def readText (path : String) : m (Except SystemError String) := do
  match ← fetch path with
  | .ok (some bytes) => return (FileTree.file bytes).text
  | .ok none => return .error .isDirectory
  | .error e => return .error e

/-- The bytes of a file, if there is one. -/
def bytes? (path : String) : m (Option ByteArray) := do
  return (← fetch path).toOption.join

def isDirectory (path : String) : m Bool := do
  return (← fetch path).toOption.any Option.isNone

end Disk

end Manifests
