import Manifests.Program

/-! The command `kf` on the files of the system. -/

namespace Manifests

namespace SystemDisk

def errorOf (e : IO.Error) : SystemError :=
  match e with
  | .noFileOrDirectory .. => .missing
  | .alreadyExists _ 17 _ => .exists
  | .inappropriateType _ 20 _ => .notDirectory
  | .inappropriateType _ 21 _ => .isDirectory
  | .invalidArgument _ 36 _ => .nameTooLong
  | e => .other (toString e)

def attempt {α : Type} (act : IO α) : IO (Except SystemError α) := do
  try return .ok (← act)
  catch e => return .error (errorOf e)

def isDirectory (path : String) : IO Bool := (System.mkFilePath [path]).isDir

def namesIn (path : String) : IO (List String) := do
  return (← (System.mkFilePath [path]).readDir).toList.map (·.fileName)

/-- A file stands somewhere below a directory. -/
partial def holdsFile (path : String) : IO Bool := do
  for name in ← namesIn path do
    let below := Path.join path name
    if ← isDirectory below then
      if ← holdsFile below then return true
    else return true
  return false

/-- A directory in a directory, with a nameless file if it holds any. -/
def inner (path : String) : IO FileTree := do
  return .directory (if ← holdsFile path then [("", .file .empty)] else [])

def entry (path : String) : IO FileTree := do
  if ← isDirectory path then inner path else return .file (← IO.FS.readBinFile path)

def look (path : String) : IO FileTree := do
  if ← isDirectory path then
    return .directory (← (← namesIn path).mapM fun name => do
      return (name, ← entry (Path.join path name)))
  else return .file (← IO.FS.readBinFile path)

def fetch (path : String) : IO (Option ByteArray) := do
  if ← isDirectory path then return none else return some (← IO.FS.readBinFile path)

end SystemDisk

open SystemDisk in
instance : Disk IO where
  look path := attempt (look path)
  fetch path := attempt (fetch path)
  makeDirectories path := attempt (IO.FS.createDirAll path)
  writeFile path text := attempt (IO.FS.writeFile path text)

/-- The variables of the process, as the system keeps them. -/
def processEnvironment : IO (Dict String) := do
  let bytes ← try IO.FS.readBinFile "/proc/self/environ" catch _ => pure .empty
  let bindings := Text.pieces '\x00' (Text.lossy bytes).toList
  return .ofList (bindings.filterMap fun v =>
    (Text.cut? ['='] v).map fun (name, value) => (.ofList name, .ofList value))

end Manifests

open Manifests in
def main (args : List String) : IO UInt32 := do
  let finish : RunEnd ← Program.run (← processEnvironment) args
  IO.print finish.printed
  match finish.problem with
  | some problem => IO.eprintln ("Error: " ++ problem.message)
  | none => pure ()
  return finish.exitCode.toUInt32
