import Manifests.Files.Disk
import Manifests.Json.Printer
import Manifests.Object.Manifest
import Manifests.Problem
import Manifests.Yaml.Printer

/-! Where objects are written, and how. -/

namespace Manifests

inductive Format where
  | yaml
  | json
deriving DecidableEq

def Format.extension : Format → String
  | yaml => "yaml"
  | json => "json"

namespace Object

def render (format : Format) (o : Object) : String :=
  match format with
  | .yaml => o.document.yaml
  | .json => o.document.json

/-- The file that an object gets to itself. -/
def fileName (format : Format) (o : Object) : String :=
  o.name ++ "-" ++ lowered o.kind ++ "." ++ format.extension

end Object

/-- All objects in one text, a line of hyphens before each. -/
def renderStream (objects : List Object) : String :=
  .join (objects.map fun o => "---\n" ++ o.render .yaml)

inductive OutputTarget where
  | printed
  | file (path : String)
  /-- A file for each object. -/
  | directory (path : String)
deriving DecidableEq

namespace OutputTarget

variable {m : Type → Type} [Monad m] [Disk m]

def orOutput {α : Type} (act : m (Except SystemError α)) (context : String) :
    ExceptT Problem m α := do
  match ← act with
  | .ok a => return a
  | .error e => throw (.output (context ++ e.message))

def endsInSlash (path : String) : Bool := path.toList.getLast? == some '/'

/-- A path that ends in a slash is made a directory. Objects go into a directory that is there,
else into one file; without a path they go into the working directory. -/
def choose (printed : Bool) (path : Option String) : ExceptT Problem m OutputTarget := do
  if printed then return .printed
  match filled path with
  | none => return .directory "."
  | some path =>
    let found ← (Disk.fetch path : m _)
    if !found.isOk && endsInSlash path then
      orOutput (Disk.makeDirectories path) "failed to create a directory: "
    if ← (Disk.isDirectory path : m _) then return .directory path else return .file path

/-- What was printed, and the files that were written, in order. -/
structure Written where
  printed : String := ""
  paths : List String := []

def writeFile (path text : String) : ExceptT Problem m Unit :=
  orOutput (Disk.writeFile path text) ""

def jsonRefusal : String :=
  "cannot convert to one file while specifying a json output file or stdout option"

/-- Writes objects. One text can hold many of them only as YAML. -/
def write (objects : List Object) (format : Format) : OutputTarget → ExceptT Problem m Written
  | printed =>
    if format = .json then throw (.argument jsonRefusal)
    else return { printed := renderStream objects }
  | file path => do
    if format = .json then throw (.argument jsonRefusal)
    writeFile path (renderStream objects)
    return { paths := [path] }
  | directory path => do
    orOutput (Disk.makeDirectories path) ""
    let paths ← objects.mapM fun o => do
      let file := Path.join path (o.fileName format)
      writeFile file (o.render format)
      return file
    return { paths }

end OutputTarget

end Manifests
