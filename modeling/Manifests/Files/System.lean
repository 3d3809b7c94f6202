import Manifests.Files.Tree

/-! Systems of files: a tree, with the directory in it where a program works. -/

namespace Manifests

/-- Which part of a system a tree is. -/
inductive Extent where
  /-- All of it; these names lead to the working directory. -/
  | whole (home : List String)
  /-- The working directory. Nothing outside can be reached. -/
  | workingDirectory
deriving DecidableEq

/-- The names where the steps of a path start, with the last one first: an absolute path starts
at the root. -/
def Extent.start? (extent : Extent) (path : String) : Option (List String) :=
  if path = "" then none
  else
    match extent with
    | whole home => some (if Path.isAbsolute path then [] else home.reverse)
    | workingDirectory => if Path.isAbsolute path then none else some []

structure FileSystem where
  tree : FileTree
  extent : Extent

namespace FileSystem

/-- The names to what a path leads to. -/
def names (s : FileSystem) (path : String) : Except SystemError (List String) :=
  match s.extent.start? path with
  | some start => (s.tree.walk start (Path.steps path)).map List.reverse
  | none => .error .missing

def look (s : FileSystem) (path : String) : Except SystemError FileTree :=
  (s.names path).bind fun names =>
    match s.tree.at? names with
    | some found => .ok found
    | none => .error .missing

/-- The directory that a path points into, and what stands there. -/
def target (s : FileSystem) (path : String) : Except SystemError FileTree.Target :=
  match s.extent.start? path with
  | some start => s.tree.target start (Path.steps path)
  | none => .error .missing

/-- Puts something where a path points to. -/
def put (s : FileSystem) (target : FileTree.Target) (new : FileTree) : FileSystem :=
  { s with tree := s.tree.put new target.names }

/-- Makes one directory. Slashes at the end of its path do not matter. -/
def makeDirectory (s : FileSystem) (path : String) : Except SystemError FileSystem := do
  let target ← s.target (Path.trimmed path)
  if target.entry.isSome then throw .exists
  return s.put target .empty

def isDirectoryAt (s : FileSystem) (path : String) : Bool :=
  (s.look path).toOption.any FileTree.isDirectory

/-- The files after an attempt to make a directory, and whether that failed. -/
def attempt (s : FileSystem) (path : String) : FileSystem × Option SystemError :=
  match s.makeDirectory path with
  | .ok s => (s, none)
  | .error e => (s, if s.isDirectoryAt path then none else some e)

/-- Makes a directory and those above it that are missing. Each of these has a shorter path, so
the length of the path bounds their number. -/
def makeDirectories (s : FileSystem) (path : String) : Nat → FileSystem × Option SystemError
  | 0 => (s, some .missing)
  | n + 1 =>
    if path = "" then (s, none)
    else
      match s.attempt path with
      | (s, some .missing) =>
        match s.makeDirectories (Path.parent path) n with
        | (s, none) => s.attempt path
        | failed => failed
      | done => done

/-- Writes a file over what it held. -/
def writeFile (s : FileSystem) (path : String) (bytes : ByteArray) :
    Except SystemError FileSystem := do
  let target ← s.target path
  if target.entry.any FileTree.isDirectory then throw .isDirectory
  return s.put target (.file bytes)

end FileSystem

/-- What stands at a path below a working directory. -/
def FileTree.look (t : FileTree) (path : String) : Except SystemError FileTree :=
  { tree := t, extent := .workingDirectory : FileSystem }.look path

end Manifests
