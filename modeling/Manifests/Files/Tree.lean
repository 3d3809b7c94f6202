import Manifests.Files.Path

/-! Directories and the files in them. -/

namespace Manifests

/-- What a system says when it cannot do something with a file. -/
inductive SystemError where
  | missing
  | exists
  | notDirectory
  | isDirectory
  | nameTooLong
  | notText
  | other (text : String)
deriving DecidableEq

def SystemError.message : SystemError → String
  | missing => "No such file or directory (os error 2)"
  | .exists => "File exists (os error 17)"
  | notDirectory => "Not a directory (os error 20)"
  | isDirectory => "Is a directory (os error 21)"
  | nameTooLong => "File name too long (os error 36)"
  | notText => "stream did not contain valid UTF-8"
  | other text => text

/-- A file with its bytes, or a directory with what stands in it, by name. -/
inductive FileTree where
  | file (bytes : ByteArray)
  | directory (entries : List (String × FileTree))

namespace FileTree

def empty : FileTree := directory []

instance : Inhabited FileTree := ⟨empty⟩

def isDirectory : FileTree → Bool
  | directory _ => true
  | file _ => false

def isFile (t : FileTree) : Bool := !t.isDirectory

/-- What stands below a directory under a name. -/
def child? (name : String) : FileTree → Option FileTree
  | directory entries => entries.lookup name
  | file _ => none

/-- What a sequence of names leads to. -/
def at? (t : FileTree) : List String → Option FileTree
  | [] => some t
  | name :: rest => (t.child? name).bind (·.at? rest)

/-- The longest name of a file, in bytes. -/
def maxNameSize : Nat := 255

/-- Walks through directories, from the names walked so far with the last one first. Nothing
stands above the tree. -/
def walk (t : FileTree) : List String → List String → Except SystemError (List String)
  | names, [] => .ok names
  | names, step :: rest =>
    match t.at? names.reverse with
    | some (directory entries) =>
      if step = "." then t.walk names rest
      else if step = ".." then t.walk names.tail rest
      else if maxNameSize < step.utf8ByteSize then .error .nameTooLong
      else if (entries.lookup step).isSome then t.walk (step :: names) rest
      else .error .missing
    | some (file _) => .error .notDirectory
    | none => .error .missing

/-- Puts an entry under its name, over one that stands there. -/
def replace (name : String) (t : FileTree) :
    List (String × FileTree) → List (String × FileTree)
  | [] => [(name, t)]
  | e :: rest => if e.1 = name then (name, t) :: rest else e :: replace name t rest

/-- Puts something where names lead, with the directories on the way. -/
def put (t new : FileTree) : List String → FileTree
  | [] => new
  | name :: rest =>
    let entries :=
      match t with
      | directory entries => entries
      | file _ => []
    directory (replace name (((t.child? name).getD empty).put new rest) entries)

/-- Where the last step of a path leads to from its directory. -/
structure Target where
  parent : List String
  name : String
  entry : Option FileTree

def Target.names (target : Target) : List String := target.parent ++ [target.name]

/-- The directory that steps point into, and what stands there. The steps start at some names, with
the last one first. A last step that has no name of its own leads to a directory. -/
def target (t : FileTree) (start steps : List String) : Except SystemError Target := do
  let name := steps.getLast?.getD "."
  let parent := (← t.walk start steps.dropLast).reverse
  match t.at? parent with
  | some (directory entries) =>
    if name = "." ∨ name = ".." then return ⟨parent, name, some empty⟩
    else if maxNameSize < name.utf8ByteSize then throw .nameTooLong
    else return ⟨parent, name, entries.lookup name⟩
  | some (file _) => throw .notDirectory
  | none => throw .missing

mutual

/-- All files with their paths, behind a path of their directory. -/
def filesBelow (path : String) : FileTree → List (String × ByteArray)
  | file bytes => [(path, bytes)]
  | directory entries => filesAmong path entries

def filesAmong (path : String) : List (String × FileTree) → List (String × ByteArray)
  | [] => []
  | (name, t) :: rest => filesBelow (Path.join path name) t ++ filesAmong path rest

end

/-- All files with their paths. -/
def files (t : FileTree) : List (String × ByteArray) := filesBelow "" t

mutual

/-- A file stands somewhere below. -/
def holdsFile : FileTree → Bool
  | file _ => true
  | directory entries => anyHoldsFile entries

def anyHoldsFile : List (String × FileTree) → Bool
  | [] => false
  | (_, t) :: rest => holdsFile t || anyHoldsFile rest

end

def bytes? : FileTree → Option ByteArray
  | file bytes => some bytes
  | directory _ => none

/-- The text of a file. -/
def text : FileTree → Except SystemError String
  | file bytes =>
    match String.fromUTF8? bytes with
    | some s => .ok s
    | none => .error .notText
  | directory _ => .error .isDirectory

end FileTree

end Manifests
