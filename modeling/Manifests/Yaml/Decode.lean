import Manifests.Dict
import Manifests.Yaml.Node

/-! Values of known types out of documents. -/

namespace Manifests.Yaml

/-- Reads a value from a node of a tree, unless the node is of another kind. -/
abbrev Decoder (α : Type) := Tree → Node → Option α

namespace Decoder

variable {α : Type}

/-- Any scalar is a text, however it is written. -/
def text : Decoder String := fun t n => do
  match ← t.resolved n with
  | .scalar _ _ s => return s
  | _ => none

def coreTag (name : String) : List Char := "tag:yaml.org,2002:".toList ++ name.toList

/-- The text of a scalar that may stand for something else: a plain one, or a literal one with the
tag of what it stands for. -/
def typed (name : String) : Decoder String := fun t n => do
  match ← t.resolved n with
  | .scalar _ .plain s => return s
  | .scalar tag .literal s => if tag = some (coreTag name) then return s else none
  | _ => none

def flag : Decoder Bool := fun t n => (typed "bool" t n).bind boolean?

/-- An integer of the given width in bits. -/
def whole (bits : Nat) : Decoder Int := fun t n =>
  (typed "int" t n).bind fun s => (integer? s.toList).filter (Text.fits bits)

/-- Nothing is written as nothing at all or as one of the names of null. A tag other than that of
null says that there is something. -/
def isNothing : Node → Option Bool
  | .scalar none .plain s => some (s = "" || isNullName s)
  | .scalar (some tag) .plain s =>
    if tag = coreTag "null" then if isNullName s then some true else none else some false
  | _ => some false

def optional (d : Decoder α) : Decoder (Option α) := fun t n => do
  let n ← t.resolved n
  if ← isNothing n then return none else (d t n).map some

/-- A plain scalar without text is a collection without elements. -/
def isEmpty : Node → Bool
  | .scalar _ .plain s => s = ""
  | _ => false

def list (d : Decoder α) : Decoder (List α) := fun t n => do
  match ← t.resolved n with
  | .sequence items => items.mapM (d t)
  | n => if isEmpty n then return [] else none

/-- A mapping with any keys, the last value of a key in force. -/
def dict (d : Decoder α) : Decoder (Dict α) := fun t n => do
  match ← t.resolved n with
  | .mapping fields => return .ofList (← fields.mapM fun (k, v) => return (← text t k, ← d t v))
  | n => if isEmpty n then return ∅ else none

/-- The values of known fields. -/
abbrev Fields := List (String × Node)

/-- Fields by name, where unknown ones are passed over and known ones come at most once, or by
position, where there are no more values than names. -/
def fields (names : List String) : Decoder Fields := fun t n => do
  match ← t.resolved n with
  | .mapping entries =>
    let named ← entries.mapM fun (k, v) => return (← text t k, v)
    let known := named.filter (names.contains ·.1)
    if (known.map Prod.fst).Nodup then return known else none
  | .sequence items => if items.length ≤ names.length then return names.zip items else none
  | n => if isEmpty n then return [] else none

/-- A field, or its default where it is missing. -/
def field (f : Fields) (name : String) (d : Decoder α) (default : α) (t : Tree) : Option α :=
  match f.lookup name with
  | some n => d t n
  | none => some default

end Decoder

/-- The value in a text; an empty text holds nothing but defaults. -/
def decode? {α : Type} (d : Decoder α) (s : String) : Option α := do
  let tree ← Tree.ofText? s
  d tree (tree.root.getD .absent)

end Manifests.Yaml
