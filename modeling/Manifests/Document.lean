import Manifests.Dict

/-! Documents: values as data formats write them. -/

namespace Manifests

inductive Document where
  | boolean (b : Bool)
  | integer (n : Int)
  | text (s : String)
  | sequence (items : List Document)
  /-- Fields in the order in which they are written. -/
  | mapping (fields : List (String × Document))

namespace Document

instance : Coe String Document := ⟨text⟩

def texts (items : List String) : Document := sequence (items.map text)

def dict (d : Dict String) : Document := mapping (d.entries.map fun (k, v) => (k, text v))

def list {α : Type} (f : α → Document) (l : List α) : Document := sequence (l.map f)

/-- A field that is always written. -/
def always (key : String) (value : Document) : List (String × Document) := [(key, value)]

/-- A field that is written when it has a value. -/
def optional {α : Type} (key : String) (f : α → Document) : Option α → List (String × Document)
  | some a => [(key, f a)]
  | none => []

/-- A field that is written when there is something in it. -/
def unlessEmpty {α : Type} (key : String) (f : α → Document) (l : List α) :
    List (String × Document) :=
  if l.isEmpty then [] else [(key, list f l)]

/-- A field that is written when it is true. -/
def flag (key : String) (b : Bool) : List (String × Document) :=
  if b then [(key, boolean true)] else []

end Document

end Manifests
