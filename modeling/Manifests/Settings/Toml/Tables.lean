import Manifests.Settings.Value

/-! Tables while they are defined, part by part. -/

namespace Manifests.Toml

/-- How a table came to be. -/
inductive Origin where
  /-- It has a header of its own. -/
  | header
  /-- The header of a table inside it was read. -/
  | passed
  /-- A key with points led into it. -/
  | dotted
deriving DecidableEq

inductive Item where
  | value (v : SettingValue)
  | table (origin : Origin) (fields : List (String × Item))
  /-- Tables under one name, the last of which is still open. -/
  | tables (closed : List (List (String × Item))) (last : List (String × Item))

abbrev Fields := List (String × Item)

namespace Fields

def set (name : String) (item : Item) : Fields → Fields
  | [] => [(name, item)]
  | e :: rest => if e.1 = name then (name, item) :: rest else e :: set name item rest

/-- Changes the table that a path leads to, where tables on the way come to be with the given
origin. A key with points does not lead into a table that has a header. -/
def within (origin : Origin) (change : Origin → Fields → Option Fields) (here : Origin) :
    List String → Fields → Option Fields
  | [], fields => change here fields
  | name :: rest, fields =>
    match fields.lookup name with
    | none => do
      return fields.set name (.table origin (← within origin change origin rest []))
    | some (.value _) => none
    | some (.tables closed last) => do
      return fields.set name (.tables closed (← within origin change .header rest last))
    | some (.table made inner) =>
      if origin = .dotted && made = .header then none
      else do return fields.set name (.table made (← within origin change made rest inner))

/-- Opens the table of a header. It may be there only because another was put inside it. -/
def open? (name : String) (fields : Fields) : Option Fields :=
  match fields.lookup name with
  | none => some (fields.set name (.table .header []))
  | some (.table .passed inner) => some (fields.set name (.table .header inner))
  | some _ => none

/-- Adds a table to those under a name. -/
def append? (name : String) (fields : Fields) : Option Fields :=
  match fields.lookup name with
  | none => some (fields.set name (.tables [] []))
  | some (.tables closed last) => some (fields.set name (.tables (closed ++ [last]) []))
  | some _ => none

/-- Defines a new field. Among keys with points only such keys may define the fields of a table. -/
def define? (isDotted : Bool) (name : String) (v : SettingValue) (here : Origin)
    (fields : Fields) : Option Fields :=
  if isDotted && here ≠ .dotted then none
  else if (fields.lookup name).isSome then none
  else some (fields.set name (.value v))

/-- Gives the field at a key its value. -/
def withKey? (key : List String) (v : SettingValue) (fields : Fields) : Option Fields :=
  match key.getLast? with
  | none => none
  | some name =>
    within .dotted (define? (1 < key.length) name v) .header key.dropLast fields

end Fields

mutual

def Item.setting : Item → SettingValue
  | .value v => v
  | .table _ fields => .table (fieldSettings fields)
  | .tables closed last => .list (tableSettings closed ++ [.table (fieldSettings last)])

def fieldSettings : List (String × Item) → List (String × SettingValue)
  | [] => []
  | (name, item) :: rest => (name, item.setting) :: fieldSettings rest

def tableSettings : List (List (String × Item)) → List SettingValue
  | [] => []
  | fields :: rest => .table (fieldSettings fields) :: tableSettings rest

end

end Manifests.Toml
