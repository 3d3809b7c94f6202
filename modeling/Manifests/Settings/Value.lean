import Manifests.Options
import Manifests.Text.Pieces
import Manifests.Text.Shortest

/-! Values in settings, from whatever format they were read. -/

namespace Manifests

inductive SettingValue where
  | nothing
  | boolean (b : Bool)
  | integer (n : Int)
  /-- A number with a point, as it is shown. -/
  | real (shown : String) (isZero : Bool)
  | text (s : String)
  | list (items : List SettingValue)
  | table (fields : List (String × SettingValue))

namespace SettingValue

def ofDecimal (d : Text.Decimal) : SettingValue := real d.floatText d.isZero

def fields : SettingValue → List (String × SettingValue)
  | table fields => fields
  | _ => []

/-- Sets a field, over one of the same name. -/
def setField (name : String) (v : SettingValue) :
    List (String × SettingValue) → List (String × SettingValue)
  | [] => [(name, v)]
  | e :: rest => if e.1 = name then (name, v) :: rest else e :: setField name v rest

mutual

/-- Lays a value over what is there. Tables are joined, the upper one in force, and an empty one
changes nothing; names are told apart without regard to case. -/
def laidOver (under : Option SettingValue) : SettingValue → SettingValue
  | table [] => under.getD (table [])
  | table upper => table (fieldsOver ((under.map fields).getD []) upper)
  | v => v

def fieldsOver (under : List (String × SettingValue)) :
    List (String × SettingValue) → List (String × SettingValue)
  | [] => under
  | (name, v) :: rest =>
    fieldsOver (setField (lowered name) (laidOver (under.lookup (lowered name)) v) under) rest

end

/-- A character of a name that can be a step of a path. -/
def isStepChar (c : Char) : Bool := c.isAlphanum || c = '_' || c = '-' || c = ' '

/-- A name of steps between points stands for a field within tables. -/
def nested (name : String) (v : SettingValue) : String × SettingValue :=
  let steps := Text.pieces '.' name.toList
  if steps.all fun step => step ≠ [] && step.all isStepChar then
    match steps with
    | [] => (name, v)
    | first :: rest =>
      (.ofList first, rest.foldr (fun step v => table [(.ofList step, v)]) v)
  else (name, v)

/-- Lays the fields of a file over what there is. -/
def withFile (under upper : SettingValue) : SettingValue :=
  laidOver under (table (upper.fields.map fun (name, v) => nested name v))

/-- The text that a value stands for. -/
def text? : SettingValue → Option String
  | text s => some s
  | boolean b => some (toString b)
  | integer n => some (toString n)
  | real shown _ => some shown
  | nothing | list _ | table _ => none

/-- Numbers are true unless they are zero, and some words stand for truth values. -/
def flag? : SettingValue → Option Bool
  | boolean b => some b
  | integer n => some (n ≠ 0)
  | real _ isZero => some !isZero
  | text s =>
    match lowered s with
    | "1" | "true" | "on" | "yes" => some true
    | "0" | "false" | "off" | "no" => some false
    | _ => none
  | nothing | list _ | table _ => none

end SettingValue

end Manifests
