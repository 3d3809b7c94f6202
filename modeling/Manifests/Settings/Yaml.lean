import Manifests.Settings.Value
import Manifests.Yaml.Node

/-! Settings written as YAML. -/

namespace Manifests

namespace Yaml

/-- What a plain scalar without a tag stands for. Integers have 64 bits. -/
def plainSetting (s : String) : Option SettingValue :=
  let cs := s.toList
  let radixed (base : Nat) (digits : List Char) := (Text.integer? base digits).filter (Text.fits 64)
  let announced :=
    match cs with
    | '0' :: 'x' :: digits => radixed 16 digits
    | '0' :: 'o' :: digits => radixed 8 digits
    | '+' :: digits => radixed 10 digits
    | _ => none
  match announced with
  | some n => some (.integer n)
  | none =>
    if s = "" || isNullName s then some .nothing
    else
      match boolean? s, Text.int64? cs with
      | some b, _ => some (.boolean b)
      | none, some n => some (.integer n)
      | none, none =>
        if isFloat cs && (Text.Decimal.read? cs).isNone then none
        else some (((Text.Decimal.read? cs).map SettingValue.ofDecimal).getD (.text s))

def coreTag? (tag : List Char) : Option String :=
  (Text.after? "tag:yaml.org,2002:".toList tag).map .ofList

/-- A plain scalar with a tag; a tag that the text does not fit makes it nothing. -/
def taggedSetting (tag : List Char) (s : String) : Option SettingValue :=
  match coreTag? tag with
  | some "bool" =>
    some (if s = "true" then .boolean true else if s = "false" then .boolean false else .nothing)
  | some "int" => some (((Text.int64? s.toList).map SettingValue.integer).getD .nothing)
  | some "float" =>
    match Text.Decimal.read? s.toList with
    | some d => some (.ofDecimal d)
    | none => if isFloat s.toList then none else some .nothing
  | some "null" => some .nothing
  | _ => some (.text s)

/-- The key of a field: a text or an integer. -/
def settingKey? : Node → Option String
  | .scalar none .plain s =>
    match plainSetting s with
    | some (.text s) => some s
    | some (.integer n) => some (toString n)
    | _ => none
  | .scalar _ _ s => some s
  | _ => none

/-- How deep collections and aliases may nest. -/
def maxDepth : Nat := 100

mutual

/-- The value of a node. What nests too deep is nothing, such as an anchor within itself. -/
def settingOf (t : Tree) : Nat → Node → Option SettingValue
  | 0, _ => some .nothing
  | n + 1, node =>
    match node with
    | .alias anchor =>
      match Node.anchored? t.anchored anchor with
      | some node => settingOf t n node
      | none => some .nothing
    | .scalar none .plain s => plainSetting s
    | .scalar (some tag) .plain s => taggedSetting tag s
    | .scalar _ _ s => some (.text s)
    | .sequence items => (settingsOf t n items).map .list
    | .mapping entries => do
      let fields ← settingFieldsOf t n entries
      if (fields.map Prod.fst).Nodup then return .table fields else none

def settingsOf (t : Tree) : Nat → List Node → Option (List SettingValue)
  | _, [] => some []
  | 0, _ => none
  | n + 1, node :: rest => do return (← settingOf t n node) :: (← settingsOf t (n + 1) rest)

def settingFieldsOf (t : Tree) : Nat → List (Node × Node) → Option (List (String × SettingValue))
  | _, [] => some []
  | 0, _ => none
  | n + 1, (key, value) :: rest => do
    return (← settingKey? (← t.resolved key), ← settingOf t n value) ::
      (← settingFieldsOf t (n + 1) rest)

end

/-- The settings in a text; an empty text has none. -/
def settings? (s : String) : Option SettingValue := do
  let tree ← Tree.ofText? s
  match tree.root with
  | none => return .table []
  | some root => settingOf tree maxDepth root

end Yaml

end Manifests
