import Manifests.Settings.Toml.Scalar
import Manifests.Settings.Toml.Tables

/-! Settings written as TOML. Each reader returns what it read and what follows it. -/

namespace Manifests.Toml

def skipBlanks (s : List Char) : List Char := s.dropWhile fun c => c = ' ' || c = '\t'

def isWordChar (c : Char) : Bool :=
  c.isAlphanum || c = '_' || c = '-' || c = '+' || c = '.' || c = ':'

def isBareKeyChar (c : Char) : Bool := c.isAlphanum || c = '_' || c = '-'

/-- The rest behind the end of a line, where a comment may stand. -/
def lineEnd? (s : List Char) : Option (List Char) :=
  let rest :=
    match skipBlanks s with
    | '#' :: rest => rest.dropWhile isPlain
    | rest => rest
  match rest with
  | [] => some []
  | '\n' :: rest => some rest
  | _ => none

/-- The rest behind blanks, line breaks and comments. -/
def skipGap? (inComment : Bool) : List Char → Option (List Char)
  | [] => some []
  | c :: s =>
    if c = '\n' then skipGap? false s
    else if inComment then if isPlain c then skipGap? true s else none
    else if c = '#' then skipGap? true s
    else if c = ' ' || c = '\t' then skipGap? false s
    else some (c :: s)

def simpleKey? (s : List Char) : Option (String × List Char) :=
  match s with
  | '"' :: s => (Quoted.line? '"' s.length s).map fun (key, rest) => (.ofList key, rest)
  | '\'' :: s => (Quoted.line? '\'' s.length s).map fun (key, rest) => (.ofList key, rest)
  | s =>
    let key := s.takeWhile isBareKeyChar
    if key.isEmpty then none else some (.ofList key, s.dropWhile isBareKeyChar)

/-- The steps of a key, and what follows them behind blanks. Each step takes a character, so the
length of the text bounds their number. -/
def keySteps? : Nat → List Char → Option (List String × List Char)
  | 0, _ => none
  | n + 1, s => do
    let (first, rest) ← simpleKey? (skipBlanks s)
    match skipBlanks rest with
    | '.' :: rest =>
      let (more, rest) ← keySteps? n rest
      return (first :: more, rest)
    | rest => return ([first], rest)

def key? (s : List Char) : Option (List String × List Char) := keySteps? (s.length + 1) s

/-- A value that is one word. A day and a time of day may stand in two words. -/
def word? (s : List Char) : Option (SettingValue × List Char) :=
  let word := s.takeWhile isWordChar
  let rest := s.dropWhile isWordChar
  let next := rest.drop 1 |>.takeWhile isWordChar
  let whole :=
    if rest.head? == some ' ' && Time.isDay word then Time.clockAndOffset? next else none
  match whole with
  | some clock => some (.text (.ofList (word ++ 'T' :: clock)), rest.drop (next.length + 1))
  | none =>
    let v? :=
      if word = "true".toList then some (.boolean true)
      else if word = "false".toList then some (.boolean false)
      else
        ((announced? word).map SettingValue.integer).or (number? word) |>.or
          ((Time.shown? word).map fun shown => .text (.ofList shown))
    v?.map (·, rest)

mutual

/-- Each step takes a character after at most one other, so twice the length of the text bounds
their number. -/
def value? : Nat → List Char → Option (SettingValue × List Char)
  | 0, _ | _, [] => none
  | n + 1, c :: s =>
    if c = '"' || c = '\'' then
      (Quoted.read? c s).map fun (text, rest) => (.text (.ofList text), rest)
    else if c = '[' then
      (items? n s).map fun (items, rest) => (.list items, rest)
    else if c = '{' then
      match skipBlanks s with
      | '}' :: rest => some (.table [], rest)
      | s => (fields? n [] s).map fun (fields, rest) => (.table (fieldSettings fields), rest)
    else word? (c :: s)

def items? : Nat → List Char → Option (List SettingValue × List Char)
  | 0, _ => none
  | n + 1, s => do
    match ← skipGap? false s with
    | ']' :: rest => return ([], rest)
    | s =>
      let (item, rest) ← value? n s
      match ← skipGap? false rest with
      | ']' :: rest => return ([item], rest)
      | ',' :: rest =>
        let (items, rest) ← items? n rest
        return (item :: items, rest)
      | _ => none

def fields? : Nat → Fields → List Char → Option (Fields × List Char)
  | 0, _, _ => none
  | n + 1, fields, s => do
    let (key, v, rest) ← assignment? n s
    let fields ← fields.withKey? key v
    match skipBlanks rest with
    | '}' :: rest => return (fields, rest)
    | ',' :: rest => fields? n fields rest
    | _ => none

def assignment? : Nat → List Char → Option (List String × SettingValue × List Char)
  | 0, _ => none
  | n + 1, s => do
    let (key, rest) ← key? s
    let (v, rest) ← value? n (skipBlanks (← Text.after? ['='] rest))
    return (key, v, rest)

end

/-- All tables, and the path of the one whose fields are read. -/
structure Reading where
  fields : Fields := []
  path : List String := []

namespace Reading

/-- Goes to the table of a header. -/
def enter? (r : Reading) (add : String → Fields → Option Fields) (key : List String) :
    Option Reading := do
  let fields ←
    r.fields.within .passed (fun _ fields => add (key.getLast?.getD "") fields) .header key.dropLast
  return ⟨fields, key⟩

def define? (r : Reading) (key : List String) (v : SettingValue) : Option Reading := do
  let fields ← r.fields.within .passed (fun _ fields => fields.withKey? key v) .header r.path
  return { r with fields }

/-- The lines of a text. Each takes a character, so the length of the text bounds their number. -/
def run (r : Reading) : Nat → List Char → Option Reading
  | 0, _ => none
  | n + 1, s =>
    match skipBlanks s with
    | [] => some r
    | '\n' :: s => r.run n s
    | '#' :: s => (lineEnd? ('#' :: s)).bind (r.run n)
    | '[' :: '[' :: s => do
      let (key, rest) ← key? s
      (← r.enter? Fields.append? key).run n (← lineEnd? (← Text.after? [']', ']'] rest))
    | '[' :: s => do
      let (key, rest) ← key? s
      (← r.enter? Fields.open? key).run n (← lineEnd? (← Text.after? [']'] rest))
    | s => do
      let (key, v, rest) ← assignment? (2 * s.length + 2) s
      (← r.define? key v).run n (← lineEnd? rest)

end Reading

/-- Line breaks of two characters become one. -/
def withLineFeeds : List Char → List Char
  | '\r' :: '\n' :: s => '\n' :: withLineFeeds s
  | c :: s => c :: withLineFeeds s
  | [] => []

/-- The settings in a text. -/
def settings? (s : String) : Option SettingValue :=
  let s := withLineFeeds s.toList
  (Reading.run {} (s.length + 1) s).map fun r => .table (fieldSettings r.fields)

end Manifests.Toml
