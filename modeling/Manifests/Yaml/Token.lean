import Manifests.Yaml.Scalar

/-! Tokens, and those of them that do not hang on indentation. -/

namespace Manifests.Yaml

/-- How a scalar was written. -/
inductive Form where
  | plain
  | quoted
  | literal
  | folded
deriving DecidableEq

inductive Token where
  | version (major minor : Nat)
  | tagHandle (handle stem : List Char)
  | documentStart
  | documentEnd
  | blockSequence
  | blockMapping
  | blockEnd
  | flowSequence
  | flowSequenceEnd
  | flowMapping
  | flowMappingEnd
  | blockEntry
  | flowEntry
  | key
  | value
  | alias (name : List Char)
  | anchor (name : List Char)
  | tag (handle suffix : List Char)
  | scalar (form : Form) (text : List Char)
deriving DecidableEq

/-- A token and what follows it. -/
abbrev Lexed := Option (Token × List Spot)

namespace Token

def isHexDigit (c : Char) : Bool := (Text.digitValue? 16 c).isSome

/-- The characters of a tag, with brackets and commas where these cannot end it. -/
def isTagChar (verbatim : Bool) (c : Char) : Bool :=
  isWordChar c || ";/?:@&=+$.!~*'()".toList.contains c ||
    (verbatim && [',', '[', ']'].contains c)

/-- The characters of a tag; a percent sign has to begin the code of one. -/
def tagText (verbatim : Bool) : List Spot → Option (List Char × List Spot)
  | [] => some ([], [])
  | c :: s =>
    if c.char = '%' then
      match s with
      | a :: b :: rest =>
        if isHexDigit a.char && isHexDigit b.char then
          (tagText verbatim rest).map fun (text, rest) => ('%' :: a.char :: b.char :: text, rest)
        else none
      | _ => none
    else if isTagChar verbatim c.char then
      (tagText verbatim s).map fun (text, rest) => (c.char :: text, rest)
    else some ([], c :: s)

/-- A tag handle, read behind its first mark. -/
def handle (s : List Spot) : List Char × List Spot :=
  let (name, rest) := Spot.span s isWordChar
  if Spot.next rest (· = '!') then ('!' :: name ++ ['!'], rest.drop 1) else ('!' :: name, rest)

def isFullHandle (handle : List Char) : Bool := 1 < handle.length && handle.getLast? == some '!'

def number? (s : List Spot) : Option (Nat × List Spot) := do
  let (digits, rest) := Spot.span s Text.isDigit
  if 9 < digits.length then none
  return (← Text.natural? 10 digits, rest)

def versionNumber? (s : List Spot) : Lexed := do
  let (major, rest) ← number? s
  if !Spot.next rest (· = '.') then none
  let (minor, rest) ← number? (rest.drop 1)
  return (version major minor, rest)

def tagShorthand? (s : List Spot) : Lexed := do
  if !Spot.next s (· = '!') then none
  let (name, rest) := handle (s.drop 1)
  if !(isFullHandle name || name == ['!']) || !Spot.next rest isSpaceOrTab then none
  let (stem, rest) ← tagText true (Spot.skip rest isSpaceOrTab)
  if stem.isEmpty || !Spot.closed rest then none
  return (tagHandle name stem, rest)

/-- A directive behind its percent sign, with the rest of its line. -/
def directive? (s : List Spot) : Lexed := do
  let (name, rest) := Spot.span s isWordChar
  if !Spot.closed rest then none
  let rest := Spot.skip rest isSpaceOrTab
  let (token, rest) ←
    match String.ofList name with
    | "YAML" => versionNumber? rest
    | "TAG" => tagShorthand? rest
    | _ => none
  return (token, ← Block.restOfLine? rest)

/-- The marks that may follow the name of an anchor. -/
def nameEnds : List Char := ['?', ':', ',', ']', '}', '%', '@', '\x60']

/-- An anchor or alias behind its sign. -/
def reference? (make : List Char → Token) (s : List Spot) : Lexed :=
  let (name, rest) := Spot.span s isWordChar
  if !name.isEmpty && (Spot.closed rest || Spot.next rest nameEnds.contains) then
    some (make name, rest)
  else none

/-- A tag between angle brackets, read behind the first. -/
def verbatimTag? (s : List Spot) : Lexed := do
  let (suffix, rest) ← tagText true s
  if suffix.isEmpty || !Spot.next rest (· = '>') then none
  return (tag [] suffix, rest.drop 1)

/-- A tag with a handle in front; without a second mark, the first one is the handle. -/
def shortTag? (s : List Spot) : Lexed := do
  let (name, afterName) := handle s
  let (suffix, rest) ← tagText false afterName
  let whole := name.drop 1 ++ suffix
  if isFullHandle name then
    if suffix.isEmpty then none else return (tag name suffix, rest)
  else if whole.isEmpty then return (tag [] ['!'], rest)
  else return (tag ['!'] whole, rest)

/-- A tag behind its first mark. -/
def tag? (inFlow : Bool) (s : List Spot) : Lexed := do
  let (token, rest) ← if Spot.next s (· = '<') then verbatimTag? (s.drop 1) else shortTag? s
  if Spot.closed rest || (inFlow && Spot.next rest (· = ',')) then return (token, rest) else none

end Token

end Manifests.Yaml
