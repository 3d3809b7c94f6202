import Manifests.Yaml.Tokens

/-! Tokens into the tree of a document. -/

namespace Manifests.Yaml

/-- An anchor is known by a number. -/
inductive Node where
  | scalar (tag : Option (List Char)) (form : Form) (text : String)
  | sequence (items : List Node)
  | mapping (fields : List (Node × Node))
  | alias (anchor : Nat)

namespace Node

/-- What stands where nothing is written. -/
def absent : Node := scalar none .plain ""

/-- A node behind an anchor; of several under one number the one that began last counts. -/
structure Anchored where
  anchor : Nat
  order : Nat
  node : Node

/-- The anchored node of a number. -/
def anchored? (anchored : List Anchored) (anchor : Nat) : Option Node :=
  (anchored.foldl
    (fun best a =>
      if a.anchor = anchor && best.all (·.order < a.order) then some a else best)
    none).map (·.node)

end Node

structure Parser where
  rest : List Token
  /-- The shorthands for the beginnings of tags. -/
  handles : List (List Char × List Char) := []
  /-- The numbers of the anchors seen, by name. -/
  names : List (List Char × Nat) := []
  begun : Nat := 0
  anchored : List Node.Anchored := []

namespace Parser

abbrev Parse := StateT Parser Option

def peek : Parse (Option Token) := do return (← get).rest.head?

def skip : Parse Unit := modify fun p => { p with rest := p.rest.drop 1 }

def fail {α : Type} : Parse α := fun _ => none

def expect (t : Token) : Parse Unit := do
  if (← peek) = some t then skip else fail

/-- The next token is one of those, or there is none. -/
def endsAt (ends : List Token) : Parse Bool := do return (← peek).all ends.contains

def defaultHandles : List (List Char × List Char) :=
  [(['!'], ['!']), (['!', '!'], "tag:yaml.org,2002:".toList)]

/-- A tag in full. -/
def fullTag (handle suffix : List Char) : Parse (List Char) := do
  if handle.isEmpty then return suffix
  else
    match ((← get).handles ++ defaultHandles).lookup handle with
    | some stem => return stem ++ suffix
    | none => fail

structure Properties where
  anchor : Option (List Char) := none
  tag : Option (List Char) := none

/-- The anchor and tag before a node, in either order. -/
def properties : Parse Properties := do
  match ← peek with
  | some (.anchor name) =>
    skip
    match ← peek with
    | some (.tag handle suffix) =>
      skip
      return ⟨name, ← fullTag handle suffix⟩
    | _ => return ⟨name, none⟩
  | some (.tag handle suffix) =>
    skip
    match ← peek with
    | some (.anchor name) =>
      skip
      return ⟨name, ← fullTag handle suffix⟩
    | _ => return ⟨none, ← fullTag handle suffix⟩
  | _ => return {}

/-- Numbers an anchor by how many names came before it. -/
def nameAnchor (name : List Char) : Parse Nat := do
  let p ← get
  let number := p.names.length
  set { p with
    names := (name, number) :: p.names.filter (·.1 ≠ name)
    begun := p.begun + 1 }
  return number

/-- Reads a node and remembers it under its anchor. -/
def anchoring (anchor : Option (List Char)) (read : Parse Node) : Parse Node := do
  match anchor with
  | none => read
  | some name =>
    let order := (← get).begun
    let number ← nameAnchor name
    let node ← read
    modify fun p => { p with anchored := ⟨number, order, node⟩ :: p.anchored }
    return node

/-- Where a node may stand. -/
inductive Place where
  | inFlow
  | inBlock
  /-- In a mapping, where a sequence may go without indentation. -/
  | inMapping
deriving DecidableEq

mutual

/-- A node. The bound is on the tokens that may be looked at. -/
def node : Nat → Place → Parse Node
  | 0, _ => fail
  | n + 1, place => do
    if let some (.alias name) ← peek then
      skip
      match (← get).names.lookup name with
      | some number => return .alias number
      | none => fail
    else
      let { anchor, tag } ← properties
      anchoring anchor (content n place tag (anchor.isSome || tag.isSome))

/-- A node behind its anchor and tag; with one of them it may be left out. -/
def content : Nat → Place → Option (List Char) → Bool → Parse Node
  | 0, _, _, _ => fail
  | n + 1, place, tag, mayBeAbsent => do
    match ← peek with
    | some (.scalar form text) =>
      skip
      return .scalar tag form (.ofList text)
    | some .flowSequence =>
      skip
      return .sequence (← flowItems n true)
    | some .flowMapping =>
      skip
      return .mapping (← flowFields n true)
    | some .blockSequence =>
      if place = .inFlow then absentNode tag mayBeAbsent
      else
        skip
        return .sequence (← blockItems n)
    | some .blockMapping =>
      if place = .inFlow then absentNode tag mayBeAbsent
      else
        skip
        return .mapping (← blockFields n)
    | some .blockEntry =>
      if place = .inMapping then return .sequence (← looseItems n)
      else absentNode tag mayBeAbsent
    | _ => absentNode tag mayBeAbsent

def absentNode (tag : Option (List Char)) (mayBeAbsent : Bool) : Parse Node :=
  if mayBeAbsent then pure (.scalar tag .plain "") else fail

/-- A node, unless one of those tokens shows that it was left out. -/
def nodeUnless : Nat → Place → List Token → Parse Node
  | 0, _, _ => fail
  | n + 1, place, ends => do
    if ← endsAt ends then return .absent else node n place

def blockItems : Nat → Parse (List Node)
  | 0 => fail
  | n + 1 => do
    match ← peek with
    | some .blockEntry =>
      skip
      let item ← nodeUnless n .inBlock [.blockEntry, .blockEnd]
      return item :: (← blockItems n)
    | some .blockEnd =>
      skip
      return []
    | _ => fail

/-- The items of a sequence that is not indented. -/
def looseItems : Nat → Parse (List Node)
  | 0 => fail
  | n + 1 => do
    if (← peek) = some .blockEntry then
      skip
      let item ← nodeUnless n .inBlock [.blockEntry, .key, .value, .blockEnd]
      return item :: (← looseItems n)
    else return []

def blockFields : Nat → Parse (List (Node × Node))
  | 0 => fail
  | n + 1 => do
    match ← peek with
    | some .key =>
      skip
      let key ← nodeUnless n .inMapping [.key, .value, .blockEnd]
      let value ← blockValue n
      return (key, value) :: (← blockFields n)
    | some .blockEnd =>
      skip
      return []
    | _ => fail

def blockValue : Nat → Parse Node
  | 0 => fail
  | n + 1 => do
    if (← peek) = some .value then
      skip
      nodeUnless n .inMapping [.key, .value, .blockEnd]
    else return .absent

/-- What stands behind a colon between brackets, if there is one. -/
def flowValue : Nat → Token → Parse Node
  | 0, _ => fail
  | n + 1, close => do
    if (← peek) = some .value then
      skip
      nodeUnless n .inFlow [.flowEntry, close]
    else return .absent

def flowItems : Nat → Bool → Parse (List Node)
  | 0, _ => fail
  | n + 1, first => do
    if (← peek) = some .flowSequenceEnd then
      skip
      return []
    else
      if !first then expect .flowEntry
      match ← peek with
      | some .flowSequenceEnd =>
        skip
        return []
      | some .key =>
        skip
        let key ← pairKey n
        let value ← flowValue n .flowSequenceEnd
        return .mapping [(key, value)] :: (← flowItems n false)
      | _ =>
        let item ← node n .inFlow
        return item :: (← flowItems n false)

/-- The key of a pair among items. Where there is none, the token that shows it is used up. -/
def pairKey : Nat → Parse Node
  | 0 => fail
  | n + 1 => do
    if ← endsAt [.value, .flowEntry, .flowSequenceEnd] then
      skip
      return .absent
    else node n .inFlow

def flowFields : Nat → Bool → Parse (List (Node × Node))
  | 0, _ => fail
  | n + 1, first => do
    if (← peek) = some .flowMappingEnd then
      skip
      return []
    else
      if !first then expect .flowEntry
      match ← peek with
      | some .flowMappingEnd =>
        skip
        return []
      | some .key =>
        skip
        let key ← nodeUnless n .inFlow [.value, .flowEntry, .flowMappingEnd]
        let value ← flowValue n .flowMappingEnd
        return (key, value) :: (← flowFields n false)
      | _ =>
        let key ← node n .inFlow
        return (key, .absent) :: (← flowFields n false)

end

/-- The directives before a document: at most one version, and each handle once. -/
def directives : Nat → Bool → Parse Unit
  | 0, _ => fail
  | n + 1, versionSeen => do
    match ← peek with
    | some (.version major minor) =>
      if versionSeen || major ≠ 1 || (minor ≠ 1 && minor ≠ 2) then fail
      skip
      directives n true
    | some (.tagHandle handle stem) =>
      if ((← get).handles.lookup handle).isSome then fail
      modify fun p => { p with handles := (handle, stem) :: p.handles }
      skip
      directives n versionSeen
    | _ => return

def isDirective : Token → Bool
  | .version .. | .tagHandle .. => true
  | _ => false

/-- The one document of a text, or nothing where the text is empty. -/
def document (n : Nat) : Parse (Option Node) := do
  match ← peek with
  | none => return none
  | some t =>
    let root ←
      if isDirective t || t = .documentStart then explicitDocument else node n .inBlock
    modify fun p => { p with rest := p.rest.dropWhile (· = .documentEnd) }
    if (← get).rest.isEmpty then return root else fail
where
  explicitDocument : Parse Node := do
    directives (n + 1) false
    expect .documentStart
    match ← peek with
    | none | some .documentEnd | some .documentStart => return .absent
    | some t => if isDirective t then return .absent else node n .inBlock

end Parser

/-- A document and the anchored nodes in it; an empty text has no root. -/
structure Tree where
  root : Option Node
  anchored : List Node.Anchored

namespace Tree

/-- The document of a text, unless it is malformed or there are several. Between two tokens at
most four readers are entered. -/
def ofText? (s : String) : Option Tree := do
  let tokens ← tokens? s
  let (root, parser) ← Parser.document (4 * tokens.length + 4) |>.run { rest := tokens }
  return ⟨root, parser.anchored⟩

/-- The node that an alias stands for. -/
def resolved (t : Tree) : Node → Option Node
  | .alias anchor => Node.anchored? t.anchored anchor
  | n => some n

end Tree

end Manifests.Yaml
