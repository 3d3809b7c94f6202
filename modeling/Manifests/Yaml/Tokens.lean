import Manifests.Yaml.Token

/-! Texts into tokens. Indentation opens and closes collections, and a key is recognised only when
its colon comes. -/

namespace Manifests.Yaml

/-- A place where a key may have begun. -/
structure KeyStart where
  /-- Nothing but a key can stand here. -/
  required : Bool
  /-- The tokens before it. -/
  position : Nat
  line : Nat
  column : Nat

/-- How far a key may reach before its colon. -/
def maxKeyReach : Nat := 1024

structure Lexer where
  rest : List Spot
  /-- The latest first. -/
  tokens : List Token := []
  count : Nat := 0
  /-- The columns of the open blocks, innermost first. -/
  levels : List Nat := []
  keyAllowed : Bool := true
  keyStart : Option KeyStart := none
  /-- The key starts around the open brackets, innermost first. -/
  outer : List (Option KeyStart) := []

namespace Lexer

variable (l : Lexer)

def inFlow : Bool := !l.outer.isEmpty

/-- The least column of what belongs to the innermost block. -/
def margin : Nat := (l.levels.head?.map (· + 1)).getD 0

def emit (t : Token) : Lexer := { l with tokens := t :: l.tokens, count := l.count + 1 }

def emitAt (position : Nat) (t : Token) : Lexer :=
  let after := l.count - position
  { l with
    tokens := l.tokens.take after ++ t :: l.tokens.drop after
    count := l.count + 1 }

/-- Opens a block at a column that lies deeper than the blocks around it. -/
def openBlock (column position : Nat) (t : Token) : Lexer :=
  if l.inFlow || l.levels.head?.any (column ≤ ·) then l
  else { l.emitAt position t with levels := column :: l.levels }

/-- Closes the blocks that lie deeper than a column, or all of them. -/
def closeBlocks (column : Option Nat) : Lexer :=
  if l.inFlow then l
  else
    let deeper (level : Nat) := column.all (· < level)
    let closed := l.levels.takeWhile deeper
    { closed.foldl (fun l _ => l.emit .blockEnd) l with levels := l.levels.dropWhile deeper }

/-- Gives up the key that may have begun, unless it is required. -/
def dropKey : Option Lexer :=
  if l.keyStart.any (·.required) then none else some { l with keyStart := none }

def saveKey (at' : Spot) : Option Lexer :=
  if l.keyAllowed then do
    let required := !l.inFlow && l.levels.head? == some at'.column
    return { ← l.dropKey with
      keyStart := some ⟨required, l.count, at'.line, at'.column⟩ }
  else some l

/-- A key cannot go over a line, or far. -/
def KeyStart.isStale (k : KeyStart) (at' : Spot) : Bool :=
  k.line < at'.line || k.column + maxKeyReach < at'.column

def freshKey? (at' : Spot) : Option KeyStart → Option (Option KeyStart)
  | none => some none
  | some k =>
    if KeyStart.isStale k at' then if k.required then none else some none else some (some k)

def dropStaleKeys (at' : Spot) : Option Lexer := do
  let keyStart ← freshKey? at' l.keyStart
  let outer ← l.outer.mapM (freshKey? at')
  return { l with keyStart, outer }

/-- Skips white space and comments; a new line may begin with a key. Tabs do not indent. -/
def skipGaps (inFlow : Bool) : Bool → Bool → List Spot → Bool × List Spot
  | keyAllowed, _, [] => (keyAllowed, [])
  | keyAllowed, inComment, c :: s =>
    if isBreak c.char then skipGaps inFlow (keyAllowed || !inFlow) false s
    else if inComment || c.char = ' ' || (c.char = '\t' && (inFlow || !keyAllowed)) ||
        (c.char = '\uFEFF' && c.column = 0) then
      skipGaps inFlow keyAllowed inComment s
    else if c.char = '#' then skipGaps inFlow keyAllowed true s
    else (keyAllowed, c :: s)

/-- Sets down a token that was read on its own. -/
def take (keyAllowed : Bool) (lexed : Lexed) : Option Lexer :=
  lexed.map fun (t, rest) => { l.emit t with rest, keyAllowed }

def marker (t : Token) : Option Lexer := do
  (← (l.closeBlocks none).dropKey).take false (some (t, l.rest.drop 3))

def bracket (at' : Spot) (t : Token) : Option Lexer := do
  let l ← l.saveKey at'
  { l with keyStart := none, outer := l.keyStart :: l.outer }.take true (some (t, l.rest.drop 1))

def closeBracket (t : Token) : Option Lexer := do
  let l ← l.dropKey
  let l :=
    match l.outer with
    | [] => l
    | keyStart :: outer => { l with keyStart, outer }
  l.take false (some (t, l.rest.drop 1))

def flowEntry : Option Lexer := do
  (← l.dropKey).take true (some (.flowEntry, l.rest.drop 1))

def blockEntry (at' : Spot) : Option Lexer := do
  if !l.inFlow && !l.keyAllowed then none
  (← (l.openBlock at'.column l.count .blockSequence).dropKey).take true
    (some (.blockEntry, l.rest.drop 1))

/-- A key announced by a question mark. -/
def key (at' : Spot) : Option Lexer := do
  if !l.inFlow && !l.keyAllowed then none
  (← (l.openBlock at'.column l.count .blockMapping).dropKey).take (!l.inFlow)
    (some (.key, l.rest.drop 1))

/-- A colon makes a key of what began before it. -/
def value (at' : Spot) : Option Lexer := do
  match l.keyStart with
  | some k =>
    let l := { l.emitAt k.position .key with keyStart := none }
    (l.openBlock k.column k.position .blockMapping).take false (some (.value, l.rest.drop 1))
  | none =>
    if !l.inFlow && !l.keyAllowed then none
    (l.openBlock at'.column l.count .blockMapping).take (!l.inFlow)
      (some (.value, l.rest.drop 1))

def property (at' : Spot) (lexed : Lexed) : Option Lexer := do
  (← l.saveKey at').take false lexed

def quoted (at' : Spot) (s : List Spot) : Option Lexer := do
  let (text, rest) ← Quoted.read? at'.char s
  (← l.saveKey at').take false (some (.scalar .quoted text, rest))

def block (layout : Block.Layout) (form : Form) (s : List Spot) : Option Lexer := do
  let (text, rest) ← Block.read? layout l.margin s
  (← l.dropKey).take true (some (.scalar form text, rest))

def plain (at' : Spot) : Option Lexer := do
  let read ← Plain.read? l.inFlow l.margin l.rest
  (← l.saveKey at').take read.brokeLine (some (.scalar .plain read.text, read.rest))

/-- Characters that cannot begin a plain scalar, whatever follows them. -/
def reserved : List Char := ['#', '%', '@', '\x60', '|', '>']

/-- The next token, which begins at a character that is no white space. -/
def step (c : Spot) (s : List Spot) : Option Lexer := do
  let l := (← l.dropStaleKeys c).closeBlocks (some c.column)
  if c.column = 0 && c.char = '%' then
    (← (l.closeBlocks none).dropKey).take false (Token.directive? s)
  else if Spot.isMarker l.rest '-' then l.marker .documentStart
  else if Spot.isMarker l.rest '.' then l.marker .documentEnd
  else
    match c.char with
    | '[' => l.bracket c .flowSequence
    | '{' => l.bracket c .flowMapping
    | ']' => l.closeBracket .flowSequenceEnd
    | '}' => l.closeBracket .flowMappingEnd
    | ',' => l.flowEntry
    | '*' => l.property c (Token.reference? .alias s)
    | '&' => l.property c (Token.reference? .anchor s)
    | '!' => l.property c (Token.tag? l.inFlow s)
    | '\'' | '"' => l.quoted c s
    | '-' => if Spot.closed s then l.blockEntry c else l.plain c
    | '?' => if l.inFlow || Spot.closed s then l.key c else l.plain c
    | ':' => if l.inFlow || Spot.closed s then l.value c else l.plain c
    | '|' => if l.inFlow then none else l.block .literal .literal s
    | '>' => if l.inFlow then none else l.block .folded .folded s
    | other => if reserved.contains other then none else l.plain c

/-- The tokens of the rest. Each takes a character, so the length of the text bounds their
number. -/
def run : Nat → Lexer → Option (List Token)
  | 0, _ => none
  | n + 1, l =>
    let (keyAllowed, rest) := skipGaps l.inFlow l.keyAllowed false l.rest
    let l := { l with keyAllowed, rest }
    match rest with
    | [] => (l.closeBlocks none).dropKey.map (·.tokens.reverse)
    | c :: s =>
      match l.step c s with
      | some l => run n l
      | none => none

end Lexer

/-- The tokens of a text, unless it is malformed. -/
def tokens? (s : String) : Option (List Token) :=
  (spots? s).bind fun rest => Lexer.run (rest.length + 1) { rest }

end Manifests.Yaml
