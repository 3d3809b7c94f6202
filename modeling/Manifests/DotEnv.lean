import Manifests.Dict
import Manifests.Text.Alphanumeric
import Manifests.Text.Blank
import Manifests.Text.Pieces

/-! Files with a variable on each line. -/

namespace Manifests.DotEnv

/-- The quotes that a character stands in. -/
inductive Quoting where
  | bare
  | weak
  | strong
  /-- The value is over; only a comment can follow. -/
  | done
  | comment
deriving DecidableEq

/-- What the next character belongs to. -/
inductive Pending where
  | nothing
  | escape
  /-- The name of a variable, as far as it is read. -/
  | name (read : List Char)
  | bracedName (read : List Char)
deriving DecidableEq

structure ValueState where
  quoting : Quoting := .bare
  pending : Pending := .nothing
  output : List Char := []

/-- What a variable is worth. -/
abbrev Lookup := List Char → List Char

namespace ValueState

variable (valueOf : Lookup) (s : ValueState) (c : Char)

def push : ValueState := { s with output := s.output ++ [c], pending := .nothing }

def substitute (name : List Char) : ValueState :=
  { s with output := s.output ++ valueOf name, pending := .nothing }

def escaped? : Char → Option Char
  | 'n' => some '\n'
  | c => if ['\\', '\'', '"', '$', ' '].contains c then some c else none

def isBlank (c : Char) : Bool := c = ' ' || c = '\t'

/-- A character that no escape or name takes. -/
def ordinary : Option ValueState :=
  match s.quoting with
  | .done => if isBlank c then some s else if c = '#' then some { s with quoting := .comment } else none
  | .comment => some s
  | .strong => if c = '\'' then some { s with quoting := .bare } else some (s.push c)
  | .weak =>
    if c = '$' then some { s with pending := .name [] }
    else if c = '"' then some { s with quoting := .bare }
    else if c = '\\' then some { s with pending := .escape }
    else some (s.push c)
  | .bare =>
    if c = '$' then some { s with pending := .name [] }
    else if c = '\'' then some { s with quoting := .strong }
    else if c = '"' then some { s with quoting := .weak }
    else if c = '\\' then some { s with pending := .escape }
    else if isBlank c then some { s with quoting := .done }
    else some (s.push c)

/-- A name without braces ends at the first character that is no letter or digit, and that
character stands for itself. -/
def step : Option ValueState :=
  match s.pending with
  | .nothing => s.ordinary c
  | .escape => (escaped? c).map s.push
  | .name read =>
    if Text.alphanumericChars.has c then some { s with pending := .name (read ++ [c]) }
    else if c = '{' && read.isEmpty then some { s with pending := .bracedName [] }
    else if c = '$' then some { s.substitute valueOf read with pending := .name [] }
    else some ((s.substitute valueOf read).push c)
  | .bracedName read =>
    if c = '}' then some (s.substitute valueOf read)
    else some { s with pending := .bracedName (read ++ [c]) }

/-- The value, unless a quote or brace is still open. -/
def finish : Option (List Char) :=
  match s.pending, s.quoting with
  | .bracedName _, _ | _, .weak | _, .strong => none
  | .name read, _ => some (s.substitute valueOf read).output
  | _, _ => some s.output

end ValueState

def value? (valueOf : Lookup) (s : List Char) : Option (List Char) :=
  (s.foldlM (ValueState.step valueOf) {}).bind (ValueState.finish valueOf)

def isNameStart (c : Char) : Bool := c.isAlpha || c = '_'

def isNamePart (c : Char) : Bool := c.isAlphanum || c = '_'

def key? (s : List Char) : Option (List Char × List Char) :=
  if s.head?.any isNameStart then
    some (s.takeWhile isNamePart, (s.dropWhile isNamePart).dropWhile Text.isBlank)
  else none

def afterEqual? : List Char → Option (List Char)
  | '=' :: rest => some (rest.dropWhile Text.isBlank)
  | _ => none

/-- A name up to its equals sign, perhaps behind the word `export`. -/
def assignment? (s : List Char) : Option (List Char × List Char) := do
  let (key, rest) ← key? s
  match afterEqual? rest with
  | some value => return (key, value)
  | none =>
    if key = "export".toList then
      let (key, rest) ← key? rest
      return (key, ← afterEqual? rest)
    else none

def isCommentOrEmpty (s : List Char) : Bool := s.head?.all (· = '#')

/-- The variable on a line, if the line is not empty or a comment. -/
def binding? (valueOf : Lookup) (line : String) : Option (Option (String × String)) :=
  let line := Text.trim line.toList
  if isCommentOrEmpty line then some none
  else do
    let (key, rest) ← assignment? line
    let value ← if isCommentOrEmpty rest then some [] else value? valueOf rest
    return some (.ofList key, .ofList value)

/-- The lines of a file, where a line that is no text is nothing. -/
def lines (bytes : ByteArray) : List (Option String) :=
  let pieces := Text.pieces (10 : UInt8) bytes.toList
  let whole := if pieces.getLast? = some [] then pieces.dropLast else pieces
  whole.map fun line => String.fromUTF8? ⟨line.toArray⟩

/-- Variables of the environment come before those of the file. -/
def lookup (environment known : Dict String) : Lookup := fun name =>
  (((environment.get? (.ofList name)).or (known.get? (.ofList name))).getD "").toList

/-- The variables of a file, unless a line of it is broken. -/
def read? (environment : Dict String) (bytes : ByteArray) : Option (Dict String) :=
  (lines bytes).foldlM
    (fun known line => do
      match ← binding? (lookup environment known) (← line) with
      | some (key, value) => return known.insert key value
      | none => return known) ∅

/-- The environment with the variables of the lines before the first that is broken. A variable
that is set already keeps its value. -/
def extended (known environment : Dict String) : List (Option String) → Dict String
  | [] => environment
  | line :: rest =>
    match line.bind (binding? (lookup environment known)) with
    | none => environment
    | some none => extended known environment rest
    | some (some (key, value)) =>
      extended (known.insert key value)
        (if environment.contains key then environment else environment.insert key value) rest

/-- The environment with the variables of a file that are not set yet. -/
def extend (environment : Dict String) (bytes : ByteArray) : Dict String :=
  extended ∅ environment (lines bytes)

end Manifests.DotEnv
