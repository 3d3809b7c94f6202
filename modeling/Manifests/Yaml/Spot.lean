import Manifests.Yaml.Style

/-! Texts as they are read, each character at its place. -/

namespace Manifests.Yaml

/-- A character and where it stands. -/
structure Spot where
  char : Char
  line : Nat
  column : Nat

/-- A character that may stand in a document. -/
def isAllowed (c : Char) : Bool :=
  let n := c.toNat
  n == 0x09 || n == 0x0A || n == 0x0D || (0x20 ≤ n && n ≤ 0x7E) || n == 0x85 ||
    (0xA0 ≤ n && n != 0xFFFE && n != 0xFFFF)

/-- Line ends of every system as one; the separators of lines and paragraphs stay. -/
def plainBreaks : List Char → List Char
  | [] => []
  | '\r' :: '\n' :: rest => '\n' :: plainBreaks rest
  | c :: rest => (if c = '\r' || c = '\u0085' then '\n' else c) :: plainBreaks rest

def spotsFrom (line column : Nat) : List Char → List Spot
  | [] => []
  | c :: rest =>
    ⟨c, line, column⟩ ::
      if isBreak c then spotsFrom (line + 1) 0 rest else spotsFrom line (column + 1) rest

/-- The characters of a text, if all of them are allowed. -/
def spots? (s : String) : Option (List Spot) :=
  if s.toList.all isAllowed then some (spotsFrom 0 0 (plainBreaks s.toList)) else none

def isGap (c : Char) : Bool := isSpaceOrTab c || isBreak c

/-- The letters, digits, underscores and hyphens of names. -/
def isWordChar (c : Char) : Bool := c.isAlphanum || c = '_' || c = '-'

namespace Spot

variable (s : List Spot)

def text : List Char := s.map Spot.char

/-- The next character has a property. -/
def next (p : Char → Bool) : Bool := s.head?.any fun c => p c.char

/-- White space or the end comes next. -/
def closed : Bool := s.head?.all fun c => isGap c.char

/-- The longest beginning of characters with a property, and what follows it. -/
def span (p : Char → Bool) : List Char × List Spot :=
  (text (s.takeWhile fun c => p c.char), s.dropWhile fun c => p c.char)

def skip (p : Char → Bool) : List Spot := s.dropWhile fun c => p c.char

/-- Three marks alone at the start of a line begin or end a document. -/
def isMarker (mark : Char) : Bool :=
  s.head?.any (·.column = 0) && text (s.take 3) == [mark, mark, mark] && closed (s.drop 3)

def isAnyMarker : Bool := isMarker s '-' || isMarker s '.'

end Spot

end Manifests.Yaml
