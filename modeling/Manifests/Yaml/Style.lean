import Manifests.Yaml.Plain

/-! How a text is written as a scalar. -/

namespace Manifests.Yaml

inductive Style where
  | plain
  | singleQuoted
  | doubleQuoted
  | literal
deriving DecidableEq

def isBreak (c : Char) : Bool :=
  c = '\n' || c = '\r' || c = '\u0085' || c = '\u2028' || c = '\u2029'

def isSpaceOrTab (c : Char) : Bool := c = ' ' || c = '\t'

/-- White space, or a character that a reader takes for the end. -/
def separates (c : Char) : Bool := isSpaceOrTab c || isBreak c || c = '\x00'

/-- A character that can be written as it is. -/
def isPrintable (c : Char) : Bool :=
  let n := c.toNat
  c = '\n' || (0x20 ≤ n && n ≤ 0x7E) ||
    (0xA0 ≤ n && n != 0xFEFF && n != 0xFFFE && n != 0xFFFF)

/-- Two neighbours stand in a relation. -/
def anyPair (p : Char → Char → Bool) (s : List Char) : Bool := (s.zip s.tail).any fun (a, b) => p a b

/-- What comes behind the first character is a blank, or nothing. -/
def separatedAfterFirst (s : List Char) : Bool := (s.tail.head?.map separates).getD true

/-- The text starts like something other than a plain scalar. -/
def startsSpecial (s : List Char) : Bool :=
  match s with
  | [] => false
  | c :: _ =>
    "#,[]{}&*!|>'\"%@`".toList.contains c ||
      ((c = '?' || c = '-') && separatedAfterFirst s) ||
      (Text.after? "---".toList s).isSome || (Text.after? "...".toList s).isSome

/-- A colon or number sign within the text would be read as a value or comment. -/
def splitsInside (s : List Char) : Bool :=
  s.getLast? == some ':' || anyPair (fun a b => a = ':' && separates b) s ||
    anyPair (fun a b => separates a && b = '#') s

def isEdge (c : Char) : Bool := c = ' ' || isBreak c

/-- Spaces before a line break are lost unless they are quoted. -/
def spaceBeforeBreak (s : List Char) : Bool := anyPair (fun a b => a = ' ' && isBreak b) s

def spaceAfterBreak (s : List Char) : Bool := anyPair (fun a b => isBreak a && b = ' ') s

def staysPlain (s : List Char) : Bool :=
  !(startsSpecial s || splitsInside s || s.any isBreak || !s.all isPrintable ||
    s.head?.any isEdge || s.getLast?.any isEdge)

def staysSingleQuoted (s : List Char) : Bool :=
  s.all isPrintable && !spaceBeforeBreak s && !spaceAfterBreak s

def staysLiteral (s : List Char) : Bool :=
  s.all isPrintable && !spaceBeforeBreak s && s.getLast? != some ' '

/-- Without quotes the text reads as itself. Some readers take digits behind a zero for an octal
number. -/
def readsAsText (s : String) : Bool := meaning s == .text && !hasLeadingZero s.toList

/-- Texts of several lines are literal. Others are quoted where they would read as something else
or not at all, with single quotes if these can hold them. -/
def Style.of (s : String) : Style :=
  if s.toList.contains '\n' then if staysLiteral s.toList then literal else doubleQuoted
  else if readsAsText s && staysPlain s.toList then plain
  else if staysSingleQuoted s.toList then singleQuoted
  else doubleQuoted

end Manifests.Yaml
