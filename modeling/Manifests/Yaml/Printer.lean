import Manifests.Document
import Manifests.Yaml.Style

/-! Documents written in blocks, two columns a level. -/

namespace Manifests

namespace Yaml

def margin (n : Nat) : List Char := List.replicate n ' '

def hexDigit (n : Nat) : Char := "0123456789ABCDEF".toList.getD n '0'

/-- The last digits of a number, as many as asked for. -/
def hexadecimal : Nat → Nat → List Char
  | 0, _ => []
  | width + 1, n => hexadecimal width (n / 16) ++ [hexDigit (n % 16)]

def codeEscape (n : Nat) : List Char :=
  if n ≤ 0xFF then 'x' :: hexadecimal 2 n
  else if n ≤ 0xFFFF then 'u' :: hexadecimal 4 n
  else 'U' :: hexadecimal 8 n

/-- The letters that stand for a character behind a backslash. -/
def escapeLetters : List (Char × Char) :=
  [('\x00', '0'), ('\x07', 'a'), ('\x08', 'b'), ('\t', 't'), ('\n', 'n'), ('\x0B', 'v'),
    ('\x0C', 'f'), ('\r', 'r'), ('\x1B', 'e'), ('"', '"'), ('\\', '\\'), ('\u0085', 'N'),
    ('\u00A0', '_'), ('\u2028', 'L'), ('\u2029', 'P')]

def doubleQuotedChar (c : Char) : List Char :=
  if isPrintable c && !isBreak c && c != '"' && c != '\\' then [c]
  else
    match escapeLetters.lookup c with
    | some letter => ['\\', letter]
    | none => '\\' :: codeEscape c.toNat

/-- A text over several lines, each line that holds something behind the margin. The flag says
that a line has just begun. -/
def withMargin (n : Nat) (encode : Char → List Char) : Bool → List Char → List Char
  | _, [] => []
  | begun, c :: rest =>
    if isBreak c then c :: withMargin n encode true rest
    else (if begun then margin n else []) ++ encode c ++ withMargin n encode false rest

def singleQuotedChar (c : Char) : List Char := if c = '\'' then ['\'', '\''] else [c]

/-- How the end of a literal is kept: without a line break, with one, or with all of them. -/
def chomping (s : List Char) : List Char :=
  match s.reverse with
  | [] => ['-']
  | [c] => if isBreak c then ['+'] else ['-']
  | c :: d :: _ => if !isBreak c then ['-'] else if isBreak d then ['+'] else []

/-- The marks of a literal. Its margin is named where the text does not show it. -/
def literalHeader (s : List Char) : List Char :=
  '|' :: (if s.head?.any isEdge then ['2'] else []) ++ chomping s

/-- A text in its style, to the end of its line. The margin holds further lines. -/
def scalarLine (n : Nat) (s : String) : List Char :=
  let cs := s.toList
  match Style.of s with
  | .plain => cs ++ ['\n']
  | .singleQuoted => ['\''] ++ withMargin n singleQuotedChar false cs ++ ['\'', '\n']
  | .doubleQuoted => ['"'] ++ cs.flatMap doubleQuotedChar ++ ['"', '\n']
  | .literal =>
    literalHeader cs ++ ['\n'] ++ withMargin n (fun c => [c]) true cs ++
      if cs.getLast?.any isBreak then [] else ['\n']

/-- The longest key, in bytes, that stands on a line with its value. -/
def maxKeySize : Nat := 128

/-- The key stands on a line with its value. -/
def isSimpleKey (key : String) : Bool :=
  !key.toList.any isBreak && key.utf8ByteSize ≤ maxKeySize

mutual

/-- A value on the line of a dash or mark, to its last line end. -/
def inlined (n : Nat) : Document → List Char
  | .boolean b => (toString b).toList ++ ['\n']
  | .integer i => (toString i).toList ++ ['\n']
  | .text s => scalarLine n s
  | .sequence [] => ['[', ']', '\n']
  | .sequence (d :: ds) => (items n (d :: ds)).drop n
  | .mapping [] => ['{', '}', '\n']
  | .mapping (f :: fs) => (fields n (f :: fs)).drop n

/-- A value behind its key. Fields go a level deeper than the key, items do not. -/
def valued (n : Nat) : Document → List Char
  | .boolean b => ' ' :: (toString b).toList ++ ['\n']
  | .integer i => ' ' :: (toString i).toList ++ ['\n']
  | .text s => ' ' :: scalarLine (n + 2) s
  | .sequence [] => [' ', '[', ']', '\n']
  | .sequence (d :: ds) => '\n' :: items n (d :: ds)
  | .mapping [] => [' ', '{', '}', '\n']
  | .mapping (f :: fs) => '\n' :: fields (n + 2) (f :: fs)

def items (n : Nat) : List Document → List Char
  | [] => []
  | d :: rest => margin n ++ ['-', ' '] ++ inlined (n + 2) d ++ items n rest

def fields (n : Nat) : List (String × Document) → List Char
  | [] => []
  | (key, value) :: rest =>
    (if isSimpleKey key then
      margin n ++ (scalarLine n key).dropLast ++ [':'] ++ valued n value
    else
      margin n ++ ['?', ' '] ++ scalarLine (n + 2) key ++
        margin n ++ [':', ' '] ++ inlined (n + 2) value) ++
    fields n rest

end

end Yaml

def Document.yaml (d : Document) : String := .ofList (Yaml.inlined 0 d)

end Manifests
