import Manifests.Document

/-! Documents as JSON, one value a line, two columns a level. -/

namespace Manifests

namespace Json

def hexDigit (n : Nat) : Char := "0123456789abcdef".toList.getD n '0'

/-- Controls are escaped, with a letter where there is one. -/
def textChar (c : Char) : List Char :=
  if c = '"' || c = '\\' then ['\\', c]
  else if c = '\n' then ['\\', 'n']
  else if c = '\r' then ['\\', 'r']
  else if c = '\t' then ['\\', 't']
  else if c = '\x08' then ['\\', 'b']
  else if c = '\x0C' then ['\\', 'f']
  else if c.toNat < 0x20 then
    ['\\', 'u', '0', '0', hexDigit (c.toNat / 16), hexDigit (c.toNat % 16)]
  else [c]

def text (s : String) : List Char := ['"'] ++ s.toList.flatMap textChar ++ ['"']

def newLine (n : Nat) : List Char := '\n' :: List.replicate n ' '

mutual

/-- A value; lines after its first start behind a margin. -/
def value (n : Nat) : Document → List Char
  | .boolean b => (toString b).toList
  | .integer i => (toString i).toList
  | .text s => text s
  | .sequence [] => ['[', ']']
  | .sequence (d :: ds) => ['['] ++ items (n + 2) (d :: ds) ++ newLine n ++ [']']
  | .mapping [] => ['{', '}']
  | .mapping (f :: fs) => ['{'] ++ fields (n + 2) (f :: fs) ++ newLine n ++ ['}']

def items (n : Nat) : List Document → List Char
  | [] => []
  | d :: rest =>
    newLine n ++ value n d ++ (if rest.isEmpty then [] else [',']) ++ items n rest

def fields (n : Nat) : List (String × Document) → List Char
  | [] => []
  | (key, d) :: rest =>
    newLine n ++ text key ++ [':', ' '] ++ value n d ++ (if rest.isEmpty then [] else [',']) ++
      fields n rest

end

end Json

def Document.json (d : Document) : String := .ofList (Json.value 0 d ++ ['\n'])

end Manifests
