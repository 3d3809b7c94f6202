import Manifests.Text.HiddenChars

/-! Texts quoted for a message. -/

namespace Manifests.Text

def codeEscape (c : Char) : List Char :=
  ['\\', 'u', '{'] ++ Nat.toDigits 16 c.toNat ++ ['}']

/-- A character inside double quotes: marks that join their neighbour and characters without a
shape of their own are named by code point. -/
def quoteChar (c : Char) : List Char :=
  if c = '\x00' then ['\\', '0']
  else if c = '\t' then ['\\', 't']
  else if c = '\n' then ['\\', 'n']
  else if c = '\r' then ['\\', 'r']
  else if c = '"' || c = '\\' then ['\\', c]
  else if extendingChars.has c || (hiddenChars.has c && c != ' ') then codeEscape c
  else [c]

def quoted (s : String) : String :=
  .ofList (['"'] ++ s.toList.flatMap quoteChar ++ ['"'])

end Manifests.Text
