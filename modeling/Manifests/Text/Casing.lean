import Manifests.Text.CasedChars
import Manifests.Text.CasePairs

/-! Lower and upper case of texts, by the full case mappings. -/

namespace Manifests.Text

/-- The first character that does not shrink away between a sigma and its word is a letter. -/
def reachesCased (s : List Char) : Bool :=
  match s.dropWhile ignorableChars.has with
  | c :: _ => casedChars.has c
  | [] => false

/-- A sigma ends its word when a letter stands before it and none after it. -/
def finalSigma (before after : List Char) : Bool :=
  reachesCased before && !reachesCased after

def lowerChar (c : Char) : List Char :=
  if c = 'İ' then ['i', '\u0307'] else [CaseRun.shifted lowerRuns c]

/-- Lowers a text whose reversed beginning is already behind the reader. -/
def lowerFrom (before : List Char) : List Char → List Char
  | [] => []
  | c :: rest =>
    (if c = 'Σ' then [if finalSigma before rest then 'ς' else 'σ'] else lowerChar c) ++
      lowerFrom (c :: before) rest

/-- Lower case; the form of a sigma hangs on the word around it. -/
def lower (s : List Char) : List Char := lowerFrom [] s

def upperChar (c : Char) : List Char :=
  match upperSequences.lookup c.toNat with
  | some codes => codes.map Char.ofNat
  | none => [CaseRun.shifted upperRuns c]

def upper (s : List Char) : List Char := s.flatMap upperChar

end Manifests.Text
