import Manifests.Text.Decimal
import Manifests.Service

/-! Amounts of memory, processors and storage. -/

namespace Manifests

namespace Quantity

def memory (bytes : Int) : String := toString bytes

/-- Whole processors where the thousandths come out even. -/
def cpu (millicores : Int) : String :=
  if millicores.tmod 1000 = 0 then toString (millicores.tdiv 1000)
  else toString millicores ++ "m"

def suffixes : List String :=
  ["", "Ki", "Mi", "Gi", "Ti", "Pi", "Ei", "k", "M", "G", "T", "P", "E", "m"]

/-- The rest of a text behind a point and at least one digit, or the text itself. -/
def skipFraction (s : List Char) : List Char :=
  match s with
  | '.' :: rest =>
    if rest.takeWhile Text.isDigit = [] then s else rest.dropWhile Text.isDigit
  | _ => s

/-- Digits, perhaps a fraction, and one of the suffixes. -/
def isValid (s : String) : Bool :=
  s.toList.takeWhile Text.isDigit ≠ [] &&
    suffixes.any fun suffix =>
      suffix.toList = skipFraction (s.toList.dropWhile Text.isDigit)

/-- The resources that are asked for; zero and the empty text ask for nothing. -/
def resources (memoryBytes millicores : Int) (ephemeral : Option String) : Dict String :=
  .ofList <|
    (if memoryBytes = 0 then [] else [("memory", memory memoryBytes)]) ++
    (if millicores = 0 then [] else [("cpu", cpu millicores)]) ++
    match ephemeral.filter isValid with
    | some amount => [("ephemeral-storage", amount)]
    | none => []

end Quantity

end Manifests
