import Manifests.Failure
import Manifests.Text.Blank
import Manifests.Text.Decimal
import Manifests.Text.Pieces

/-! Durations such as `1m30s`. -/

namespace Manifests

namespace Duration

inductive TimeUnit where
  | nanosecond
  | microsecond
  | millisecond
  | second
  | minute
  | hour
deriving DecidableEq

def TimeUnit.nanoseconds : TimeUnit → Float
  | nanosecond => 1
  | microsecond => 1e3
  | millisecond => 1e6
  | second => 1e9
  | minute => 60e9
  | hour => 3600e9

/-- The spellings of the units; of two that fit, the one that stands first here is meant. -/
def unitNames : List (List Char × TimeUnit) :=
  [(['n', 's'], .nanosecond), (['u', 's'], .microsecond), (['µ', 's'], .microsecond),
    (['m', 's'], .millisecond), (['s'], .second), (['m'], .minute), (['h'], .hour)]

/-- One number with its unit; the number has a digit on at least one side of its point. -/
structure Term where
  whole : List Char
  fraction : List Char
  unit : TimeUnit
deriving DecidableEq

def unit? (s : List Char) : Option (TimeUnit × List Char) :=
  unitNames.findSome? fun (name, unit) => (Text.after? name s).map fun rest => (unit, rest)

def term? (s : List Char) : Option (Term × List Char) :=
  let whole := s.takeWhile Text.isDigit
  let (fraction, rest) := Text.fraction (s.dropWhile Text.isDigit)
  if whole = [] ∧ fraction = [] then none
  else (unit? rest).map fun (unit, tail) => (⟨whole, fraction, unit⟩, tail)

/-- The terms of a text, as many as the bound allows. -/
def termsWithin : Nat → List Char → Option (List Term)
  | _, [] => some []
  | 0, _ :: _ => none
  | n + 1, c :: rest => do
    let (term, tail) ← term? (c :: rest)
    let terms ← termsWithin n tail
    return term :: terms

/-- One or more terms with nothing between them. Each takes a character, so the length of the
text bounds their number. -/
def terms? (s : List Char) : Option (List Term) :=
  if s = [] then none else termsWithin s.length s

def Term.value (t : Term) : Float :=
  .ofScientific (Text.digitsValue (t.whole ++ t.fraction)) true t.fraction.length

def totalNanoseconds (terms : List Term) : Float :=
  terms.foldl (fun sum t => sum + t.value * t.unit.nanoseconds) 0

/-- Whole seconds, cut toward zero and held within 64 bits. -/
def wholeSeconds (terms : List Term) : Int := (totalNanoseconds terms / 1e9).toInt64.toInt

def isSign (c : Char) : Bool := c = '-' || c = '+'

/-- The seconds of a duration. White space may surround it and any run of signs begin it; the
first sign counts. -/
def seconds (text : String) : Except Failure Int :=
  let signed := Text.trim text.toList
  let rest := signed.dropWhile isSign
  if rest = ['0'] then .ok 0
  else
    match terms? rest with
    | none => .error (.invalidDuration text)
    | some terms =>
      if signed.head? = some '-' then .ok (-wholeSeconds terms) else .ok (wholeSeconds terms)

end Duration

end Manifests
