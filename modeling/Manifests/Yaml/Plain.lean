import Manifests.Text.Decimal
import Manifests.Text.Pieces

/-! What a scalar without quotes stands for. -/

namespace Manifests.Yaml

inductive PlainMeaning where
  | null
  | boolean (b : Bool)
  | integer (n : Int)
  | float
  | text
deriving DecidableEq

def isNullName (s : String) : Bool := ["null", "Null", "NULL", "~"].contains s

def boolean? (s : String) : Option Bool :=
  if ["true", "True", "TRUE"].contains s then some true
  else if ["false", "False", "FALSE"].contains s then some false
  else none

/-- Zeros in front keep digits from being a number. -/
def hasLeadingZero (s : List Char) : Bool :=
  let digits := (Text.signed s).2
  1 < digits.length && digits.head? == some '0' && digits.all Text.isDigit

/-- The base that two characters in front announce. -/
def radix (s : List Char) : Nat × List Char :=
  match s with
  | '0' :: 'x' :: rest => (16, rest)
  | '0' :: 'o' :: rest => (8, rest)
  | '0' :: 'b' :: rest => (2, rest)
  | _ => (10, s)

def integer? (s : List Char) : Option Int :=
  let (negative, rest) := Text.signed s
  let (base, digits) := radix rest
  if hasLeadingZero s then none
  else (Text.natural? base digits).map fun n => if negative then -(n : Int) else n

def infinityNames : List String := [".inf", ".Inf", ".INF"]

def isFloat (s : List Char) : Bool :=
  infinityNames.contains (.ofList (Text.signed s).2) ||
    [".nan", ".NaN", ".NAN"].contains (.ofList s) ||
    ((Text.Decimal.read? s).any Text.Decimal.isFinite && !hasLeadingZero s)

/-- The widest integers are those of 128 bits, with or without a sign. -/
def isWideInteger (n : Int) : Bool := -(Int.pow 2 127) ≤ n && n < Int.pow 2 128

def meaning (s : String) : PlainMeaning :=
  if s = "" ∨ isNullName s then .null
  else
    match boolean? s, (integer? s.toList).filter isWideInteger with
    | some b, _ => .boolean b
    | none, some n => .integer n
    | none, none => if isFloat s.toList then .float else .text

end Manifests.Yaml
