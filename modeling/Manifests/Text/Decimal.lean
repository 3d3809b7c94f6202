import Manifests.Text.Integer

/-! Numbers written with a decimal point or an exponent. -/

namespace Manifests.Text

/-- The number `digits * 10 ^ exponent`, or its negative. -/
structure Decimal where
  negative : Bool
  digits : Nat
  exponent : Int
deriving DecidableEq

def isDigit (c : Char) : Bool := '0' ≤ c && c ≤ '9'

/-- The value of digits, zero where there are none. -/
def digitsValue (s : List Char) : Nat := (natural? 10 s).getD 0

/-- A text behind an optional sign, and whether the sign is a minus. -/
def signed (s : List Char) : Bool × List Char :=
  match s with
  | '-' :: rest => (true, rest)
  | '+' :: rest => (false, rest)
  | _ => (false, s)

/-- The digits behind a point, and what follows them. -/
def fraction (s : List Char) : List Char × List Char :=
  match s with
  | '.' :: rest => (rest.takeWhile isDigit, rest.dropWhile isDigit)
  | _ => ([], s)

/-- An exponent that ends the text; the empty text is the exponent zero. -/
def exponent? (s : List Char) : Option Int :=
  match s with
  | [] => some 0
  | c :: rest => if c = 'e' ∨ c = 'E' then integer? 10 rest else none

namespace Decimal

/-- Digits with a point anywhere among or beside them, and an exponent. -/
def read? (s : List Char) : Option Decimal :=
  let (negative, rest) := signed s
  let whole := rest.takeWhile isDigit
  let (fraction, tail) := fraction (rest.dropWhile isDigit)
  if whole = [] ∧ fraction = [] then none
  else
    (exponent? tail).map fun e =>
      ⟨negative, digitsValue (whole ++ fraction), e - fraction.length⟩

/-- From here on numbers are too large for 64-bit floating point. -/
def overflow : Nat := (Nat.pow 2 54 - 1) * Nat.pow 2 970

/-- The number can be rounded to 64-bit floating point. -/
def isFinite (d : Decimal) : Bool :=
  let size := (Nat.toDigits 10 d.digits).length + d.exponent
  d.digits == 0 || size < 309 ||
    (size ≤ 309 &&
      if d.exponent < 0 then d.digits < overflow * Nat.pow 10 (-d.exponent).toNat
      else d.digits * Nat.pow 10 d.exponent.toNat < overflow)

end Decimal

end Manifests.Text
