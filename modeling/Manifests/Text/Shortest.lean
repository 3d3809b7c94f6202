import Manifests.Text.Decimal

/-! The fewest digits that name a number of 64-bit floating point. -/

namespace Manifests.Text

namespace Shortest

/-- The positive number `significand * 2 ^ exponent`, of 53 bits unless it is very small. -/
structure Binary where
  significand : Nat
  exponent : Int

def leastExponent : Int := -1074

def Binary.value (b : Binary) : Rat := (b.significand : Rat) * (2 : Rat) ^ b.exponent

/-- A whole number next to a positive one; a half goes to the even neighbour. -/
def roundHalfEven (x : Rat) : Nat :=
  let below := x.floor.toNat
  let part := x - (below : Rat)
  if part < 1 / 2 ∨ (part = 1 / 2 ∧ below % 2 = 0) then below else below + 1

/-- The closest number of floating point to a positive one. -/
def nearest (x : Rat) : Binary :=
  let size : Int := (Nat.log2 x.num.toNat : Int) - Nat.log2 x.den
  let fitting := if x < (2 : Rat) ^ size then size - 53 else size - 52
  let exponent := max leastExponent fitting
  let significand := roundHalfEven (x / (2 : Rat) ^ exponent)
  if significand = Nat.pow 2 53 then ⟨Nat.pow 2 52, exponent + 1⟩ else ⟨significand, exponent⟩

/-- The numbers that are rounded to this one; its bounds belong to it when the significand is
even. The numbers below a power of two lie closer together. -/
def Binary.isNearestOf (b : Binary) (x : Rat) : Bool :=
  let gap := (2 : Rat) ^ b.exponent
  let below :=
    if b.significand = Nat.pow 2 52 ∧ leastExponent < b.exponent then gap / 4 else gap / 2
  let low := b.value - below
  let high := b.value + gap / 2
  if b.significand % 2 = 0 then low ≤ x && x ≤ high else low < x && x < high

/-- The exponent of the first decimal digit of a positive number. -/
def decimalExponent (x : Rat) : Int :=
  let length (n : Nat) : Int := (Nat.toDigits 10 n).length
  let guess := length x.num.toNat - length x.den
  if x < (10 : Rat) ^ guess then guess - 1 else guess

/-- The multiple of a power of ten next to the number, if it is rounded to the number. Of two as
near the larger is taken. -/
def onGrid? (b : Binary) (exponent : Int) : Option Decimal :=
  let step := (10 : Rat) ^ exponent
  let below := (b.value / step).floor.toNat
  let fits (n : Nat) : Bool := b.isNearestOf ((n : Rat) * step)
  let nearer :=
    if b.value / step - (below : Rat) < 1 / 2 then [below, below + 1] else [below + 1, below]
  (nearer.find? fits).map fun digits => ⟨false, digits, exponent⟩

/-- Seventeen digits always suffice. -/
def maxDigits : Nat := 17

/-- The search begins above the first digit, as the number may be rounded to a power of ten. -/
def digits (b : Binary) : Decimal :=
  let above := decimalExponent b.value + 1
  ((List.range (maxDigits + 1)).findSome? fun (more : Nat) => onGrid? b (above - more)).getD
    ⟨false, 0, 0⟩

end Shortest

namespace Decimal

def value (d : Decimal) : Rat := (d.digits : Rat) * (10 : Rat) ^ d.exponent

/-- The number as it is written without an exponent. -/
def positional (d : Decimal) : String :=
  let digits := Nat.toDigits 10 d.digits
  let places := (-d.exponent).toNat
  let padded := List.replicate (places + 1 - digits.length) '0' ++ digits
  let whole := padded.take (padded.length - places)
  let fraction := padded.drop (padded.length - places)
  let text :=
    if 0 ≤ d.exponent then digits ++ List.replicate d.exponent.toNat '0'
    else whole ++ '.' :: fraction
  .ofList (if d.negative then '-' :: text else text)

/-- Numbers smaller than this are rounded to zero. -/
def leastSize : Int := -400

/-- A number becomes zero in floating point. -/
def isZero (d : Decimal) : Bool :=
  d.digits == 0 || (Nat.toDigits 10 d.digits).length + d.exponent < leastSize ||
    (Shortest.nearest d.value).significand == 0

/-- The text of the closest number of floating point, in the fewest digits. -/
def floatText (d : Decimal) : String :=
  let sign := if d.negative then "-" else ""
  if !d.isFinite then sign ++ "inf"
  else if d.isZero then sign ++ "0"
  else { Shortest.digits (Shortest.nearest d.value) with negative := d.negative }.positional

end Decimal

end Manifests.Text
