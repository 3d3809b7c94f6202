/-! Whole numbers written with digits. -/

namespace Manifests.Text

/-- The value of a digit in the given base, letters standing for ten and more in either case. -/
def digitValue? (base : Nat) (c : Char) : Option Nat :=
  let value :=
    if '0' ≤ c && c ≤ '9' then some (c.toNat - 48)
    else if 'a' ≤ c && c ≤ 'z' then some (c.toNat - 87)
    else if 'A' ≤ c && c ≤ 'Z' then some (c.toNat - 55)
    else none
  value.filter (· < base)

/-- One or more digits and nothing else. -/
def natural? (base : Nat) (s : List Char) : Option Nat :=
  if s.isEmpty then none
  else s.foldlM (fun n c => (digitValue? base c).map (n * base + ·)) 0

/-- Digits behind at most one sign. -/
def integer? (base : Nat) : List Char → Option Int
  | '+' :: rest => (natural? base rest).map Int.ofNat
  | '-' :: rest => (natural? base rest).map fun n => -(n : Int)
  | s => (natural? base s).map Int.ofNat

/-- The signed numbers of the given width in bits. -/
def fits (bits : Nat) (n : Int) : Bool := -(Int.pow 2 (bits - 1)) ≤ n && n < Int.pow 2 (bits - 1)

def int32? (s : List Char) : Option Int := (integer? 10 s).filter (fits 32)

def int64? (s : List Char) : Option Int := (integer? 10 s).filter (fits 64)

end Manifests.Text
