import Manifests.Text.Integer

/-! Characters written by their codes. -/

namespace Manifests.Text

def charOf? (n : Nat) : Option Char :=
  if h : n.isValidChar then some (Char.ofNatAux n h) else none

/-- The number of so many hexadecimal digits, and what follows them. -/
def code? (width : Nat) (s : List Char) : Option (Nat × List Char) :=
  if s.length < width then none else (natural? 16 (s.take width)).map (·, s.drop width)

end Manifests.Text
