import Manifests.Text.Code
import Manifests.Text.Pieces

/-! Bytes as text where some of them may not be text. -/

namespace Manifests.Text

/-- How many bytes follow the first one of a character, and the bounds of the second. -/
def following? (first : Nat) : Option (Nat × Nat × Nat) :=
  if first < 0x80 then some (0, 0x80, 0xBF)
  else if first < 0xC2 then none
  else if first < 0xE0 then some (1, 0x80, 0xBF)
  else if first < 0xF0 then
    some (2, if first = 0xE0 then 0xA0 else 0x80, if first = 0xED then 0x9F else 0xBF)
  else if first < 0xF5 then
    some (3, if first = 0xF0 then 0x90 else 0x80, if first = 0xF4 then 0x8F else 0xBF)
  else none

/-- The bits of a character that its first byte holds. -/
def firstBits (first count : Nat) : Nat :=
  if count = 0 then first else first % Nat.pow 2 (6 - count)

/-- The code of a character from the bytes that follow its first, as far as they belong to it, and
the bytes after these. -/
def follow (code low high : Nat) : Nat → List UInt8 → Option Nat × List UInt8
  | 0, bytes => (some code, bytes)
  | _ + 1, [] => (none, [])
  | n + 1, b :: bytes =>
    if low ≤ b.toNat && b.toNat ≤ high then follow (code * 64 + b.toNat % 64) 0x80 0xBF n bytes
    else (none, b :: bytes)

/-- What stands for bytes that are no character. -/
def replacement : Char := '\uFFFD'

/-- Each step takes a byte, so the number of bytes bounds the number of steps. -/
def ofBytes : Nat → List UInt8 → List Char
  | 0, _ | _, [] => []
  | n + 1, b :: bytes =>
    match following? b.toNat with
    | none => replacement :: ofBytes n bytes
    | some (count, low, high) =>
      let (code, rest) := follow (firstBits b.toNat count) low high count bytes
      (code.bind charOf?).getD replacement :: ofBytes n rest

/-- The text of bytes, without a mark of their order in front. -/
def lossy (bytes : ByteArray) : String :=
  let text := ofBytes bytes.size bytes.toList
  .ofList ((after? ['\uFEFF'] text).getD text)

end Manifests.Text
