import Manifests.Settings.Value
import Manifests.Text.Code

/-! Settings written as JSON. Each reader returns what it read and what follows it. -/

namespace Manifests

namespace Json

def skipSpace (s : List Char) : List Char := s.dropWhile [' ', '\t', '\n', '\r'].contains

/-- The characters that a letter behind a backslash stands for. -/
def escapes : List (Char × Char) :=
  [('"', '"'), ('\\', '\\'), ('/', '/'), ('b', '\x08'), ('f', '\x0C'), ('n', '\n'), ('r', '\r'),
    ('t', '\t')]

/-- A character of one code, or of two that only stand together. -/
def coded? (s : List Char) : Option (Char × List Char) := do
  let (high, rest) ← Text.code? 4 s
  if 0xD800 ≤ high && high < 0xDC00 then
    let (low, rest) ← Text.code? 4 (← Text.after? ['\\', 'u'] rest)
    if low < 0xDC00 || 0xE000 ≤ low then none
    return (← Text.charOf? (0x10000 + (high - 0xD800) * 0x400 + (low - 0xDC00)), rest)
  else return (← Text.charOf? high, rest)

/-- The text up to the closing quote. Each step takes a character, so the length of the text
bounds their number. -/
def body : Nat → List Char → Option (List Char × List Char)
  | 0, _ | _, [] => none
  | n + 1, c :: s =>
    if c = '"' then some ([], s)
    else if c.toNat < 0x20 then none
    else do
      let (c, s) ←
        match c, s with
        | '\\', 'u' :: s => coded? s
        | '\\', letter :: s => (escapes.lookup letter).map (·, s)
        | '\\', [] => none
        | c, s => some (c, s)
      let (more, rest) ← body n s
      return (c :: more, rest)

def text? (s : List Char) : Option (String × List Char) :=
  (body s.length s).map fun (text, rest) => (.ofList text, rest)

/-- Digits behind a mark, if the mark is there. -/
def digitsAfter? (isMark : Char → Bool) (signs : List Char) (s : List Char) :
    Option (List Char × List Char) :=
  match s with
  | [] => some ([], [])
  | c :: rest =>
    if !isMark c then some ([], s)
    else
      let sign := rest.take 1 |>.filter signs.contains
      let rest := rest.drop sign.length
      let digits := rest.takeWhile Text.isDigit
      if digits.isEmpty then none
      else some (c :: (sign ++ digits), rest.dropWhile Text.isDigit)

/-- Whole numbers of 64 bits are integers; any other number must be one of floating point. -/
def number? (s : List Char) : Option (SettingValue × List Char) := do
  let sign := s.take 1 |>.filter (· = '-')
  let digits := (s.drop sign.length).takeWhile Text.isDigit
  if digits.isEmpty || (1 < digits.length && digits.head? == some '0') then none
  let rest := (s.drop sign.length).dropWhile Text.isDigit
  let (fraction, rest) ← digitsAfter? (· = '.') [] rest
  let (exponent, rest) ← digitsAfter? (fun c => c = 'e' || c = 'E') ['+', '-'] rest
  let whole := sign ++ digits
  match if fraction ++ exponent = [] && whole ≠ ['-', '0'] then Text.int64? whole else none with
  | some n => return (.integer n, rest)
  | none =>
    let d ← Text.Decimal.read? (whole ++ fraction ++ exponent)
    if d.isFinite then return (.ofDecimal d, rest) else none

def word? (s : List Char) : Option (SettingValue × List Char) :=
  [("true", SettingValue.boolean true), ("false", .boolean false), ("null", .nothing)].findSome?
    fun (word, v) => (Text.after? word.toList s).map (v, ·)

/-- How deep lists and tables may nest. -/
def maxDepth : Nat := 127

mutual

/-- A value that may nest so deep. Each step takes a character after at most one other, so twice
the length of the text bounds their number. -/
def value? (depth : Nat) : Nat → List Char → Option (SettingValue × List Char)
  | 0, _ => none
  | n + 1, s =>
    match depth, skipSpace s with
    | _, '"' :: s => (text? s).map fun (text, rest) => (.text text, rest)
    | 0, '[' :: _ | 0, '{' :: _ => none
    | depth + 1, '[' :: s =>
      match skipSpace s with
      | ']' :: s => some (.list [], s)
      | s => (items? depth n s).map fun (items, rest) => (.list items, rest)
    | depth + 1, '{' :: s =>
      match skipSpace s with
      | '}' :: s => some (.table [], s)
      | s => (fields? depth n [] s).map fun (fields, rest) => (.table fields, rest)
    | _, s => (word? s).or (number? s)

def items? (depth : Nat) : Nat → List Char → Option (List SettingValue × List Char)
  | 0, _ => none
  | n + 1, s => do
    let (item, rest) ← value? depth n s
    match skipSpace rest with
    | ',' :: rest =>
      let (items, rest) ← items? depth n rest
      return (item :: items, rest)
    | ']' :: rest => return ([item], rest)
    | _ => none

/-- Fields after those already read; of two with one name the later counts. -/
def fields? (depth : Nat) : Nat → List (String × SettingValue) → List Char →
    Option (List (String × SettingValue) × List Char)
  | 0, _, _ => none
  | n + 1, fields, s => do
    let (name, rest) ← text? (← Text.after? ['"'] (skipSpace s))
    let (v, rest) ← value? depth n (← Text.after? [':'] (skipSpace rest))
    let fields := SettingValue.setField name v fields
    match skipSpace rest with
    | ',' :: rest => fields? depth n fields rest
    | '}' :: rest => return (fields, rest)
    | _ => none

end

/-- The settings in a text. -/
def settings? (s : String) : Option SettingValue := do
  let (v, rest) ← value? maxDepth (2 * s.length + 2) s.toList
  if (skipSpace rest).isEmpty then return v else none

end Json

end Manifests
