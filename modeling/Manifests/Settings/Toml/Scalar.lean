import Manifests.Settings.Value
import Manifests.Text.Code

/-! Numbers, times and strings in TOML. Each reader of strings returns the text and what follows
it; lines end with a line feed alone. -/

namespace Manifests.Toml

/-- A character that strings and comments may hold within a line. -/
def isPlain (c : Char) : Bool := c = '\t' || (0x20 ≤ c.toNat && c.toNat ≠ 0x7F)

/-- Digits, with single underscores between them. -/
def isGrouped (s : List Char) : Bool :=
  (Text.pieces '_' s).all fun p => p ≠ [] && p.all Text.isDigit

def isGroupedChar (c : Char) : Bool := Text.isDigit c || c = '_'

/-- A number in a base that two characters announce. -/
def announced? (s : List Char) : Option Int :=
  let grouped (base : Nat) (digits : List Char) : Option Int := do
    let pieces := Text.pieces '_' digits
    if pieces.contains [] then none
    else ((Text.natural? base pieces.flatten).map Int.ofNat).filter (Text.fits 64)
  match s with
  | '0' :: 'x' :: digits => grouped 16 digits
  | '0' :: 'o' :: digits => grouped 8 digits
  | '0' :: 'b' :: digits => grouped 2 digits
  | _ => none

def isExponent (s : List Char) : Bool :=
  match s with
  | [] => true
  | c :: rest => (c = 'e' || c = 'E') && isGrouped (Text.signed rest).2

def number? (s : List Char) : Option SettingValue :=
  let (negative, unsigned) := Text.signed s
  let whole := unsigned.takeWhile isGroupedChar
  let tail := unsigned.dropWhile isGroupedChar
  let digits := s.filter (· ≠ '_')
  if unsigned = "inf".toList then some (.real (if negative then "-inf" else "inf") false)
  else if unsigned = "nan".toList then some (.real "NaN" false)
  else if !isGrouped whole || (1 < whole.length && whole.head? == some '0') then none
  else
    let decimal := ((Text.Decimal.read? digits).filter (·.isFinite)).map SettingValue.ofDecimal
    match tail with
    | [] => (Text.int64? digits).map .integer
    | '.' :: rest =>
      if isGrouped (rest.takeWhile isGroupedChar) && isExponent (rest.dropWhile isGroupedChar) then
        decimal
      else none
    | _ => if isExponent tail then decimal else none

namespace Time

def two? (s : List Char) : Option (Nat × List Char) :=
  if s.length < 2 then none else (Text.natural? 10 (s.take 2)).map (·, s.drop 2)

def isLeap (year : Nat) : Bool := year % 4 = 0 && (year % 100 ≠ 0 || year % 400 = 0)

def daysIn (year month : Nat) : Nat :=
  if month = 2 then if isLeap year then 29 else 28
  else if [4, 6, 9, 11].contains month then 30
  else 31

/-- A day in ten characters. -/
def isDay (s : List Char) : Bool :=
  match (Text.pieces '-' s).map fun p => (p.length, Text.natural? 10 p) with
  | [(4, some year), (2, some month), (2, some day)] =>
    1 ≤ month && month ≤ 12 && 1 ≤ day && day ≤ daysIn year month
  | _ => false

/-- Two numbers of two digits each, around a colon. -/
def hourAndMinute? (s : List Char) : Option (List Char) := do
  let (hour, rest) ← two? s
  let (minute, rest) ← two? (← Text.after? [':'] rest)
  if hour ≤ 23 && minute ≤ 59 then return rest else none

/-- Billionths of a second, without zeros at the end. -/
def fraction (digits : List Char) : List Char :=
  match (digits.take 9).reverse.dropWhile (· = '0') with
  | [] => []
  | kept => '.' :: kept.reverse

/-- A time of day as it is shown, and what follows it. -/
def clock? (s : List Char) : Option (List Char × List Char) := do
  let rest ← hourAndMinute? s
  let (second, rest) ← two? (← Text.after? [':'] rest)
  if 60 < second then none
  match rest with
  | '.' :: rest =>
    let digits := rest.takeWhile Text.isDigit
    if digits = [] then none
    return (s.take 8 ++ fraction digits, rest.dropWhile Text.isDigit)
  | rest => return (s.take 8, rest)

/-- A time of day, perhaps with its distance from that of Greenwich, as it is shown. -/
def clockAndOffset? (s : List Char) : Option (List Char) := do
  let (clock, rest) ← clock? s
  match rest with
  | [] => return clock
  | [c] => if c = 'Z' || c = 'z' then return clock ++ ['Z'] else none
  | sign :: offset =>
    if (sign = '+' || sign = '-') && hourAndMinute? offset = some [] then
      return clock ++ sign :: offset
    else none

/-- A day, a time of day, or both without a space between them, as they are shown. -/
def shown? (s : List Char) : Option (List Char) :=
  if isDay (s.take 10) then
    match s.drop 10 with
    | [] => some s
    | c :: rest =>
      if c = 'T' || c = 't' then (clockAndOffset? rest).map (s.take 10 ++ 'T' :: ·) else none
  else
    match clock? s with
    | some (clock, []) => some clock
    | _ => none

end Time

namespace Quoted

def escapes : List (Char × Char) :=
  [('b', '\x08'), ('t', '\t'), ('n', '\n'), ('f', '\x0C'), ('r', '\r'), ('"', '"'), ('\\', '\\')]

def codeWidths : List (Char × Nat) := [('u', 4), ('U', 8)]

/-- What an escape stands for, read behind its backslash. -/
def escape? (s : List Char) : Option (Char × List Char) :=
  match s with
  | [] => none
  | letter :: s =>
    match escapes.lookup letter, codeWidths.lookup letter with
    | some c, _ => some (c, s)
    | none, some width => do
      let (code, rest) ← Text.code? width s
      return (← Text.charOf? code, rest)
    | none, none => none

/-- The text of a string up to its closing quote, within a line. Each step takes a character, so
the length of the text bounds their number. -/
def line? (quote : Char) : Nat → List Char → Option (List Char × List Char)
  | 0, _ | _, [] => none
  | n + 1, c :: s =>
    if c = quote then some ([], s)
    else if c = '\\' && quote = '"' then do
      let (c, s) ← escape? s
      let (more, rest) ← line? quote n s
      return (c :: more, rest)
    else if !isPlain c then none
    else do
      let (more, rest) ← line? quote n s
      return (c :: more, rest)

def isBlankOrBreak (c : Char) : Bool := c = ' ' || c = '\t' || c = '\n'

/-- What stands behind a backslash at the end of a line. -/
def afterBreak? (s : List Char) : Option (List Char) :=
  match s.dropWhile fun c => c = ' ' || c = '\t' with
  | '\n' :: rest => some (rest.dropWhile isBlankOrBreak)
  | _ => none

/-- The text of a string up to three closing quotes; up to two more belong to the text. -/
def lines? (quote : Char) : Nat → List Char → Option (List Char × List Char)
  | 0, _ | _, [] => none
  | n + 1, c :: s =>
    let quotes := ((c :: s).takeWhile (· = quote)).length
    if 3 ≤ quotes then
      let inside := min quotes 5 - 3
      some (List.replicate inside quote, (c :: s).drop (inside + 3))
    else if c = '\\' && quote = '"' then
      match afterBreak? s with
      | some rest => lines? quote n rest
      | none => do
        let (c, s) ← escape? s
        let (more, rest) ← lines? quote n s
        return (c :: more, rest)
    else if !isPlain c && c ≠ '\n' then none
    else do
      let (more, rest) ← lines? quote n s
      return (c :: more, rest)

/-- A string behind its first quote. A line break right behind three quotes is not part of it. -/
def read? (quote : Char) (s : List Char) : Option (List Char × List Char) :=
  match Text.after? [quote, quote] s with
  | none => line? quote (s.length + 1) s
  | some rest => lines? quote s.length ((Text.after? ['\n'] rest).getD rest)

end Quoted

end Manifests.Toml
