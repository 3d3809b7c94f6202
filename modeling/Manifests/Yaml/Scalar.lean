import Manifests.Text.Code
import Manifests.Yaml.Spot

/-! Scalars as they are read: plain, quoted and in blocks. Each reader returns the text and what
follows it, or nothing where the text is broken. -/

namespace Manifests.Yaml

/-- Line breaks inside a scalar: a single one is a space, of several the first is dropped. -/
def folded : List Char → List Char
  | [] => []
  | '\n' :: rest => if rest.isEmpty then [' '] else rest
  | breaks => breaks

/-- White space inside a scalar: blanks stay unless there are line breaks among them. -/
def foldedGap (gap : List Char) : List Char :=
  if gap.any isBreak then folded (gap.filter isBreak) else gap

namespace Plain

def isFlowMark (c : Char) : Bool := [',', '[', ']', '{', '}'].contains c

/-- The characters up to white space or a mark. A colon in front of a mark is refused. -/
def word (inFlow : Bool) : List Spot → Option (List Char × List Spot)
  | [] => some ([], [])
  | c :: s =>
    if inFlow && c.char = ':' && Spot.next s (fun d => isFlowMark d || d = '?') then none
    else if isGap c.char || (c.char = ':' && Spot.closed s) || (inFlow && isFlowMark c.char) then
      some ([], c :: s)
    else (word inFlow s).map fun (text, rest) => (c.char :: text, rest)

/-- Within lines after the first, a tab does not count as indentation. -/
def hasStrayTab (margin : Nat) (gap : List Spot) : Bool :=
  (gap.dropWhile fun c => !isBreak c.char).any fun c => c.char = '\t' && c.column < margin

structure Read where
  text : List Char
  /-- The scalar ended behind a line break. -/
  brokeLine : Bool
  rest : List Spot

/-- The words after a first one, with the white space between them. Each takes a character, so
the length of the text bounds their number. -/
def words (inFlow : Bool) (margin : Nat) : Nat → List Spot → Option Read
  | 0, s => some ⟨[], false, s⟩
  | n + 1, s =>
    let gap := s.takeWhile fun c => isGap c.char
    let after := s.dropWhile fun c => isGap c.char
    let brokeLine := gap.any fun c => isBreak c.char
    if gap.isEmpty then some ⟨[], false, s⟩
    else if hasStrayTab margin gap then none
    else if (!inFlow && after.head?.any (·.column < margin)) || Spot.isAnyMarker after ||
        Spot.next after (· = '#') then
      some ⟨[], brokeLine, after⟩
    else do
      let (text, rest) ← word inFlow after
      if text.isEmpty then return ⟨[], brokeLine, after⟩
      let more ← words inFlow margin n rest
      return { more with text := foldedGap (Spot.text gap) ++ text ++ more.text }

def read? (inFlow : Bool) (margin : Nat) (s : List Spot) : Option Read := do
  let (text, rest) ← word inFlow s
  let more ← words inFlow margin rest.length rest
  return { more with text := text ++ more.text }

end Plain

namespace Quoted

/-- The characters that a letter behind a backslash stands for. -/
def escapes : List (Char × Char) :=
  [('0', '\x00'), ('a', '\x07'), ('b', '\x08'), ('t', '\t'), ('\t', '\t'), ('n', '\n'),
    ('v', '\x0B'), ('f', '\x0C'), ('r', '\r'), ('e', '\x1B'), (' ', ' '), ('"', '"'), ('/', '/'),
    ('\\', '\\'), ('N', '\u0085'), ('_', '\u00A0'), ('L', '\u2028'), ('P', '\u2029')]

/-- How many digits of a code follow a letter. -/
def codeWidths : List (Char × Nat) := [('x', 2), ('u', 4), ('U', 8)]

/-- What an escape stands for, read behind its backslash. -/
def escape? (letter : Char) (s : List Spot) : Option (Char × List Spot) :=
  match escapes.lookup letter, codeWidths.lookup letter with
  | some c, _ => some (c, s)
  | none, some width => do
    let (code, _) ← Text.code? width (Spot.text (s.take width))
    return (← Text.charOf? code, s.drop width)
  | none, none => none

/-- The text up to the closing quote. Each step takes a character, so the length of the text
bounds their number. -/
def body (quote : Char) : Nat → List Spot → Option (List Char × List Spot)
  | 0, _ | _, [] => none
  | n + 1, c :: s =>
    let continued (text : List Char) (rest : List Spot) : Option (List Char × List Spot) :=
      (body quote n rest).map fun (more, rest) => (text ++ more, rest)
    if Spot.isAnyMarker (c :: s) then none
    else if c.char = quote then
      if quote = '\'' && Spot.next s (· = '\'') then continued ['\''] (s.drop 1) else some ([], s)
    else if quote = '"' && c.char = '\\' then
      match s with
      | [] => none
      | d :: s =>
        if isBreak d.char then
          let (gap, rest) := Spot.span s isGap
          continued (gap.filter isBreak) rest
        else
          match escape? d.char s with
          | some (char, rest) => continued [char] rest
          | none => none
    else if isGap c.char then
      let (gap, rest) := Spot.span (c :: s) isGap
      continued (foldedGap gap) rest
    else continued [c.char] s

def read? (quote : Char) (s : List Spot) : Option (List Char × List Spot) :=
  body quote (s.length + 1) s

end Quoted

namespace Block

/-- What becomes of the line breaks at the end of a block. -/
inductive Chomping where
  | strip
  | clip
  | keep
deriving DecidableEq

def chomping? : Char → Option Chomping
  | '-' => some .strip
  | '+' => some .keep
  | _ => none

structure Header where
  chomping : Chomping
  /-- The indentation that is asked for. -/
  indent : Option Nat

def indent? (c : Char) : Option Nat := (Text.digitValue? 10 c).filter (0 < ·)

/-- The marks behind the sign of a block, in either order. -/
def header (s : List Spot) : Header × List Spot :=
  let marks := s.take 2 |>.map Spot.char
  let chomped (c : Char) := (chomping? c).isSome
  let indented (c : Char) := (indent? c).isSome
  let header (marks : List Char) : Header :=
    ⟨(marks.findSome? chomping?).getD .clip, marks.findSome? indent?⟩
  match marks with
  | c :: d :: _ =>
    if (chomped c && indented d) || (indented c && chomped d) then (header [c, d], s.drop 2)
    else if chomped c || indented c then (header [c], s.drop 1)
    else (header [], s)
  | [c] => if chomped c || indented c then (header [c], s.drop 1) else (header [], s)
  | [] => (header [], s)

/-- The rest of a line that may hold nothing but a comment. -/
def restOfLine? (s : List Spot) : Option (List Spot) :=
  let afterBlanks := Spot.skip s isSpaceOrTab
  let rest :=
    if Spot.next afterBlanks (· = '#') then Spot.skip afterBlanks (!isBreak ·) else afterBlanks
  match rest with
  | [] => some []
  | c :: rest => if isBreak c.char then some rest else none

structure Gap where
  breaks : List Char
  /-- The widest indentation seen. -/
  width : Nat
  rest : List Spot

/-- Empty lines and the indentation behind them, as far as it is known. -/
def gap (indent : Option Nat) : List Spot → Option Gap
  | [] => some ⟨[], 0, []⟩
  | c :: s =>
    let below := indent.all (c.column < ·)
    if below && c.char = ' ' then gap indent s
    else if below && c.char = '\t' then none
    else if isBreak c.char then
      (gap indent s).map fun g =>
        { g with breaks := c.char :: g.breaks, width := max c.column g.width }
    else some ⟨[], c.column, c :: s⟩

/-- The lines of a block: the break before a line, empty lines, the line. -/
structure Line where
  before : List Char
  empty : List Char
  text : List Char

/-- The lines at an indentation, and the breaks that are left over. Each takes a character, so the
length of the text bounds their number. -/
def lines (indent : Nat) : Nat → List Char → Gap → Option (List Line × List Char × Gap)
  | 0, before, g => some ([], before, g)
  | n + 1, before, g =>
    if g.rest.head?.any (·.column = indent) then do
      let (text, rest) := Spot.span g.rest (!isBreak ·)
      let (next, more, last) ←
        lines indent n (Spot.text (rest.take 1)) (← gap (some indent) (rest.drop 1))
      return (⟨before, g.breaks, text⟩ :: next, more, last)
    else some ([], before, g)

/-- Whether lines keep their breaks. -/
inductive Layout where
  | literal
  | folded
deriving DecidableEq

def startsBlank (s : List Char) : Bool := s.head?.any isSpaceOrTab

/-- Joins lines; folded ones by spaces, unless one of two neighbours is indented further. -/
def join (layout : Layout) (afterBlank : Bool) : List Line → List Char
  | [] => []
  | l :: rest =>
    let before :=
      if layout = .folded && l.before == ['\n'] && !afterBlank && !startsBlank l.text then
        if l.empty.isEmpty then [' '] else []
      else l.before
    before ++ l.empty ++ l.text ++ join layout (startsBlank l.text) rest

/-- A block behind its sign. The margin is the least indentation that it can have. -/
def read? (layout : Layout) (margin : Nat) (s : List Spot) : Option (List Char × List Spot) := do
  let (header, s) := header s
  let s ← restOfLine? s
  let asked := header.indent.map (· + (margin - 1))
  let g ← gap asked s
  let indent := asked.getD (max 1 (max margin g.width))
  let (lines, before, last) ← lines indent s.length [] g
  let ending :=
    match header.chomping with
    | .strip => []
    | .clip => before
    | .keep => before ++ last.breaks
  return (join layout false lines ++ ending, last.rest)

end Block

end Manifests.Yaml
