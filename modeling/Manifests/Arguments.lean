import Manifests.Text.Pieces

/-! Reading the arguments of a command. -/

namespace Manifests

/-- What can be wrong with a command line, or asked instead of a run. -/
inductive UsageError where
  | nothingGiven
  | helpAsked
  /-- The version of the program or of one of its commands. -/
  | versionAsked (program : String)
  | unknownArgument
  | unknownCommand
  | missingCommand
  | missingArgument
  | missingValue
  | unwantedValue
  | badValue
  | repeated
deriving DecidableEq

/-- What an argument does to what is read from a command line. -/
inductive Effect (α : Type) where
  | flag (set : α → α)
  | value (set : String → α → Except UsageError α)
  /-- The command is not run. -/
  | stop (reason : UsageError)

/-- An argument with its names behind one hyphen and behind two. -/
structure Argument (α : Type) where
  short : Option Char
  long : String
  effect : Effect α

/-- The arguments that a command knows, and the names of the commands in it. -/
structure Grammar (α : Type) where
  arguments : List (Argument α)
  commands : List String

namespace Grammar

variable {α : Type} (g : Grammar α)

def short? (c : Char) : Option (Argument α) := g.arguments.find? (·.short = some c)

def long? (name : List Char) : Option (Argument α) := g.arguments.find? (·.long.toList = name)

/-- Why an argument is refused that is no flag. -/
def stray : UsageError := if g.commands.isEmpty then .unknownArgument else .unknownCommand

/-- Behind two hyphens there are no commands. -/
def strayBehindHyphens (s : String) : UsageError :=
  if g.commands.contains s then .unknownArgument else g.stray

end Grammar

/-- What was read from a command line. The last argument is checked only when the next one that
counts is read. -/
structure Reading (α : Type) where
  result : α
  given : List String := []
  /-- The last argument, with its value if that was read too. -/
  last : Option (Argument α × Option String) := none

namespace Reading

variable {α : Type} (r : Reading α)

def once (a : Argument α) (set : α → Except UsageError α) : Except UsageError (Reading α) := do
  if r.given.contains a.long then throw .repeated
  return { r with result := ← set r.result, given := a.long :: r.given }

/-- Carries out an argument. -/
def accept (a : Argument α) (v : Option String) : Except UsageError (Reading α) :=
  match a.effect, v with
  | .stop reason, _ => .error reason
  | .flag set, _ => r.once a fun result => .ok (set result)
  | .value _, none => .error .missingValue
  | .value set, some v => r.once a (set v)

/-- Carries out the last argument. -/
def settle : Except UsageError (Reading α) :=
  match r.last with
  | none => .ok r
  | some (a, v) => { r with last := none }.accept a v

def take (a : Argument α) (v : Option String) : Except UsageError (Reading α) := do
  (← r.settle).accept a v

/-- Leaves the value of an argument to what follows. -/
def await (a : Argument α) : Except UsageError (Reading α) := do
  return { ← r.settle with last := some (a, none) }

/-- The next argument is the value of the last one, unless it begins with a hyphen. -/
def isWaiting : Bool :=
  match r.last with
  | some (_, none) => true
  | _ => false

/-- Reads what stands behind two hyphens. -/
def long (g : Grammar α) (s : List Char) : Except UsageError (Reading α) :=
  let (name, v) :=
    match Text.cut? ['='] s with
    | some (name, v) => (name, some (String.ofList v))
    | none => (s, none)
  match g.long? name with
  | none => .error .unknownArgument
  | some a =>
    match a.effect, v with
    | .value _, none => r.await a
    | .value _, some _ | _, none => r.take a v
    | _, some _ => .error .unwantedValue

/-- Reads the letters behind one hyphen. What follows the letter of an argument with a value is
its value. -/
def short (g : Grammar α) : Reading α → List Char → Except UsageError (Reading α)
  | r, [] => .ok r
  | r, c :: rest =>
    match g.short? c with
    | none => .error .unknownArgument
    | some a =>
      match a.effect, rest with
      | .value _, [] => r.await a
      | .value _, '=' :: v | .value _, v => r.take a (some (.ofList v))
      | _, _ => do short g (← r.take a none) rest

/-- Reads arguments up to a command, and returns that with the arguments behind it. -/
def read (g : Grammar α) :
    Reading α → List String → Except UsageError (Reading α × Option (String × List String))
  | r, [] => .ok (r, none)
  | r, arg :: rest =>
    if !r.isWaiting && g.commands.contains arg then .ok (r, some (arg, rest))
    else
      match arg.toList, r.last, rest with
      | ['-', '-'], _, [] => .ok (r, none)
      | ['-', '-'], _, next :: _ => .error (g.strayBehindHyphens next)
      | '-' :: '-' :: name, _, rest => do read g (← r.long g name) rest
      | '-' :: c :: letters, _, rest => do read g (← r.short g (c :: letters)) rest
      | _, some (a, none), rest => read g { r with last := some (a, some arg) } rest
      | _, _, _ => .error g.stray

end Reading

end Manifests
