import Manifests.Options
import Manifests.Text.Integer

/-! How much is logged. -/

namespace Manifests

inductive LogLevel where
  | off
  | error
  | warn
  | info
  | debug
  | trace
deriving DecidableEq

namespace LogLevel

def all : List LogLevel := [off, .error, warn, info, debug, trace]

def name : LogLevel → String
  | off => "off"
  | .error => "error"
  | warn => "warn"
  | info => "info"
  | debug => "debug"
  | trace => "trace"

/-- A level by its name in any case of letters. -/
def ofName? (s : String) : Option LogLevel := all.find? (·.name = lowered s)

/-- A level by its name or its place; the empty text is the level of errors. -/
def parse? (s : String) : Option LogLevel :=
  let digits :=
    match s.toList with
    | '+' :: digits => digits
    | digits => digits
  ((Text.natural? 10 digits).bind (all[·]?)).or (if s = "" then some .error else ofName? s)

end LogLevel

end Manifests
