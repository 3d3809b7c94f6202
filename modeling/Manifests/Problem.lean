import Manifests.Failure

/-! What can stop the program. -/

namespace Manifests

inductive Problem where
  | settings (reason : String)
  | argument (reason : String)
  | load (path reason : String)
  | conversion (failure : Failure)
  | output (reason : String)
  | runtime (reason : String)
deriving DecidableEq

/-- What can stop any tool that shares these settings. -/
inductive Fault where
  | tool (reason : String)
  | settings (reason : String)
  | runtime (reason : String)
  | system (reason : String)
  | missingFile (path : String)
  | log (reason : String)
  | conversion (reason : String)
deriving DecidableEq

namespace Problem

def message : Problem → String
  | settings reason => "Unable to initialize config: " ++ reason
  | argument reason => "Invalid argument: " ++ reason
  | load path reason => "Unable to load " ++ path ++ ": " ++ reason
  | conversion failure => failure.message
  | output reason => "Unable to write output: " ++ reason
  | runtime reason => "Runtime error: " ++ reason

/-- A failed conversion stays one; any other problem is that of the tool. -/
def fault : Problem → Fault
  | conversion failure => .conversion failure.message
  | other => .tool other.message

end Problem

namespace Fault

def message : Fault → String
  | tool reason => "CLI error: " ++ reason
  | settings reason => "Config error: " ++ reason
  | runtime reason => "Runtime error: " ++ reason
  | system reason => "IO error: " ++ reason
  | missingFile path => "File not found: " ++ path
  | log reason => "Tracing setup failed: " ++ reason
  | conversion reason => "Conversion failed: " ++ reason

/-- A fault of another kind, told by its text. -/
def ofOther (text : String) : Fault := runtime (Text.quoted text)

/-- Bad settings stay that; any other fault has stopped the run. -/
def problem : Fault → Problem
  | settings reason => .settings reason
  | other => .runtime other.message

end Fault

end Manifests
