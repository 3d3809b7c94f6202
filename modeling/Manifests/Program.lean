import Manifests.CommandLine
import Manifests.Conversion
import Manifests.Loading

/-! The program from its arguments to its end. -/

namespace Manifests

/-- How a run ends. -/
structure RunEnd where
  exitCode : Nat
  printed : String := ""
  /-- What the log tells. -/
  problem : Option Problem := none

namespace Program

def version : String := "0.1.0"

def help : String := "Usage: kf [OPTIONS] <COMMAND>

Commands:
  info     Show information about kubeforge
  convert  Convert a service model into Kubernetes manifests
  help     Print this message

Options:
  -r, --root <ROOT>
  -l, --log-level <LEVEL>    Overrides the level from the settings file
  -s, --settings <SETTINGS>
  -h, --help                 Print help
  -V, --version              Print version

Options of convert:
  -f, --file <FILE>                Service model file
  -o, --out <PATH>                 Output file, or a directory for one file per object
      --stdout                     Print all objects to stdout
  -j, --json                       Render JSON instead of YAML
      --controller <CONTROLLER>    deployment, daemonset or statefulset
      --provider <PROVIDER>        kubernetes or openshift
      --service-group-mode <MODE>  Put services into one pod: label or volume
      --volumes <VOLUMES>          persistentVolumeClaim, emptyDir, hostPath or configMap
      --generate-network-policies
      --namespace <NAMESPACE>
      --pvc-request-size <SIZE>    Default size of generated claims
"

/-- Help and the version are printed as asked. -/
def usageEnd : UsageError → RunEnd
  | .helpAsked => { exitCode := 0, printed := help }
  | .versionAsked program => { exitCode := 0, printed := program ++ " " ++ version ++ "\n" }
  | _ => { exitCode := 2 }

def infoLine (s : ConvertSettings) : String :=
  "kubeforge " ++ version ++ " (provider: " ++ s.provider ++ ", volumes: " ++ s.volumes ++ ")\n"

variable {m : Type → Type} [Monad m] [Disk m]

/-- The environment with the variables of the file for it in the working directory. -/
def environmentOfDirectory (environment : Dict String) : m (Dict String) := do
  match ← Disk.bytes? ".env" with
  | some bytes => return DotEnv.extend environment bytes
  | none => return environment

/-- Carries out a conversion, and returns what it prints. -/
def perform (environment : Dict String) (settings : ConvertSettings) (c : ConvertRequest) :
    ExceptT Problem m String := do
  let c ← liftExcept c.checked
  let opt ← liftExcept (c.options settings)
  let target ← OutputTarget.choose c.stdout c.out
  let services ← Loading.services environment c.file
  let objects ← liftExcept ((convert services opt).mapError Problem.conversion)
  return (← target.write objects (c.format settings)).printed

def runCommand (environment : Dict String) (settings : ConvertSettings) :
    Command → ExceptT Problem m String
  | .info => return infoLine settings
  | .convert request => perform environment settings request

/-- The settings come first; while they are missing nothing is logged. -/
def runLine (environment : Dict String) (line : CommandLine) : m RunEnd := do
  let root := (line.globals.settings.or line.globals.root).getD "."
  match ← (Settings.load environment root).run with
  | .error _ => return { exitCode := 1 }
  | .ok settings =>
    match ← (runCommand environment settings.convert line.command).run with
    | .ok printed => return { exitCode := 0, printed }
    | .error problem =>
      let level := line.globals.logLevel.getD settings.logLevel
      return { exitCode := 1, problem := if level = .off then none else some problem }

/-- A run with the arguments behind the name of the program. -/
def run (environment : Dict String) (args : List String) : m RunEnd := do
  let environment ← environmentOfDirectory environment
  match CommandLine.parse args with
  | .error e => return usageEnd e
  | .ok line => runLine environment line

end Program

end Manifests
