import Manifests.Failure
import Manifests.Object.Pod

/-! Policies for images and restarts. -/

namespace Manifests

namespace PullPolicy

def name : PullPolicy → String
  | always => "Always"
  | never => "Never"
  | ifNotPresent => "IfNotPresent"

def parse (service : String) : String → Except Failure (Option PullPolicy)
  | "" => .ok none
  | "Always" => .ok (some always)
  | "Never" => .ok (some never)
  | "IfNotPresent" => .ok (some ifNotPresent)
  | other => .error (.unknownPullPolicy service other)

end PullPolicy

namespace RestartPolicy

def name : RestartPolicy → String
  | always => "Always"
  | never => "Never"
  | onFailure => "OnFailure"

def parse (service : String) : String → Except Failure RestartPolicy
  | "" | "always" | "any" => .ok always
  | "no" | "none" => .ok never
  | "on-failure" => .ok onFailure
  | other => .error (.unknownRestartPolicy service other)

end RestartPolicy

end Manifests
