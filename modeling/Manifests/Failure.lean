import Manifests.Text.Quoted

/-! What can stop a conversion. -/

namespace Manifests

inductive Failure where
  | unknownRestartPolicy (service policy : String)
  | unknownPullPolicy (service policy : String)
  | malformedHealthCheck (service : String)
  | unsupportedVariant (kind : String)
  | unsupportedMerge (source sourceKind target targetKind : String)
  | mergeTargetMissing (source target : String)
  | invalidDuration (text : String)
  | converting (service : String) (cause : Failure)
deriving DecidableEq

namespace Failure

def message : Failure → String
  | unknownRestartPolicy service policy =>
    "Unknown restart policy " ++ policy ++ " for service " ++ service
  | unknownPullPolicy service policy =>
    "Unknown image-pull-policy " ++ policy ++ " for service " ++ service
  | malformedHealthCheck service =>
    "Health check for service " ++ service ++
      " must contain a command, an HTTP target or a TCP port"
  | unsupportedVariant kind => "Unsupported workload variant: " ++ kind
  | unsupportedMerge source sourceKind target targetKind =>
    "Cannot merge " ++ sourceKind ++ " " ++ source ++ " into " ++ targetKind ++ " " ++ target ++
      ": only Deployments can share a network namespace"
  | mergeTargetMissing source target =>
    "Service " ++ source ++ " joins the network of " ++ target ++
      ", but no workload named " ++ target ++ " was generated"
  | invalidDuration text => "Invalid duration " ++ Text.quoted text
  | converting service cause => "Failed to convert service " ++ service ++ ": " ++ cause.message

/-- Names the service whose conversion failed, unless one is named already. -/
def inService (service : String) : Failure → Failure
  | converting s cause => converting s cause
  | cause => converting service cause

end Failure

/-- A value that a step worked on, as the step left it, and the failure that cut the step short. -/
structure Attempt (α : Type) where
  left : α
  failure : Option Failure := none
deriving DecidableEq

end Manifests
