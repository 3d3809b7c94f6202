import Manifests.Object.Claim
import Manifests.Object.Pod

/-! Workloads: bare pods, and the controllers that keep pods of one template running. -/

namespace Manifests

inductive WorkloadKind where
  | deployment
  | daemonSet
  | statefulSet
  | pod
  | deploymentConfig
deriving DecidableEq

namespace WorkloadKind

def name : WorkloadKind → String
  | deployment => "Deployment"
  | daemonSet => "DaemonSet"
  | statefulSet => "StatefulSet"
  | pod => "Pod"
  | deploymentConfig => "DeploymentConfig"

def all : List WorkloadKind := [deployment, daemonSet, statefulSet, pod, deploymentConfig]

def isController : WorkloadKind → Bool
  | pod => false
  | _ => true

/-- An autoscaler can set the number of pods. -/
def isScalable : WorkloadKind → Bool
  | daemonSet | pod => false
  | _ => true

end WorkloadKind

/-- How old pods make way for new ones. -/
inductive Strategy where
  | rolling
  | recreate
deriving DecidableEq

def Strategy.name : Strategy → String
  | rolling => "Rolling"
  | recreate => "Recreate"

/-- What sets one sort of controller apart from the others. -/
inductive ControllerForm where
  | deployment (replicas : Option Int) (strategy : Option Strategy)
  | statefulSet (replicas : Option Int) (serviceName : String) (claims : List Claim)
  | daemonSet
  | deploymentConfig (replicas : Option Int) (strategy : Strategy) (triggers : List String)
deriving DecidableEq

structure Controller where
  metadata : Metadata
  form : ControllerForm
  selector : Dict String
  template : PodTemplate
deriving DecidableEq

def Controller.kind (c : Controller) : WorkloadKind :=
  match c.form with
  | .deployment .. => .deployment
  | .statefulSet .. => .statefulSet
  | .daemonSet => .daemonSet
  | .deploymentConfig .. => .deploymentConfig

/-- The controllers without a template. Most have no spec at all then. -/
inductive SpeclessKind where
  | deployment
  | statefulSet
  | daemonSet
  /-- The rest of its spec is there. -/
  | deploymentConfig (replicas : Option Int) (selector : Dict String) (strategy : Strategy)
    (triggers : List String)
deriving DecidableEq

namespace SpeclessKind

def kind : SpeclessKind → WorkloadKind
  | deployment => .deployment
  | statefulSet => .statefulSet
  | daemonSet => .daemonSet
  | deploymentConfig .. => .deploymentConfig

def form : SpeclessKind → ControllerForm
  | deployment => .deployment none none
  | statefulSet => .statefulSet none "" []
  | daemonSet => .daemonSet
  | deploymentConfig replicas _ strategy triggers => .deploymentConfig replicas strategy triggers

def selector : SpeclessKind → Dict String
  | deploymentConfig _ selector _ _ => selector
  | deployment | statefulSet | daemonSet => ∅

end SpeclessKind

/-- The controller with the default template, and the default spec if it has none. -/
def Controller.blank (k : SpeclessKind) (metadata : Metadata) : Controller :=
  { metadata, form := k.form, selector := k.selector, template := {} }

def Controller.replicas (c : Controller) : Option Int :=
  match c.form with
  | .deployment n _ | .statefulSet n _ _ | .deploymentConfig n _ _ => n
  | .daemonSet => none

end Manifests
