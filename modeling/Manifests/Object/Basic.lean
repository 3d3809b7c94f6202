import Manifests.Object.Autoscaler
import Manifests.Object.Network
import Manifests.Object.Workload

/-! The objects that a conversion makes. -/

namespace Manifests

inductive Object where
  | controller (c : Controller)
  /-- A controller without a template. -/
  | specless (k : SpeclessKind) (metadata : Metadata)
  | pod (p : Pod)
  | service (s : ClusterService)
  | claim (c : Claim)
  | configMap (m : ConfigMap)
  | autoscaler (a : Autoscaler)
  | networkPolicy (p : NetworkPolicy)
deriving DecidableEq

/-- By these three a cluster tells objects apart. -/
structure ObjectKey where
  kind : String
  namespaceName : Option String
  name : String
deriving DecidableEq

namespace Object

def kind : Object → String
  | controller c => c.kind.name
  | specless k _ => k.kind.name
  | pod _ => WorkloadKind.pod.name
  | service _ => "Service"
  | claim _ => "PersistentVolumeClaim"
  | configMap _ => "ConfigMap"
  | autoscaler _ => "HorizontalPodAutoscaler"
  | networkPolicy _ => "NetworkPolicy"

def apiVersion : Object → String
  | controller c =>
    match c.form with
    | .deploymentConfig .. => "apps.openshift.io/v1"
    | _ => "apps/v1"
  | specless k _ =>
    match k with
    | .deploymentConfig .. => "apps.openshift.io/v1"
    | _ => "apps/v1"
  | autoscaler _ => "autoscaling/v2"
  | networkPolicy _ => "networking.k8s.io/v1"
  | _ => "v1"

def metadata : Object → Metadata
  | controller c => c.metadata
  | specless _ m => m
  | pod p => p.metadata
  | service s => s.metadata
  | claim c => c.metadata
  | configMap m => m.metadata
  | autoscaler a => a.metadata
  | networkPolicy p => p.metadata

def mapMetadata (f : Metadata → Metadata) : Object → Object
  | controller c => controller { c with metadata := f c.metadata }
  | specless k m => specless k (f m)
  | pod p => pod { p with metadata := f p.metadata }
  | service s => service { s with metadata := f s.metadata }
  | claim c => claim { c with metadata := f c.metadata }
  | configMap m => configMap { m with metadata := f m.metadata }
  | autoscaler a => autoscaler { a with metadata := f a.metadata }
  | networkPolicy p => networkPolicy { p with metadata := f p.metadata }

def name (o : Object) : String := o.metadata.anyName

def key (o : Object) : ObjectKey := ⟨o.kind, o.metadata.namespaceName, o.name⟩

def isService : Object → Bool
  | service _ => true
  | _ => false

def isWorkload : Object → Bool
  | controller _ | specless .. | pod _ => true
  | _ => false

def isDeployment : Object → Bool
  | controller c => c.kind == .deployment
  | specless k _ => k == .deployment
  | _ => false

/-- A controller without a template gets the default one. -/
def specified : Object → Object
  | specless k m => controller (.blank k m)
  | other => other

/-- The pod of a workload, made by a controller or standing alone. -/
def podSpec? : Object → Option PodSpec
  | controller c => c.template.spec
  | pod p => p.spec
  | _ => none

/-- The labels that the pods of a workload carry. -/
def podLabels? : Object → Option (Dict String)
  | controller c => c.template.metadata.bind (·.labels)
  | pod p => p.metadata.labels
  | _ => none

end Object

end Manifests
