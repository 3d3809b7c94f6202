import Manifests.Label
import Manifests.Failure
import Manifests.Object.Basic

/-! Workloads made for services. -/

namespace Manifests

/-- The service asks not to be started again after it ends well. -/
def isPodRestart (restart : String) : Bool :=
  restart = "no" || restart = "none" || restart = "on-failure"

/-- A controller that was asked for comes first. A lone service that is not started again runs as
a bare pod. -/
def WorkloadKind.choose (s : Service) (opt : Options) : WorkloadKind :=
  let ordinary :=
    match opt.provider with
    | .kubernetes => WorkloadKind.deployment
    | .openShift => .deploymentConfig
  match opt.controller with
  | some .deployment => ordinary
  | some .daemonSet => .daemonSet
  | some .statefulSet => .statefulSet
  | none => if !s.inGroup && isPodRestart s.restart then .pod else ordinary

namespace Service

variable (s : Service)

/-- Under a controller, pods are always started again. -/
def underKind (kind : WorkloadKind) : Service :=
  if kind.isController ∧ isPodRestart s.restart then { s with restart := "always" } else s

/-- The service's own labels go along, but for those that steer the conversion. -/
def workloadLabels (name : String) : Dict String :=
  (selectorLabels name).union <|
    s.labels.filter fun key _ => (Text.after? Label.reserved.toList key.toList).isNone

/-- The template a workload starts from. -/
def firstTemplate (name : String) : PodTemplate where
  metadata := some { labels := some (selectorLabels name) }
  spec :=
    some
      { containers :=
          [{ name := s.container, image := if s.image = "" then s.container else s.image }] }

end Service

/-- The number of pods that is written down: zero leaves it to an autoscaler. -/
def writtenReplicas : Option Int → Option Int
  | none => some 1
  | some n => if n = 0 then none else some n

namespace Object

/-- A workload with the first template and nothing of a service but its labels and image. -/
def newWorkload (kind : WorkloadKind) (name : String) (s : Service) (replicas : Option Int)
    (opt : Options) : Object :=
  let metadata : Metadata :=
    { name := some name
      namespaceName := opt.namespaceName
      labels := some (s.workloadLabels name) }
  let controlled (form : ControllerForm) : Object :=
    controller
      { metadata, form, selector := selectorLabels name, template := s.firstTemplate name }
  match kind with
  | .deployment => controlled (.deployment (writtenReplicas replicas) none)
  | .statefulSet => controlled (.statefulSet (writtenReplicas replicas) name [])
  | .daemonSet => controlled .daemonSet
  | .deploymentConfig =>
    controlled (.deploymentConfig (writtenReplicas replicas) .rolling ["ConfigChange"])
  | .pod => pod { metadata, spec := (s.firstTemplate name).spec }

/-- Fills the template of a workload, and then its metadata unless that failed. A bare pod lends
its metadata and spec to a template; if the filling fails, the spec is gone. -/
def fill (fillTemplate : PodTemplate → Attempt PodTemplate) (fillMetadata : Metadata → Metadata)
    (o : Object) : Attempt Object :=
  match o.specified with
  | controller c =>
    match fillTemplate c.template with
    | ⟨template, some failure⟩ => ⟨controller { c with template }, some failure⟩
    | ⟨template, none⟩ =>
      ⟨controller { c with template, metadata := fillMetadata c.metadata }, none⟩
  | pod p =>
    match fillTemplate ⟨some p.metadata, p.spec⟩ with
    | ⟨_, some failure⟩ => ⟨pod { p with spec := none }, some failure⟩
    | ⟨template, none⟩ =>
      ⟨pod ⟨fillMetadata (template.metadata.getD {}), template.spec⟩, none⟩
  | other => ⟨other, some (.unsupportedVariant other.kind)⟩

/-- Old pods go before new ones come, as pods cannot share a volume meanwhile. -/
def recreating : Object → Object
  | controller c =>
    match c.form with
    | .deployment n _ => controller { c with form := .deployment n (some .recreate) }
    | .deploymentConfig n _ t => controller { c with form := .deploymentConfig n .recreate t }
    | _ => controller c
  | specless .deployment m =>
    controller { Controller.blank .deployment m with form := .deployment none (some .recreate) }
  | specless (.deploymentConfig n s _ t) m => specless (.deploymentConfig n s .recreate t) m
  | other => other

/-- A stateful set makes its claims itself. -/
def claiming (claims : List Claim) : Object → Object
  | controller c =>
    match c.form with
    | .statefulSet n s old =>
      controller { c with form := .statefulSet n s (if claims = [] then old else claims) }
    | _ => controller c
  | specless .statefulSet m =>
    if claims = [] then specless .statefulSet m
    else controller { Controller.blank .statefulSet m with form := .statefulSet none "" claims }
  | other => other

end Object

end Manifests
