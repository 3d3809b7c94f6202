import Manifests.Document
import Manifests.Label
import Manifests.Object.Basic
import Manifests.Policy

/-! Objects as documents. Fields stand in the order of their names, behind the version and kind
of an object. -/

namespace Manifests

open Document

def Metadata.document (m : Metadata) : Document :=
  mapping <|
    optional "annotations" dict m.annotations ++
    optional "generateName" text m.generateName ++
    optional "labels" dict m.labels ++
    optional "name" text m.name ++
    optional "namespace" text m.namespaceName

/-- What comes first in every object. -/
def header (apiVersion kind : String) : List (String × Document) :=
  always "apiVersion" apiVersion ++ always "kind" kind

/-- A selector by labels. -/
def matching (labels : Dict String) : Document := mapping (always "matchLabels" (dict labels))

def EnvVar.document (v : EnvVar) : Document :=
  mapping <| always "name" v.name ++
    match v.value with
    | .literal value => always "value" value
    | .reference configMap key =>
      always "valueFrom" <| mapping <| always "configMapKeyRef" <| mapping <|
        always "key" key ++ always "name" configMap

def envSource (configMap : String) : Document :=
  mapping (always "configMapRef" (mapping (always "name" configMap)))

def ContainerPort.document (p : ContainerPort) : Document :=
  mapping <|
    always "containerPort" (integer p.port) ++
    optional "hostIP" text p.hostIp ++
    always "protocol" p.protocol

def Probe.document (p : Probe) : Document :=
  let exec :=
    match p.handler with
    | .exec command => always "exec" (mapping (always "command" (texts command)))
    | _ => []
  let httpGet :=
    match p.handler with
    | .httpGet path port =>
      always "httpGet" (mapping (always "path" path ++ always "port" (integer port)))
    | _ => []
  let tcpSocket :=
    match p.handler with
    | .tcpSocket port => always "tcpSocket" (mapping (always "port" (integer port)))
    | _ => []
  mapping <|
    exec ++
    optional "failureThreshold" integer p.failureThreshold ++
    httpGet ++
    optional "initialDelaySeconds" integer p.initialDelay ++
    optional "periodSeconds" integer p.period ++
    tcpSocket ++
    optional "timeoutSeconds" integer p.timeout

def ContainerSecurity.document (s : ContainerSecurity) : Document :=
  let capabilities := unlessEmpty "add" text s.capAdd ++ unlessEmpty "drop" text s.capDrop
  mapping <|
    (if capabilities.isEmpty then [] else always "capabilities" (mapping capabilities)) ++
    flag "privileged" s.privileged ++
    flag "readOnlyRootFilesystem" s.readOnlyRoot ++
    optional "runAsGroup" integer s.group ++
    optional "runAsUser" integer s.user

def PodSecurity.document (s : PodSecurity) : Document :=
  mapping <|
    optional "fsGroup" integer s.fsGroup ++
    unlessEmpty "supplementalGroups" integer s.supplementalGroups

def VolumeMount.document (m : VolumeMount) : Document :=
  mapping <|
    always "mountPath" m.path ++
    always "name" m.name ++
    optional "readOnly" boolean m.readOnly ++
    optional "subPath" text m.subPath

def Volume.document (v : Volume) : Document :=
  let name := always "name" v.name
  mapping <|
    match v.source with
    | .emptyDir medium => always "emptyDir" (mapping (optional "medium" text medium)) ++ name
    | .hostPath path => always "hostPath" (mapping (always "path" path)) ++ name
    | .configMap source item =>
      let itemDocument (item : String × String) : Document :=
        sequence [mapping (always "key" item.1 ++ always "path" item.2)]
      always "configMap" (mapping (optional "items" itemDocument item ++ always "name" source)) ++
        name
    | .claim source readOnly =>
      name ++ always "persistentVolumeClaim"
        (mapping (always "claimName" source ++ flag "readOnly" readOnly))

def Container.document (c : Container) : Document :=
  let resources :=
    (if c.limits.isEmpty then [] else always "limits" (dict c.limits)) ++
    (if c.requests.isEmpty then [] else always "requests" (dict c.requests))
  mapping <|
    unlessEmpty "args" text c.args ++
    unlessEmpty "command" text c.command ++
    unlessEmpty "env" EnvVar.document c.env ++
    unlessEmpty "envFrom" envSource c.envFrom ++
    always "image" c.image ++
    optional "imagePullPolicy" (text ·.name) c.imagePullPolicy ++
    optional "livenessProbe" Probe.document c.liveness ++
    always "name" c.name ++
    unlessEmpty "ports" ContainerPort.document c.ports ++
    optional "readinessProbe" Probe.document c.readiness ++
    (if resources.isEmpty then [] else always "resources" (mapping resources)) ++
    optional "securityContext" ContainerSecurity.document c.security ++
    flag "stdin" c.stdin ++
    flag "tty" c.tty ++
    optional "volumeMounts" (list VolumeMount.document) c.mounts ++
    optional "workingDir" text c.workingDir

def NodeRequirement.document (r : NodeRequirement) : Document :=
  let operator := match r.membership with | .among => "In" | .notAmong => "NotIn"
  mapping (always "key" r.key ++ always "operator" operator ++ always "values" (texts [r.value]))

def affinityDocument (requirements : List NodeRequirement) : Document :=
  let term := mapping (always "matchExpressions" (list NodeRequirement.document requirements))
  mapping <| always "nodeAffinity" <| mapping <|
    always "requiredDuringSchedulingIgnoredDuringExecution" <| mapping <|
      always "nodeSelectorTerms" (sequence [term])

def SpreadConstraint.document (c : SpreadConstraint) : Document :=
  mapping <|
    always "labelSelector" (matching c.selector) ++
    always "maxSkew" (integer c.maxSkew) ++
    always "topologyKey" c.topologyKey ++
    always "whenUnsatisfiable" "ScheduleAnyway"

def secretReference (name : String) : Document := mapping (always "name" name)

def PodSpec.document (p : PodSpec) : Document :=
  mapping <|
    (if p.affinity.isEmpty then [] else always "affinity" (affinityDocument p.affinity)) ++
    always "containers" (list Container.document p.containers) ++
    flag "hostPID" p.hostPid ++
    optional "hostname" text p.hostname ++
    optional "imagePullSecrets" (list secretReference) p.imagePullSecrets ++
    unlessEmpty "initContainers" Container.document p.initContainers ++
    optional "restartPolicy" (text ·.name) p.restartPolicy ++
    optional "securityContext" PodSecurity.document p.security ++
    optional "serviceAccountName" text p.serviceAccount ++
    optional "subdomain" text p.subdomain ++
    optional "terminationGracePeriodSeconds" integer p.gracePeriod ++
    unlessEmpty "topologySpreadConstraints" SpreadConstraint.document p.spread ++
    optional "volumes" (list Volume.document) p.volumes

def PodTemplate.document (t : PodTemplate) : Document :=
  mapping (optional "metadata" Metadata.document t.metadata ++ optional "spec" PodSpec.document t.spec)

def Claim.specFields (c : Claim) : List (String × Document) :=
  always "accessModes" (texts [c.accessMode.name]) ++
    always "resources" (mapping (always "requests" (mapping (always "storage" c.size)))) ++
    optional "selector" matching c.selector ++
    optional "storageClassName" text c.storageClass

/-- A claim is written in full inside a controller too. -/
def Claim.document (c : Claim) : Document :=
  mapping <| header "v1" "PersistentVolumeClaim" ++
    always "metadata" c.metadata.document ++ always "spec" (mapping c.specFields)

def strategyDocument (s : Strategy) : Document := mapping (always "type" s.name)

/-- The fields of a deployment config's spec, with those of the template as they are given. -/
def deploymentConfigFields (replicas : Option Int) (selector : Dict String) (strategy : Strategy)
    (template : List (String × Document)) (triggers : List String) : List (String × Document) :=
  optional "replicas" integer replicas ++
    (if selector.isEmpty then [] else always "selector" (dict selector)) ++
    always "strategy" (strategyDocument strategy) ++ template ++
    unlessEmpty "triggers" (fun t : String => mapping (always "type" t)) triggers

/-- The fields of a controller's spec. -/
def Controller.specFields (c : Controller) : List (String × Document) :=
  let selector :=
    always "selector" (if c.selector.isEmpty then mapping [] else matching c.selector)
  let template := always "template" c.template.document
  match c.form with
  | .deployment replicas strategy =>
    optional "replicas" integer replicas ++ selector ++
      optional "strategy" strategyDocument strategy ++ template
  | .statefulSet replicas serviceName claims =>
    optional "replicas" integer replicas ++ selector ++ always "serviceName" serviceName ++
      template ++ unlessEmpty "volumeClaimTemplates" Claim.document claims
  | .daemonSet => selector ++ template
  | .deploymentConfig replicas strategy triggers =>
    deploymentConfigFields replicas c.selector strategy template triggers

/-- What is there of the spec of a controller without a template. -/
def SpeclessKind.bodyFields : SpeclessKind → List (String × Document)
  | deploymentConfig replicas selector strategy triggers =>
    always "spec" (mapping (deploymentConfigFields replicas selector strategy [] triggers))
  | deployment | statefulSet | daemonSet => []

def ServicePort.document (p : ServicePort) : Document :=
  mapping <|
    always "name" p.name ++
    always "port" (integer p.port) ++
    optional "protocol" text p.protocol ++
    optional "targetPort" integer p.targetPort

def ClusterService.specFields (s : ClusterService) : List (String × Document) :=
  optional "clusterIP" text s.clusterIp ++
    always "ports" (list ServicePort.document s.ports) ++
    always "selector" (dict s.selector) ++
    optional "type" text s.serviceType

def UtilizationMetric.document (m : UtilizationMetric) : Document :=
  let target :=
    mapping (always "averageUtilization" (integer m.utilization) ++ always "type" "Utilization")
  mapping <|
    always "resource" (mapping (always "name" m.resource ++ always "target" target)) ++
    always "type" "Resource"

def Autoscaler.specFields (a : Autoscaler) : List (String × Document) :=
  always "maxReplicas" (integer a.maxReplicas) ++
    unlessEmpty "metrics" UtilizationMetric.document a.metrics ++
    always "minReplicas" (integer a.minReplicas) ++
    always "scaleTargetRef" (mapping <|
      always "apiVersion" a.target.apiVersion ++ always "kind" a.target.kind ++
        always "name" a.target.name)

def NetworkPolicy.specFields (p : NetworkPolicy) : List (String × Document) :=
  let peer (labels : Dict String) := mapping (always "podSelector" (matching labels))
  always "ingress" (sequence [mapping (always "from" (list peer p.peers))]) ++
    always "podSelector" (matching p.selector)

namespace Object

/-- The fields behind version and kind. -/
def bodyFields (o : Object) : List (String × Document) :=
  let metadata := always "metadata" o.metadata.document
  match o with
  | controller c => metadata ++ always "spec" (mapping c.specFields)
  | specless k _ => metadata ++ k.bodyFields
  | pod p => metadata ++ optional "spec" PodSpec.document p.spec
  | service s => metadata ++ always "spec" (mapping s.specFields)
  | claim c => metadata ++ always "spec" (mapping c.specFields)
  | configMap m => optional "data" dict m.data ++ metadata
  | autoscaler a => metadata ++ always "spec" (mapping a.specFields)
  | networkPolicy p => metadata ++ always "spec" (mapping p.specFields)

def document (o : Object) : Document := mapping (header o.apiVersion o.kind ++ o.bodyFields)

end Object

end Manifests
