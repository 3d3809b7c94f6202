import Manifests.Text.Casing
import Manifests.Text.Quoted

/-! The choices for one conversion. -/

namespace Manifests

inductive ControllerChoice where
  | deployment
  | daemonSet
  | statefulSet
deriving DecidableEq

inductive Provider where
  | kubernetes
  | openShift
deriving DecidableEq

/-- What declared volumes turn into. -/
inductive VolumeMode where
  | claim
  | emptyDir
  | hostPath
  | configMap
deriving DecidableEq

structure Options where
  controller : Option ControllerChoice := none
  provider : Provider := .kubernetes
  /-- `label` or `volume`; anything else leaves services alone. -/
  groupMode : Option String := none
  volumes : VolumeMode := .claim
  networkPolicies : Bool := false
  claimSize : String := "100Mi"
  namespaceName : Option String := none
deriving DecidableEq

def lowered (s : String) : String := .ofList (Text.lower s.toList)

namespace ControllerChoice

def name : ControllerChoice → String
  | deployment => "deployment"
  | daemonSet => "daemonset"
  | statefulSet => "statefulset"

def all : List ControllerChoice := [deployment, daemonSet, statefulSet]

/-- Reads a controller in any case of letters, or names the text it does not know. -/
def parse (s : String) : Except String ControllerChoice :=
  match all.find? (·.name = lowered s) with
  | some c => .ok c
  | none => .error ("unknown controller " ++ Text.quoted (lowered s))

end ControllerChoice

namespace Provider

def name : Provider → String
  | kubernetes => "kubernetes"
  | openShift => "openshift"

def parse (s : String) : Except String Provider :=
  match lowered s with
  | "kubernetes" | "k8s" => .ok kubernetes
  | "openshift" => .ok openShift
  | other => .error ("unknown provider " ++ Text.quoted other)

end Provider

namespace VolumeMode

def name : VolumeMode → String
  | claim => "persistentVolumeClaim"
  | emptyDir => "emptyDir"
  | hostPath => "hostPath"
  | configMap => "configMap"

def all : List VolumeMode := [claim, emptyDir, hostPath, configMap]

def parse (s : String) : Except String VolumeMode :=
  match all.find? (·.name = s) with
  | some m => .ok m
  | none => .error ("unknown volume type " ++ Text.quoted s)

end VolumeMode

end Manifests
