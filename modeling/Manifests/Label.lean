import Manifests.Name
import Manifests.Options

/-! The labels that tie objects together or steer a conversion. -/

namespace Manifests

namespace Label

/-- Labels that begin like this steer the conversion and are not passed on. -/
def reserved : String := "kubeforge."

def service : String := "kubeforge.service"
def network : String := "kubeforge.network/"
def volume : String := "kubeforge.volume"
def group : String := "kubeforge.service.group"
def serviceAccount : String := "kubeforge.serviceaccount-name"
def initImage : String := "kubeforge.init.containers.image"
def initName : String := "kubeforge.init.containers.name"
def initCommand : String := "kubeforge.init.containers.command"
def minReplicas : String := "kubeforge.hpa.replicas.min"
def maxReplicas : String := "kubeforge.hpa.replicas.max"
def cpu : String := "kubeforge.hpa.cpu"
def memory : String := "kubeforge.hpa.memory"

end Label

/-- The labels by which a workload finds its pods. -/
def selectorLabels (name : String) : Dict String := .singleton Label.service name

def networkLabel (network : String) : String := Label.network ++ resourceName network

/-- The labels of a workload's pods: with network policies, one for each of its networks too. -/
def podLabels (name : String) (networks : List String) (opt : Options) : Dict String :=
  if opt.networkPolicies then
    (selectorLabels name).insertAll (networks.map fun n => (networkLabel n, "true"))
  else selectorLabels name

end Manifests
