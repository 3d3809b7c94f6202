import Manifests.Object.Metadata

/-! Objects that set the number of a workload's pods. -/

namespace Manifests

structure ScaleTarget where
  apiVersion : String
  kind : String
  name : String
deriving DecidableEq

/-- A share of a resource, in percent, that the pods should use on average. -/
structure UtilizationMetric where
  resource : String
  utilization : Int
deriving DecidableEq

structure Autoscaler where
  metadata : Metadata
  target : ScaleTarget
  minReplicas : Int
  maxReplicas : Int
  metrics : List UtilizationMetric
deriving DecidableEq

end Manifests
