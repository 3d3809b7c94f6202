import Manifests.Object.Metadata

/-! Objects by which pods are reached. -/

namespace Manifests

structure ServicePort where
  name : String
  port : Int
  targetPort : Option Int := none
  protocol : Option String := none
deriving DecidableEq

/-- A stable address for the pods with the selected labels. -/
structure ClusterService where
  metadata : Metadata
  selector : Dict String
  ports : List ServicePort
  serviceType : Option String := none
  clusterIp : Option String := none
deriving DecidableEq

/-- The pods with the selected labels take traffic from the pods with the labels of a peer. -/
structure NetworkPolicy where
  metadata : Metadata
  selector : Dict String
  peers : List (Dict String)
deriving DecidableEq

end Manifests
