import Manifests.Object.Metadata

/-! Storage that pods ask for, and files that they are given. -/

namespace Manifests

inductive AccessMode where
  | readOnlyMany
  | readWriteMany
  | readWriteOncePod
  | readWriteOnce
deriving DecidableEq

def AccessMode.name : AccessMode → String
  | readOnlyMany => "ReadOnlyMany"
  | readWriteMany => "ReadWriteMany"
  | readWriteOncePod => "ReadWriteOncePod"
  | readWriteOnce => "ReadWriteOnce"

structure Claim where
  metadata : Metadata
  accessMode : AccessMode
  size : String
  selector : Option (Dict String)
  storageClass : Option String
deriving DecidableEq

structure ConfigMap where
  metadata : Metadata
  data : Option (Dict String)
deriving DecidableEq

end Manifests
