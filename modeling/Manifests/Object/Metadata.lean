import Manifests.Dict

/-! What every object carries. -/

namespace Manifests

structure Metadata where
  name : Option String := none
  /-- What a cluster makes a name from, where an object has none of its own. -/
  generateName : Option String := none
  namespaceName : Option String := none
  labels : Option (Dict String) := none
  annotations : Option (Dict String) := none
deriving DecidableEq

/-- The name of an object, or else what it is made from. -/
def Metadata.anyName (m : Metadata) : String := (m.name.or m.generateName).getD ""

end Manifests
