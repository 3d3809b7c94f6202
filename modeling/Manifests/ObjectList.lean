import Manifests.FirstWins
import Manifests.Object.Basic

/-! Lists of objects. -/

namespace Manifests

def Metadata.inNamespace (name : String) (m : Metadata) : Metadata :=
  { m with namespaceName := some name }

namespace ObjectList

/-- The first object of each key. -/
def distinct (objects : List Object) : List Object := firstOfEach Object.key objects

/-- Services before all else, each part in its order. -/
def servicesFirst (objects : List Object) : List Object :=
  objects.filter Object.isService ++ objects.filter (!Object.isService ·)

def inNamespace (name : String) (objects : List Object) : List Object :=
  objects.map (Object.mapMetadata (Metadata.inNamespace name))

def workload? (name : String) (objects : List Object) : Option Object :=
  objects.find? fun o => o.isWorkload && o.name = name

end ObjectList

end Manifests
