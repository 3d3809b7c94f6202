import Manifests.Label
import Manifests.Object.Claim
import Manifests.Object.Pod

/-! The environment of a service's container. -/

namespace Manifests

namespace Service

variable (s : Service)

/-- For each variable of the environment files, the map of the last file that sets it. -/
def fileReferences : Dict EnvValue :=
  s.envFiles.foldl
    (fun d f => d.insertAll
      (f.values.keys.map fun key => (key, .reference (envMapName f.path s.name) key))) ∅

/-- Literal values come before the values of files. -/
def envValues : Dict EnvValue :=
  s.fileReferences.union (s.environment.map fun _ value => .literal value)

def envVars : List EnvVar := s.envValues.entries.map fun (name, value) => ⟨name, value⟩

/-- One config map for each environment file, whatever it holds. -/
def envMaps : List ConfigMap :=
  s.envFiles.map fun f =>
    { metadata :=
        { name := some (envMapName f.path s.name), labels := some (selectorLabels s.name) }
      data := some f.values }

end Service

end Manifests
