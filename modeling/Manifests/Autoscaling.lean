import Manifests.Label
import Manifests.Object.Autoscaler
import Manifests.Text.Integer

/-! Autoscalers, described by labels. -/

namespace Manifests

structure ScaleValues where
  min : Int
  max : Int
  cpu : Int
  memory : Int
deriving DecidableEq

namespace ScaleValues

def keys : List String := [Label.minReplicas, Label.maxReplicas, Label.cpu, Label.memory]

/-- Some label asks for an autoscaler. -/
def areAsked (labels : Dict String) : Bool := keys.any labels.contains

/-- The number in a label, if it is one and not negative. -/
def ofLabel (labels : Dict String) (key : String) (default : Int) : Int :=
  let value := (labels.get? key).bind fun v => Text.int32? (Text.trim v.toList)
  (value.filter (0 ≤ ·)).getD default

def percentage (labels : Dict String) (key : String) (default : Int) : Int :=
  let value := ofLabel labels key default
  if 1 ≤ value ∧ value ≤ 100 then value else default

/-- The values of the labels; the larger number of pods is never below the smaller. -/
def ofLabels (labels : Dict String) : ScaleValues :=
  let least := ofLabel labels Label.minReplicas 1
  { min := least
    max := Max.max (ofLabel labels Label.maxReplicas 3) least
    cpu := percentage labels Label.cpu 50
    memory := percentage labels Label.memory 70 }

end ScaleValues

/-- The autoscaler of a workload. -/
def autoscaler (name kind apiVersion : String) (labels : Dict String) : Autoscaler :=
  let values := ScaleValues.ofLabels labels
  { metadata := { name := some name, labels := some (selectorLabels name) }
    target := { apiVersion, kind, name }
    minReplicas := values.min
    maxReplicas := values.max
    metrics :=
      [⟨"cpu", values.cpu⟩, ⟨"memory", values.memory⟩].filter (0 < ·.utilization) }

end Manifests
