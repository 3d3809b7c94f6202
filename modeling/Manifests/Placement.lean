import Manifests.Label
import Manifests.Object.Pod

/-! The nodes on which the pods of a service may run. -/

namespace Manifests

namespace Placement

/-- The node label behind a key of a constraint or preference. -/
def nodeLabel? (key : List Char) : Option String :=
  match String.ofList key with
  | "node.hostname" => some "kubernetes.io/hostname"
  | "node.role" => some "node-role.kubernetes.io/role"
  | "engine.labels.operatingsystem" | "node.platform.os" => some "kubernetes.io/os"
  | "node.platform.arch" => some "kubernetes.io/arch"
  | _ => (Text.after? "node.labels.".toList key).map .ofList

/-- Reads `key != value` or `key == value`; a text with both is cut at the first `!=`. -/
def requirement? (constraint : String) : Option NodeRequirement :=
  let read (membership : Membership) (parts : List Char × List Char) : Option NodeRequirement :=
    (nodeLabel? (Text.trim parts.1)).map fun key =>
      ⟨key, membership, .ofList (Text.trim parts.2)⟩
  match Text.cut? ['!', '='] constraint.toList, Text.cut? ['=', '='] constraint.toList with
  | some parts, _ => read .notAmong parts
  | none, some parts => read .among parts
  | none, none => none

/-- What must hold of a node comes before what must not. -/
def affinity (p : Placement) : List NodeRequirement :=
  let requirements := p.constraints.filterMap requirement?
  requirements.filter (·.membership = .among) ++ requirements.filter (·.membership = .notAmong)

def spreadKeys (p : Placement) : List String :=
  p.preferences.filterMap fun preference =>
    (Text.after? "spread=".toList preference.toList).bind fun key => nodeLabel? (Text.trim key)

/-- One constraint for each key, the earlier with more room. -/
def spread (p : Placement) (workload : String) : List SpreadConstraint :=
  p.spreadKeys.zipIdx.map fun (topologyKey, i) =>
    { topologyKey, maxSkew := (p.spreadKeys.length : Int) - i, selector := selectorLabels workload }

end Placement

end Manifests
