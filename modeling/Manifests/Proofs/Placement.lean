import Manifests.PodStep
import Manifests.Proofs.PodRuns
import Manifests.Proofs.Text

/-! Placement constraints as they are written, and what is read from them: all constraints of a list
are found again, whatever white space stands in them and whatever other texts stand between them. -/
namespace Manifests.Placement

/-- A text with nothing in it that could be taken for an operator or for white space. -/
def IsWord (s : String) : Prop :=
  ∀ c ∈ s.toList, c ≠ '=' ∧ c ≠ '!' ∧ Text.isBlank c = false

abbrev Word : Type := { s : String // IsWord s }

/-- The characters are those of the word, perhaps with white space around them. -/
def IsSpaced (w : String) (s : List Char) : Prop :=
  ∃ front back, s = front ++ w.toList ++ back ∧
    (∀ c ∈ front, Text.isBlank c) ∧ ∀ c ∈ back, Text.isBlank c

/-- What a constraint can be about. -/
inductive NodeKey where
  | hostname
  | role
  | engineSystem
  | platformSystem
  | architecture
  /-- A label of the nodes. -/
  | label (name : Word)

def NodeKey.spelling : NodeKey → String
  | hostname => "node.hostname"
  | role => "node.role"
  | engineSystem => "engine.labels.operatingsystem"
  | platformSystem => "node.platform.os"
  | architecture => "node.platform.arch"
  | label name => "node.labels." ++ name

/-- The label under which the cluster knows it. -/
def NodeKey.nodeLabel : NodeKey → String
  | hostname => "kubernetes.io/hostname"
  | role => "node-role.kubernetes.io/role"
  | engineSystem | platformSystem => "kubernetes.io/os"
  | architecture => "kubernetes.io/arch"
  | label name => name

/-- The key of a node has the value, or has it not. -/
structure NodeConstraint where
  key : NodeKey
  membership : Membership
  value : Word

namespace NodeConstraint

variable (k : NodeConstraint)

def operator : List Char :=
  match k.membership with
  | .among => ['=', '=']
  | .notAmong => ['!', '=']

/-- The text is the constraint's key, operator and value, perhaps with white space around each. -/
def IsSpelled (text : String) : Prop :=
  ∃ left right, text.toList = left ++ k.operator ++ right ∧
    IsSpaced k.key.spelling left ∧ IsSpaced k.value right

def requirement : NodeRequirement := ⟨k.key.nodeLabel, k.membership, k.value⟩

/-- The requirement in the cluster's words. -/
def expression : Document :=
  let operator := match k.membership with | .among => "In" | .notAmong => "NotIn"
  .mapping [("key", .text k.key.nodeLabel), ("operator", .text operator),
    ("values", .sequence [.text k.value])]

end NodeConstraint

/-- The texts spell these constraints, in this order; others that stand among them have no
operator. -/
inductive Renders : List NodeConstraint → List String → Prop
  | nil : Renders [] []
  | constraint {k : NodeConstraint} {ks : List NodeConstraint} {text : String} {texts : List String}
      (h : k.IsSpelled text) (hs : Renders ks texts) : Renders (k :: ks) (text :: texts)
  | other {ks : List NodeConstraint} {text : String} {texts : List String}
      (hequal : ¬['=', '='] <:+: text.toList) (hunequal : ¬['!', '='] <:+: text.toList)
      (hs : Renders ks texts) : Renders ks (text :: texts)

/-- What must hold of a node, in one term. -/
def requiredTerm (expressions : List Document) : Document :=
  let term := Document.mapping [("matchExpressions", .sequence expressions)]
  .mapping [("nodeAffinity", .mapping [("requiredDuringSchedulingIgnoredDuringExecution",
    .mapping [("nodeSelectorTerms", .sequence [term])])])]

section Keys

theorem nodeLabel?_spelling (key : NodeKey) :
    nodeLabel? key.spelling.toList = some key.nodeLabel := by
  cases key with
  | label name =>
    have hne : ∀ other : String, Text.after? "node.labels.".toList other.toList = none →
        "node.labels." ++ name.val ≠ other := by
      rintro other hother rfl
      rw [String.toList_append, after?_eq_some.2 rfl] at hother
      cases hother
    have hafter : Text.after? "node.labels.".toList ("node.labels." ++ name.val).toList =
        some name.val.toList := by
      rw [String.toList_append, after?_eq_some]
    rw [NodeKey.spelling, nodeLabel?, String.ofList_toList]
    split
    case h_6 =>
      rw [hafter, Option.map_some, String.ofList_toList]
      rfl
    all_goals
      rename_i heq
      exact absurd heq (hne _ rfl)
  | hostname | role | engineSystem | platformSystem | architecture => rfl

theorem isWord_of_all {s : String}
    (h : s.toList.all fun c => c != '=' && c != '!' && !Text.isBlank c) : IsWord s := by
  intro c hc
  simpa [and_assoc] using List.all_eq_true.1 h c hc

theorem isWord_spelling (key : NodeKey) : IsWord key.spelling := by
  cases key with
  | label name =>
    have hfront : IsWord "node.labels." := isWord_of_all rfl
    intro c hc
    rw [NodeKey.spelling, String.toList_append, List.mem_append] at hc
    exact hc.elim (hfront c) (name.property c)
  | hostname | role | engineSystem | platformSystem | architecture => exact isWord_of_all rfl

end Keys

section Spaces

variable {w : String} {s : List Char} {d : Char}

theorem IsSpaced.trim_eq (hs : IsSpaced w s) (hw : IsWord w) : Text.trim s = w.toList := by
  obtain ⟨front, back, rfl, hfront, hback⟩ := hs
  exact trimWhere_word hfront (fun c hc => (hw c hc).2.2) hback

/-- No operator begins in a word or in the white space around it. -/
theorem IsSpaced.notMem (hs : IsSpaced w s) (hw : IsWord w) (hd : d = '=' ∨ d = '!') : d ∉ s := by
  obtain ⟨front, back, rfl, hfront, hback⟩ := hs
  have hvisible : Text.isBlank d = false := by
    rcases hd with rfl | rfl <;> decide
  rw [List.mem_append, List.mem_append, not_or, not_or]
  refine ⟨⟨notMem_of_forall hvisible hfront, fun hmem => ?_⟩, notMem_of_forall hvisible hback⟩
  rcases hd with rfl | rfl
  · exact (hw _ hmem).1 rfl
  · exact (hw _ hmem).2.1 rfl

end Spaces

section Reading

variable {k : NodeConstraint} {ks : List NodeConstraint} {text : String} {texts : List String}

theorem requirement?_of_isSpelled (h : k.IsSpelled text) :
    requirement? text = some k.requirement := by
  obtain ⟨left, right, htext, hleft, hright⟩ := h
  have hkey : Text.trim left = k.key.spelling.toList := hleft.trim_eq (isWord_spelling k.key)
  have hvalue : Text.trim right = k.value.val.toList := hright.trim_eq k.value.property
  have hequal : '=' ∉ left := hleft.notMem (isWord_spelling k.key) (.inl rfl)
  have hmark : '!' ∉ left := hleft.notMem (isWord_spelling k.key) (.inr rfl)
  have hmark' : '!' ∉ right := hright.notMem k.value.property (.inr rfl)
  rw [NodeConstraint.requirement, requirement?, htext, NodeConstraint.operator]
  cases k.membership with
  | among =>
    have hnone : '!' ∉ left ++ ['=', '='] ++ right := by
      simp [hmark, hmark']
    rw [cut?_eq_none_of_notMem hnone, cut?_append hequal]
    dsimp only
    rw [hkey, hvalue, nodeLabel?_spelling, Option.map_some, String.ofList_toList]
  | notAmong =>
    rw [cut?_append hmark]
    dsimp only
    rw [hkey, hvalue, nodeLabel?_spelling, Option.map_some, String.ofList_toList]

theorem requirement?_of_no_operator (hequal : ¬['=', '='] <:+: text.toList)
    (hunequal : ¬['!', '='] <:+: text.toList) : requirement? text = none := by
  rw [requirement?, cut?_eq_none_iff.2 hequal, cut?_eq_none_iff.2 hunequal]

theorem filterMap_of_renders (h : Renders ks texts) :
    texts.filterMap requirement? = ks.map NodeConstraint.requirement := by
  induction h with
  | nil => rfl
  | constraint h _ ih =>
    rw [List.filterMap_cons_some (requirement?_of_isSpelled h), ih, List.map_cons]
  | other hequal hunequal _ ih =>
    rw [List.filterMap_cons_none (requirement?_of_no_operator hequal hunequal), ih]

/-- The constraints in the order in which they are required. -/
def required (ks : List NodeConstraint) : List NodeConstraint :=
  ks.filter (·.membership = .among) ++ ks.filter (·.membership = .notAmong)

theorem required_eq_nil_iff : required ks = [] ↔ ks = [] := by
  rw [required, List.append_eq_nil_iff, List.filter_eq_nil_iff, List.filter_eq_nil_iff]
  constructor
  · rintro ⟨hnotAmong, hamong⟩
    apply List.eq_nil_iff_forall_not_mem.2
    intro k hk
    cases hmembership : k.membership with
    | among => exact hnotAmong k hk (decide_eq_true hmembership)
    | notAmong => exact hamong k hk (decide_eq_true hmembership)
  · rintro rfl
    exact ⟨List.forall_mem_nil _, List.forall_mem_nil _⟩

theorem affinity_of_renders {p : Placement} (h : Renders ks p.constraints) :
    p.affinity = (required ks).map NodeConstraint.requirement := by
  rw [affinity, filterMap_of_renders h, List.filter_map, List.filter_map, ← List.map_append]
  rfl

theorem document_requirement (k : NodeConstraint) : k.requirement.document = k.expression := by
  obtain ⟨key, membership, value⟩ := k
  cases membership <;> rfl

theorem affinityDocument_required : affinityDocument (ks.map NodeConstraint.requirement) =
    requiredTerm (ks.map NodeConstraint.expression) := by
  have hexpressions : (ks.map NodeConstraint.requirement).map NodeRequirement.document =
      ks.map NodeConstraint.expression := by
    rw [List.map_map]
    exact List.map_congr_left fun k _ => document_requirement k
  rw [affinityDocument, Document.list, hexpressions]
  rfl

end Reading

section Step

variable {ctx : PodStep.Context} {spec : PodSpec} {ks : List NodeConstraint}

theorem mem_fields_affinity {value : Document} : ("affinity", value) ∈ spec.document.fields ↔
    spec.affinity ≠ [] ∧ value = affinityDocument spec.affinity := by
  simp [PodSpec.document, Document.fields, Document.mem_optional, Document.mem_always,
    Document.mem_unlessEmpty, Document.mem_flag]

/-- The constraints that the texts of a service spell are required of the nodes, those that must
hold before those that must not, and nothing else is. What is written is one term with all of them,
or nothing if there are none. -/
theorem affinity_apply (h : Renders ks ctx.service.placement.constraints)
    (hspec : spec.affinity = []) :
    ∃ done, PodStep.affinity.apply ctx spec = .ok done ∧
      done = { spec with affinity := (required ks).map NodeConstraint.requirement } ∧
      (done.affinity = [] ↔ ks = []) ∧
      ∀ value, ("affinity", value) ∈ done.document.fields ↔
        ks ≠ [] ∧ value = requiredTerm ((required ks).map NodeConstraint.expression) := by
  refine ⟨{ spec with affinity := (required ks).map NodeConstraint.requirement }, ?_, rfl, ?_, ?_⟩
  · rw [PodStep.apply, affinity_of_renders h]
    split
    · rename_i hnil
      rw [hnil, ← hspec]
    · rfl
  · rw [List.map_eq_nil_iff, required_eq_nil_iff]
  · intro value
    rw [mem_fields_affinity, affinityDocument_required, ne_eq, List.map_eq_nil_iff,
      required_eq_nil_iff]

/-- Two constraints, the later of which is required first, and a text without an operator. -/
def placedService : Service where
  placement :=
    { constraints := [" node.labels.disk != hdd", "node.id = 42", "node.role==\tmanager"] }

def placedConstraints : List NodeConstraint :=
  [⟨.label ⟨"disk", isWord_of_all rfl⟩, .notAmong, ⟨"hdd", isWord_of_all rfl⟩⟩,
    ⟨.role, .among, ⟨"manager", isWord_of_all rfl⟩⟩]

theorem renders_placed : Renders placedConstraints placedService.placement.constraints := by
  have hblank : ∀ e ∈ [' '], Text.isBlank e := List.forall_mem_singleton.2 rfl
  have htab : ∀ e ∈ ['\t'], Text.isBlank e := List.forall_mem_singleton.2 rfl
  have hnone : ∀ e ∈ [], Text.isBlank e := List.forall_mem_nil _
  have hdisk : placedConstraints[0].IsSpelled " node.labels.disk != hdd" := by
    refine ⟨" node.labels.disk ".toList, " hdd".toList, rfl, ⟨[' '], [' '], ?_, hblank, hblank⟩,
      ⟨[' '], [], rfl, hblank, hnone⟩⟩
    change _ = [' '] ++ ("node.labels." ++ "disk").toList ++ [' ']
    rw [String.toList_append]
    rfl
  have hrole : placedConstraints[1].IsSpelled "node.role==\tmanager" :=
    ⟨"node.role".toList, "\tmanager".toList, rfl, ⟨[], [], rfl, hnone, hnone⟩,
      ⟨['\t'], [], rfl, htab, hnone⟩⟩
  have hother : ∀ d, Text.cut? [d, '='] "node.id = 42".toList = none →
      ¬[d, '='] <:+: "node.id = 42".toList :=
    fun _ => cut?_eq_none_iff.1
  exact .constraint hdisk (.other (hother _ rfl) (hother _ rfl) (.constraint hrole .nil))

theorem affinity_apply_placed : ∃ done,
    PodStep.affinity.apply ⟨placedService, "web"⟩ {} = .ok done ∧
    done.affinity = [⟨"node-role.kubernetes.io/role", .among, "manager"⟩,
      ⟨"disk", .notAmong, "hdd"⟩] := by
  let ctx : PodStep.Context := ⟨placedService, "web"⟩
  have hrenders : Renders placedConstraints ctx.service.placement.constraints := renders_placed
  have hspec : ({} : PodSpec).affinity = [] := rfl
  obtain ⟨done, hdone, rfl, _⟩ := affinity_apply hrenders hspec
  exact ⟨_, hdone, rfl⟩

end Step

end Manifests.Placement
