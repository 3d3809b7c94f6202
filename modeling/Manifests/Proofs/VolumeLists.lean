import Manifests.Object.Manifest
import Manifests.Proofs.SharedClaims

/-! The lists that the declared volumes of a service turn into, entry by entry. -/
namespace Manifests

/-- The lists that declared volumes are turned into. -/
structure VolumeLists where
  mounts : List VolumeMount := []
  volumes : List Volume := []
  claims : List Claim := []
  configMaps : List ConfigMap := []

namespace VolumeLists

/-- One volume more, in all lists where it appears. -/
def push (made : VolumeLists) (p : ProvidedVolume) : VolumeLists where
  mounts := made.mounts ++ [p.mount]
  volumes := made.volumes ++ [p.volume]
  claims := made.claims ++ p.claim.toList
  configMaps := made.configMaps ++ p.configMap.toList

/-- Mounts and volumes side by side. -/
def pairs (made : VolumeLists) : List (VolumeMount × Volume) := made.mounts.zip made.volumes

end VolumeLists

/-- What becomes of the declared volumes of a service. -/
def Service.volumeLists (s : Service) (workload : String) (opt : Options) : VolumeLists where
  mounts := (s.providedVolumes workload opt).map (·.mount)
  volumes := (s.providedVolumes workload opt).map (·.volume)
  claims := (s.providedVolumes workload opt).filterMap (·.claim)
  configMaps := (s.providedVolumes workload opt).filterMap (·.configMap)

namespace Volume

def isConfigMap (v : Volume) : Bool :=
  match v.source with
  | .configMap .. => true
  | _ => false

/-- The fields that say what a volume is made of, as they are written. -/
def sourceFields (v : Volume) : List String :=
  match v.document with
  | .mapping fields => (fields.map Prod.fst).filter (· ≠ "name")
  | _ => []

theorem sourceFields_eq (v : Volume) :
    ∃ field ∈ ["configMap", "emptyDir", "hostPath", "persistentVolumeClaim"],
      v.sourceFields = [field] := by
  rcases v with ⟨name, source⟩
  cases source with
  | emptyDir medium => exact ⟨"emptyDir", by decide, rfl⟩
  | hostPath path => exact ⟨"hostPath", by decide, rfl⟩
  | configMap map item => exact ⟨"configMap", by decide, rfl⟩
  | claim claim readOnly => exact ⟨"persistentVolumeClaim", by decide, rfl⟩

end Volume

/-- A mount and a volume as a declaration asks for them. -/
structure DeclaredVolume.Makes (d : DeclaredVolume) (m : VolumeMount) (v : Volume) : Prop where
  name : m.name = v.name
  path : m.path = d.container
  source : ∃ field ∈ ["configMap", "emptyDir", "hostPath", "persistentVolumeClaim"],
    v.sourceFields = [field]
  readOnly : m.readOnly = some true ↔
    d.mode = some "ro" ∨ d.mode = some "rox" ∨ (v.isConfigMap ∧ d.config.isSome)

/-- The claim of a volume: all three of them are for reading only, or none is. -/
structure Claim.Backs (c : Claim) (m : VolumeMount) (v : Volume) : Prop where
  name : (Object.claim c).name = v.name
  source : ∃ r, v.source = .claim v.name r ∧ (m.readOnly = some true ↔ r) ∧
    (r ↔ c.accessMode = .readOnlyMany)

/-- The content of a declared volume is one file. -/
def DeclaredVolume.IsSingleFile (d : DeclaredVolume) : Prop :=
  ∃ content, d.config = some content ∧ content.isDir = false ∧ content.files.size = 1

/-- The config map of a volume. One file is taken from it by its key, under the name that the mount
has for it. -/
structure ConfigMap.Backs (c : ConfigMap) (d : DeclaredVolume) (m : VolumeMount) (v : Volume) :
    Prop where
  name : (Object.configMap c).name = v.name
  source : ∃ item, v.source = .configMap v.name item ∧ (item.isSome ↔ d.IsSingleFile) ∧
    m.subPath = item.map (·.2) ∧
    ∀ key file, item = some (key, file) → ∃ data, c.data = some data ∧ data.contains key

/-- The lists are in step with the declarations that they come from, and with each other. -/
structure InStep (kept : List DeclaredVolume) (made : VolumeLists) : Prop where
  length_mounts : made.mounts.length = kept.length
  length_volumes : made.volumes.length = kept.length
  entries : List.Forall₂ (fun d e => d.Makes e.1 e.2) kept made.pairs
  claims : List.Forall₂ (fun c e => c.Backs e.1 e.2) made.claims
    (made.pairs.filter fun e => WorkloadUnit.isClaim e.2)
  configMaps : List.Forall₂ (fun c e => c.Backs e.1 e.2.1 e.2.2) made.configMaps
    ((kept.zip made.pairs).filter fun e => e.2.2.isConfigMap)

variable {s : Service} {workload : String} {opt : Options} {d : DeclaredVolume} {i : Nat}
  {kept : List DeclaredVolume} {made : VolumeLists} {p : ProvidedVolume}

theorem ConfigContent.isSome_singleKey? {c : ConfigContent} :
    c.singleKey?.isSome ↔ c.isDir = false ∧ c.files.size = 1 := by
  have hsize : c.files.size = c.files.keys.length := (List.length_map _).symm
  rw [singleKey?, hsize]
  rcases c.isDir with _ | _ <;> rcases c.files.keys with _ | ⟨file, _ | ⟨file', files⟩⟩ <;> simp

/-- The key of the one file is in the config map, whatever the file is called. -/
theorem ConfigContent.contains_data {c : ConfigContent} {key : String}
    (h : c.singleKey? = some key) : c.data.contains key := by
  rw [singleKey?] at h
  split at h
  · rename_i hkeys
    obtain rfl := Option.some.inj h
    obtain ⟨⟨file, body⟩, hfiles, rfl⟩ := List.map_eq_singleton_iff.1 hkeys
    have hdata : c.data = .singleton (fileKey file) body := by rw [data, hfiles]; rfl
    rw [hdata, Dict.contains, Dict.get?_singleton, if_pos rfl, Option.isSome_some]
  · cases h

/-- What has a key is written. -/
theorem ConfigContent.data_configMap {c : ConfigContent} {key name label : String}
    (h : c.data.contains key) : (c.configMap name label).data = some c.data := by
  refine if_neg fun hempty => ?_
  have hentries : c.data.entries = [] := List.isEmpty_iff.1 hempty
  rw [Dict.contains, Dict.get?, hentries] at h
  cases h

namespace DeclaredVolume

/-- The mount of a declared volume, but for the files of config maps. -/
def mountAs (d : DeclaredVolume) (name : String) : VolumeMount where
  name := name
  path := d.container
  readOnly := if d.isReadOnly then some true else none

/-- The one file of a declared volume: its key in the config map, and the name of the mount. -/
def item? (d : DeclaredVolume) : Option (String × String) :=
  (d.config.getD {}).singleKey?.map fun key => (key, baseName d.container)

/-- What can become of a declared volume. -/
inductive Becomes (d : DeclaredVolume) : ProvidedVolume → Prop
  | directory {name : String} {medium : Option String} :
    d.Becomes { mount := d.mountAs name, volume := ⟨name, .emptyDir medium⟩ }
  | hosted {name host : String} :
    d.Becomes { mount := d.mountAs name, volume := ⟨name, .hostPath host⟩ }
  | mapped {name label : String} :
    d.Becomes
      { mount :=
          { d.mountAs name with
            subPath := d.item?.map (·.2)
            readOnly := if d.config.isSome then some true else (d.mountAs name).readOnly }
        volume := ⟨name, .configMap name d.item?⟩
        configMap := some ((d.config.getD {}).configMap name label) }
  | claimed {name : String} {opt : Options} :
    d.Becomes
      { mount := d.mountAs name
        volume := ⟨name, .claim name d.isReadOnly⟩
        claim := some (d.claimNamed name opt) }

theorem becomes_provide : d.Becomes (s.provide workload opt d i) := by
  rw [Service.provide]
  split
  · exact .directory
  · split
    · exact .hosted
    · exact .directory
  · exact .mapped
  · exact .claimed

theorem isSome_item? : d.item?.isSome ↔ d.IsSingleFile := by
  rw [item?, Option.isSome_map, ConfigContent.isSome_singleKey?, IsSingleFile]
  cases d.config with
  | none => exact iff_of_false (by decide) fun ⟨_, hnone, _⟩ => nomatch hnone
  | some content => simp

theorem readOnly_mountAs (name : String) : (d.mountAs name).readOnly = some true ↔
    d.mode = some "ro" ∨ d.mode = some "rox" := by
  simp [mountAs, isReadOnly, or_iff_not_imp_left]

namespace Becomes

theorem readOnly (h : d.Becomes p) : p.mount.readOnly = some true ↔
    d.mode = some "ro" ∨ d.mode = some "rox" ∨ (p.volume.isConfigMap ∧ d.config.isSome) := by
  rw [← or_assoc, ← readOnly_mountAs p.volume.name]
  cases h with
  | directory | hosted | claimed => simp [Volume.isConfigMap]
  | mapped => by_cases hconfig : d.config.isSome <;> simp [Volume.isConfigMap, hconfig]

theorem makes (h : d.Becomes p) : d.Makes p.mount p.volume where
  name := by cases h <;> rfl
  path := by cases h <;> rfl
  source := p.volume.sourceFields_eq
  readOnly := h.readOnly

theorem isSome_claim (h : d.Becomes p) : p.claim.isSome = WorkloadUnit.isClaim p.volume := by
  cases h <;> rfl

theorem isSome_configMap (h : d.Becomes p) : p.configMap.isSome = p.volume.isConfigMap := by
  cases h <;> rfl

theorem claim_backs {c : Claim} (h : d.Becomes p) (hc : p.claim = some c) :
    c.Backs p.mount p.volume := by
  cases h with
  | directory | hosted | mapped => cases hc
  | claimed =>
    cases hc
    refine ⟨rfl, d.isReadOnly, rfl, ?_, ofMode_eq_readOnlyMany.symm⟩
    rw [readOnly_mountAs]
    simp [isReadOnly]

theorem configMap_backs {c : ConfigMap} (h : d.Becomes p) (hc : p.configMap = some c) :
    c.Backs d p.mount p.volume := by
  cases h with
  | directory | hosted | claimed => cases hc
  | mapped =>
    cases hc
    refine ⟨rfl, d.item?, rfl, isSome_item?, rfl, fun key file hitem => ?_⟩
    obtain ⟨key, hkey, heq⟩ := Option.map_eq_some_iff.1 hitem
    cases heq
    have hcontains := ConfigContent.contains_data hkey
    exact ⟨_, ConfigContent.data_configMap hcontains, hcontains⟩

end Becomes

end DeclaredVolume

/-- What an entry has or has not is taken from it as often as a test says. -/
theorem forall₂_toList {α β : Type} {R : α → β → Prop} {o : Option α} {b : β} {p : β → Bool}
    (hsome : o.isSome = p b) (h : ∀ a, o = some a → R a b) :
    List.Forall₂ R o.toList ([b].filter p) := by
  cases o with
  | none =>
    rw [List.filter_cons_of_neg (by simp [← hsome])]
    exact .nil
  | some a =>
    rw [List.filter_cons_of_pos (by simp [← hsome])]
    exact .cons (h a rfl) .nil

theorem pairs_push (h : made.mounts.length = made.volumes.length) :
    (made.push p).pairs = made.pairs ++ [(p.mount, p.volume)] :=
  List.zip_append h

theorem InStep.length_pairs (h : InStep kept made) : made.pairs.length = kept.length := by
  rw [VolumeLists.pairs, List.length_zip, h.length_mounts, h.length_volumes, Nat.min_self]

/-- One declared volume more keeps the lists in step. -/
theorem InStep.push (h : InStep kept made) (hp : d.Becomes p) :
    InStep (kept ++ [d]) (made.push p) := by
  have hpairs : (made.push p).pairs = made.pairs ++ [(p.mount, p.volume)] :=
    pairs_push (h.length_mounts.trans h.length_volumes.symm)
  have hzip : (kept ++ [d]).zip (made.push p).pairs =
      kept.zip made.pairs ++ [(d, p.mount, p.volume)] := by
    rw [hpairs]
    exact List.zip_append h.length_pairs.symm
  constructor
  · simp [VolumeLists.push, h.length_mounts]
  · simp [VolumeLists.push, h.length_volumes]
  · rw [hpairs]
    exact List.rel_append h.entries (.cons hp.makes .nil)
  · rw [hpairs, List.filter_append]
    exact List.rel_append h.claims (forall₂_toList hp.isSome_claim fun _ => hp.claim_backs)
  · rw [hzip, List.filter_append]
    exact List.rel_append h.configMaps
      (forall₂_toList hp.isSome_configMap fun _ => hp.configMap_backs)

namespace VolumeLists

/-- Takes the next declared volume, but no socket. -/
def take (s : Service) (workload : String) (opt : Options) (made : VolumeLists)
    (e : DeclaredVolume × Nat) : VolumeLists :=
  if e.1.isSocket then made else made.push (s.provide workload opt e.1 e.2)

theorem foldl_push {ps : List ProvidedVolume} : ps.foldl push made =
    { mounts := made.mounts ++ ps.map (·.mount)
      volumes := made.volumes ++ ps.map (·.volume)
      claims := made.claims ++ ps.filterMap (·.claim)
      configMaps := made.configMaps ++ ps.filterMap (·.configMap) } := by
  induction ps generalizing made with
  | nil => simp
  | cons p ps ih =>
    rw [List.foldl_cons, ih]
    cases hclaim : p.claim <;> cases hmap : p.configMap <;> simp [push, hclaim, hmap]

/-- The lists are filled one declared volume after the other. -/
theorem volumeLists_eq :
    s.volumeLists workload opt = s.volumes.zipIdx.foldl (take s workload opt) {} := by
  have hlists : s.volumeLists workload opt = (s.providedVolumes workload opt).foldl push {} := by
    simp [foldl_push, Service.volumeLists]
  rw [hlists, Service.providedVolumes, List.foldl_map, List.foldl_filter]
  congr 1
  funext made e
  by_cases hsocket : e.1.isSocket <;> simp [take, hsocket]

end VolumeLists

/-- Every declared volume taken keeps the lists in step. -/
theorem InStep.foldl_take {es : List (DeclaredVolume × Nat)} (h : InStep kept made) :
    InStep (kept ++ (es.map Prod.fst).filter (!·.isSocket))
      (es.foldl (VolumeLists.take s workload opt) made) := by
  induction es generalizing kept made with
  | nil => simpa using h
  | cons e es ih =>
    rw [List.foldl_cons, List.map_cons, VolumeLists.take]
    by_cases hsocket : e.1.isSocket
    · rw [if_pos hsocket, List.filter_cons_of_neg (by simp [hsocket])]
      exact ih h
    · rw [if_neg hsocket, List.filter_cons_of_pos (by simp [hsocket]), List.append_cons]
      exact ih (h.push DeclaredVolume.becomes_provide)

/-- Of every declared volume but sockets there is one mount and one volume, in the order of the
declarations, and each claim and each config map stands behind one of them. -/
theorem volumes_in_step (s : Service) (workload : String) (opt : Options) :
    InStep (s.volumes.filter (!·.isSocket)) (s.volumeLists workload opt) := by
  have hnone : InStep [] {} := ⟨rfl, rfl, .nil, .nil, .nil⟩
  have hrun : InStep ([] ++ (s.volumes.zipIdx.map Prod.fst).filter (!·.isSocket))
      (s.volumes.zipIdx.foldl (VolumeLists.take s workload opt) {}) := hnone.foldl_take
  rwa [List.nil_append, List.zipIdx_map_fst, ← VolumeLists.volumeLists_eq] at hrun

end Manifests
