import Mathlib.Data.List.Forall2
import Manifests.Proofs.Dict
import Manifests.Volumes

/-! Keys of files in config maps. They do not tell underscores from hyphens, so that one file can
take the place of another. -/
namespace Manifests

/-- The same character, or an underscore and a hyphen. -/
def AlikeInKeys (a b : Char) : Prop := a = b ∨ (a = '_' ∨ a = '-') ∧ (b = '_' ∨ b = '-')

/-- Two files whose names, behind their directories, differ in nothing but underscores and
hyphens. -/
structure SharesKey (file file' : String) : Prop where
  ne : file ≠ file'
  alike : List.Forall₂ AlikeInKeys (baseName file).toList (baseName file').toList

namespace ConfigContent

/-- A file is the last one with a key, in the order of the names. -/
structure LastUnder (c : ConfigContent) (key file body : String) : Prop where
  has : c.files.get? file = some body
  named : fileKey file = key
  last : ∀ other, c.files.contains other → fileKey other = key → other ≤ file

/-- The files under their keys, before one takes the place of another. -/
def keyed (c : ConfigContent) : List (String × String) :=
  c.files.entries.map fun e => (fileKey e.1, e.2)

end ConfigContent

namespace ConfigMap

/-- What a config map has, nothing if it has no data. -/
def entries (m : ConfigMap) : Dict String := m.data.getD ∅

/-- A config map has as many entries as there are files, and each file under its key. -/
structure KeepsAll (m : ConfigMap) (c : ConfigContent) : Prop where
  size : m.entries.size = c.files.size
  bodies : ∀ file body, c.files.get? file = some body → m.entries.get? (fileKey file) = some body

end ConfigMap

variable {file file' key body body' : String} {c : ConfigContent} {name label : String}

theorem alikeInKeys_iff {a b : Char} :
    AlikeInKeys a b ↔ (if a = '_' then '-' else a) = if b = '_' then '-' else b := by
  rw [AlikeInKeys]
  by_cases ha : a = '_' <;> by_cases hb : b = '_'
  · simp [ha, hb]
  · simp [ha, hb, Ne.symm hb, eq_comm]
  · simp [ha, hb]
  · simp only [ha, hb, if_false, false_or]
    constructor
    · rintro (h | ⟨rfl, rfl⟩)
      · exact h
      · rfl
    · exact .inl

/-- Keys are the same where nothing but underscores and hyphens differs. -/
theorem fileKey_eq_iff : fileKey file = fileKey file' ↔
    List.Forall₂ AlikeInKeys (baseName file).toList (baseName file').toList := by
  rw [fileKey, fileKey, String.ofList_inj, hyphenated, hyphenated, ← List.forall₂_eq_eq_eq,
    List.forall₂_map_left_iff, List.forall₂_map_right_iff]
  simp only [← alikeInKeys_iff]

theorem nodup_fileKeys_iff : (c.files.keys.map fileKey).Nodup ↔
    ∀ file ∈ c.files.keys, ∀ file' ∈ c.files.keys, ¬ SharesKey file file' := by
  rw [List.nodup_map_iff_inj_on c.files.nodup_keys]
  constructor
  · rintro h file hfile file' hfile' ⟨hne, halike⟩
    exact hne (h file hfile file' hfile' (fileKey_eq_iff.2 halike))
  · intro h file hfile file' hfile' hsame
    by_contra hne
    exact h file hfile file' hfile' ⟨hne, fileKey_eq_iff.1 hsame⟩

theorem entries_configMap : (c.configMap name label).entries = .ofList c.keyed := by
  rw [ConfigMap.entries, ConfigContent.configMap]
  by_cases hempty : c.data.isEmpty
  · rw [if_pos hempty]
    exact Dict.ext_entries (List.isEmpty_iff.1 hempty).symm
  · rw [if_neg hempty]
    rfl

theorem map_fst_keyed : c.keyed.map Prod.fst = c.files.keys.map fileKey := by
  rw [ConfigContent.keyed, Dict.keys, List.map_map, List.map_map]
  rfl

namespace ConfigContent

/-- What is found under a key stands behind all other files with this key. -/
theorem exists_lastUnder (h : (Dict.ofList c.keyed).get? key = some body) :
    ∃ file, c.LastUnder key file body := by
  rw [Dict.get?_ofList] at h
  obtain ⟨behind, before, hsplit, hbehind⟩ := List.lookup_eq_some_iff.1 h
  have hkeyed : c.keyed = before.reverse ++ (key, body) :: behind.reverse := by
    rw [← List.reverse_reverse c.keyed, hsplit]
    simp
  obtain ⟨front, back, hentries, _, hback⟩ := List.map_eq_append_iff.1 hkeyed
  obtain ⟨⟨file, _⟩, rest, rfl, hfile, hrest⟩ := List.map_eq_cons_iff.1 hback
  cases hfile
  have hincreasing := c.files.increasing
  rw [hentries, List.pairwise_append] at hincreasing
  refine ⟨file, Dict.get?_of_mem (by simp [hentries]), rfl, fun other hother hsame => ?_⟩
  obtain ⟨e, hmem, rfl⟩ := List.mem_map.1 (Dict.contains_iff_mem_keys.1 hother)
  rw [hentries, List.mem_append, List.mem_cons] at hmem
  rcases hmem with hmem | rfl | hmem
  · exact String.lt_asymm (hincreasing.2.2 e hmem _ List.mem_cons_self)
  · exact String.le_refl _
  · have hlater : (fileKey e.1, e.2) ∈ behind := by
      rw [← List.mem_reverse, ← hrest]
      exact List.mem_map_of_mem hmem
    exact absurd (hbehind _ hlater) (by simp [hsame])

theorem LastUnder.unique (h : c.LastUnder key file body) (h' : c.LastUnder key file' body') :
    body = body' := by
  have hfile : c.files.contains file := Option.isSome_iff_exists.2 ⟨_, h.has⟩
  have hfile' : c.files.contains file' := Option.isSome_iff_exists.2 ⟨_, h'.has⟩
  obtain rfl : file = file' :=
    String.le_antisymm (h'.last file hfile h.named) (h.last file' hfile' h'.named)
  exact Option.some.inj (h.has.symm.trans h'.has)

/-- Of the files with one key, the last one is kept. -/
theorem get?_keyed : (Dict.ofList c.keyed).get? key = some body ↔
    ∃ file, c.LastUnder key file body := by
  refine ⟨exists_lastUnder, ?_⟩
  rintro ⟨file, hlast⟩
  cases hfound : (Dict.ofList c.keyed).get? key with
  | some body' =>
    obtain ⟨_, hlast'⟩ := exists_lastUnder hfound
    rw [hlast.unique hlast']
  | none =>
    have hfile : file ∈ c.files.keys :=
      Dict.contains_iff_mem_keys.1 (Option.isSome_iff_exists.2 ⟨_, hlast.has⟩)
    rw [Dict.get?_ofList_eq_none, map_fst_keyed] at hfound
    exact absurd (List.mem_map.2 ⟨file, hfile, hlast.named⟩) hfound

end ConfigContent

theorem keepsAll_iff_nodup :
    (c.configMap name label).KeepsAll c ↔ (c.files.keys.map fileKey).Nodup := by
  have hsize : (c.configMap name label).entries.size = (c.files.keys.map fileKey).dedup.length := by
    rw [entries_configMap, Dict.size_ofList, map_fst_keyed]
  have hlength : c.files.size = (c.files.keys.map fileKey).length := by
    rw [List.length_map, Dict.keys, List.length_map, Dict.size]
  constructor
  · intro h
    have hsame : (c.files.keys.map fileKey).dedup = c.files.keys.map fileKey :=
      (List.dedup_sublist _).eq_of_length (by rw [← hsize, h.size, hlength])
    exact List.dedup_eq_self.1 hsame
  · intro h
    have hnodup : (c.keyed.map Prod.fst).Nodup := by rwa [map_fst_keyed]
    refine ⟨by rw [hsize, h.dedup, hlength], fun file body hbody => ?_⟩
    have hmem : (fileKey file, body) ∈ c.keyed :=
      List.mem_map.2 ⟨(file, body), Dict.mem_of_get? hbody, rfl⟩
    rw [entries_configMap]
    exact Dict.get?_insertAll_of_some hnodup (Dict.lookup_of_mem hnodup hmem)

theorem configMap_provide {s : Service} {workload : String} {opt : Options} {v : DeclaredVolume}
    {i : Nat} (hmode : v.modeUnder opt = .configMap) (hconfig : v.config = some c) :
    (s.provide workload opt v i).configMap =
      some (c.configMap (s.volumeName workload opt v i) (resourceName workload)) := by
  rw [Service.provide, hmode, hconfig]
  rfl

/-- The config map of a volume has, under each key, the last file with this key. All files are in it
exactly where no two of them differ in nothing but underscores and hyphens. -/
theorem keepsAll_iff (s : Service) (workload : String) (opt : Options) {v : DeclaredVolume}
    {i : Nat} {c : ConfigContent} (hv : (v, i) ∈ s.volumes.zipIdx) (hsocket : v.isSocket = false)
    (hmode : v.modeUnder opt = .configMap) (hconfig : v.config = some c) :
    ∃ m, (s.provide workload opt v i).configMap = some m ∧
      m ∈ (s.providedVolumes workload opt).filterMap (·.configMap) ∧
      m.metadata.name = some (s.volumeName workload opt v i) ∧
      (∀ key body, m.entries.get? key = some body ↔ ∃ file, c.LastUnder key file body) ∧
      (m.KeepsAll c ↔ ∀ file ∈ c.files.keys, ∀ file' ∈ c.files.keys, ¬ SharesKey file file') := by
  have hmade : (s.provide workload opt v i).configMap =
      some (c.configMap (s.volumeName workload opt v i) (resourceName workload)) :=
    configMap_provide hmode hconfig
  refine ⟨_, hmade, ?_, rfl, fun key body => ?_, keepsAll_iff_nodup.trans nodup_fileKeys_iff⟩
  · have hkept : (v, i) ∈ s.volumes.zipIdx.filter fun e => !e.1.isSocket :=
      List.mem_filter.2 ⟨hv, by simp [hsocket]⟩
    exact List.mem_filterMap.2 ⟨_, List.mem_map_of_mem hkept, hmade⟩
  · rw [entries_configMap]
    exact ConfigContent.get?_keyed

/-- A directory of configuration. -/
def configVolume (files : List (String × String)) : DeclaredVolume where
  host := some "./conf"
  container := "/etc/web"
  config := some { files := .ofList files, isDir := true }

def configuredService (files : List (String × String)) : Service where
  name := "web"
  volumes := [configVolume files]

/-- Two files that differ in more than a hyphen. -/
def apartFiles : List (String × String) := [("app.conf", "1"), ("app_main.conf", "2")]

/-- Two files that differ in a hyphen alone. -/
def blurredFiles : List (String × String) := [("app-main.conf", "1"), ("app_main.conf", "2")]

/-- Both files are in the config map. -/
theorem keepsAll_iff_apart : (configVolume apartFiles).isSocket = false ∧
    (configVolume apartFiles).modeUnder {} = .configMap ∧
    ∃ m, m ∈ ((configuredService apartFiles).providedVolumes "web" {}).filterMap (·.configMap) ∧
      m.KeepsAll { files := .ofList apartFiles, isDir := true } := by
  have hsocket : (configVolume apartFiles).isSocket = false := by decide +kernel
  have hkeys : ((Dict.ofList apartFiles).keys.map fileKey).Nodup := by decide +kernel
  obtain ⟨m, _, hm, _, _, hiff⟩ := keepsAll_iff (configuredService apartFiles) "web" {}
    (List.mem_singleton_self (configVolume apartFiles, 0)) hsocket rfl rfl
  exact ⟨hsocket, rfl, m, hm, hiff.2 (nodup_fileKeys_iff.1 hkeys)⟩

/-- The file with the underscore takes the place of the other one. -/
theorem not_all_in_config_map : ¬ ∀ (s : Service) (workload : String) (opt : Options)
    (v : DeclaredVolume) (i : Nat) (c : ConfigContent), (v, i) ∈ s.volumes.zipIdx →
    v.isSocket = false → v.modeUnder opt = .configMap → v.config = some c →
    ∃ m, (s.provide workload opt v i).configMap = some m ∧ m.KeepsAll c := by
  intro h
  have hsocket : (configVolume blurredFiles).isSocket = false := by decide +kernel
  have hkeys : ¬ ((Dict.ofList blurredFiles).keys.map fileKey).Nodup := by decide +kernel
  obtain ⟨m, hm, hkeeps⟩ := h (configuredService blurredFiles) "web" {}
    (configVolume blurredFiles) 0 _ (List.mem_singleton_self _) hsocket rfl rfl
  rw [configMap_provide rfl rfl] at hm
  cases hm
  exact hkeys (keepsAll_iff_nodup.1 hkeeps)

end Manifests
