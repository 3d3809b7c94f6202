import Manifests.Proofs.ConversionOrder
import Manifests.Proofs.Origin

/-! Which values containers find when they refer to the entries of environment files. -/
namespace Manifests

variable {services : Dict Service} {opt : Options} {objects merged : List Object} {o : Object}
  {s : Service} {n k v : String}

namespace Service

/-- Of the environment files that set a variable, the last. -/
def lastSetting? (s : Service) (k : String) : Option EnvFile :=
  s.envFiles.reverse.find? (·.values.contains k)

/-- The environment of a service gives a variable the entry `k` of the map `n`, and the last of its
files that sets this variable sets it to `v`. -/
def Asks (s : Service) (n k v : String) : Prop :=
  ∃ f, s.lastSetting? k = some f ∧ n = envMapName f.path s.name ∧ f.values.get? k = some v

/-- The entries of a file, as references to its map. -/
def referencesTo (service : String) (f : EnvFile) : List (String × EnvValue) :=
  f.values.keys.map fun key => (key, .reference (envMapName f.path service) key)

theorem get?_insertAll_referencesTo {service : String} {f : EnvFile} {d : Dict EnvValue} :
    (d.insertAll (referencesTo service f)).get? k =
      if f.values.contains k then some (.reference (envMapName f.path service) k)
      else d.get? k := by
  have hkeys : (referencesTo service f).map Prod.fst = f.values.keys := by
    simp [referencesTo, Function.comp_def]
  split
  · rename_i hk
    rw [Dict.contains_iff_mem_keys] at hk
    refine Dict.get?_insertAll_of_some (hkeys ▸ f.values.nodup_keys) ?_
    exact Dict.lookup_of_mem (hkeys ▸ f.values.nodup_keys) (List.mem_map.2 ⟨k, hk, rfl⟩)
  · rename_i hk
    rw [Dict.contains_iff_mem_keys] at hk
    exact Dict.get?_insertAll_of_notMem (hkeys ▸ hk)

/-- Later files win over earlier ones. -/
theorem get?_foldl_referencesTo {service : String} {files : List EnvFile} {d : Dict EnvValue} :
    (files.foldl (fun d f => d.insertAll (referencesTo service f)) d).get? k =
      ((files.reverse.find? (·.values.contains k)).map fun f =>
        .reference (envMapName f.path service) k).or (d.get? k) := by
  induction files generalizing d with
  | nil => rfl
  | cons f files ih =>
    rw [List.foldl_cons, ih, get?_insertAll_referencesTo, List.reverse_cons, List.find?_append,
      Option.map_or, Option.or_assoc, List.find?_singleton]
    split <;> rfl

theorem get?_fileReferences : s.fileReferences.get? k =
    (s.lastSetting? k).map fun f => .reference (envMapName f.path s.name) k :=
  get?_foldl_referencesTo.trans (Option.or_none ..)

theorem get?_envValues : s.envValues.get? k =
    ((s.environment.get? k).map .literal).or
      ((s.lastSetting? k).map fun f => .reference (envMapName f.path s.name) k) := by
  rw [envValues, Dict.get?_union, Dict.get?_map, get?_fileReferences]

theorem mem_envVars {name : String} {value : EnvValue} :
    ⟨name, value⟩ ∈ s.envVars ↔ s.envValues.get? name = some value := by
  constructor
  · intro h
    obtain ⟨⟨_, _⟩, hmem, he⟩ := List.mem_map.1 h
    cases he
    exact Dict.get?_of_mem hmem
  · intro h
    exact List.mem_map.2 ⟨_, Dict.mem_of_get? h, rfl⟩

/-- Where a container refers to an entry, its service asks for one value of it. -/
theorem asks_of_mem_envVars {name : String} (h : ⟨name, .reference n k⟩ ∈ s.envVars) :
    name = k ∧ ∃ v, s.Asks n k v := by
  have hget := mem_envVars.1 h
  rw [get?_envValues, Option.or_eq_some_iff, Option.map_eq_some_iff] at hget
  rcases hget with ⟨_, _, hliteral⟩ | ⟨_, hfile⟩
  · cases hliteral
  · obtain ⟨f, hf, he⟩ := Option.map_eq_some_iff.1 hfile
    obtain ⟨rfl, rfl⟩ := EnvValue.reference.inj he
    have hcontains := List.find?_some hf
    obtain ⟨v, hv⟩ := Option.isSome_iff_exists.1 hcontains
    exact ⟨rfl, v, f, hf, rfl, hv⟩

theorem configMaps_underKind {kind : WorkloadKind} {workload : String} :
    (s.underKind kind).configMaps workload opt = s.configMaps workload opt :=
  WorkloadUnit.underKind_observed (·.configMaps workload opt) fun _ => rfl

end Service

/-- All config maps of an application, in the order in which they are made. -/
def mapsMade (services : Dict Service) (opt : Options) : List ConfigMap :=
  (unitsOf (keyed services) opt.groupMode).flatMap fun u =>
    u.members.flatMap fun s => s.configMaps u.name opt

def ConfigMap.isNamed (n : String) (m : ConfigMap) : Bool := (Object.configMap m).name = n

def Object.isMapNamed (n : String) : Object → Bool := isNamed "ConfigMap" n

theorem space_configMaps {workload : String} {m : ConfigMap} (h : m ∈ s.configMaps workload opt) :
    m.metadata.namespaceName = none := by
  rcases List.mem_append.1 h with h | h
  · obtain ⟨_, _, rfl⟩ := List.mem_map.1 h
    rfl
  · obtain ⟨p, hp, hm⟩ := List.mem_filterMap.1 h
    obtain ⟨⟨d, i⟩, _, rfl⟩ := List.mem_map.1 hp
    change (s.provide workload opt d i).configMap = some m at hm
    rw [Service.provide] at hm
    split at hm
    · cases hm
    · split at hm <;> cases hm
    · cases hm
      rfl
    · cases hm

theorem isMapNamed_iff : o.isMapNamed n ↔ ∃ m, o = .configMap m ∧ m.isNamed n := by
  rw [Object.isMapNamed, Object.isNamed_iff]
  constructor
  · rintro ⟨hkind, hname⟩
    obtain ⟨m, rfl⟩ := Object.eq_configMap_of_kind hkind
    exact ⟨m, rfl, by simpa [ConfigMap.isNamed] using hname⟩
  · rintro ⟨m, rfl, hname⟩
    exact ⟨rfl, by simpa [ConfigMap.isNamed] using hname⟩

theorem filter_siblings_isMapNamed {workload : String} {kind : WorkloadKind} :
    (WorkloadUnit.siblings workload kind opt s).filter (Object.isMapNamed n) =
      ((s.configMaps workload opt).filter (·.isNamed n)).map .configMap := by
  have hnone : ((s.fronts workload).filter fun f => (Object.service f).isMapNamed n) = [] := by
    simp [Object.isMapNamed, Object.isNamed, Object.kind]
  rw [WorkloadUnit.filter_siblings (by simp [Object.isMapNamed, Object.isNamed, Object.kind])
    (by simp [Object.isMapNamed, Object.isNamed, Object.kind]), hnone]
  rfl

/-- Of the config maps of one name, the first that is made is in the output. -/
theorem filter_isMapNamed (h : convert services opt = .ok objects) :
    objects.filter (Object.isMapNamed n) =
      (((mapsMade services opt).find? (·.isNamed n)).map fun m =>
        placed opt (.configMap m)).toList := by
  have hmaps : (siblingsMade services opt).filter (Object.isMapNamed n) =
      ((mapsMade services opt).filter (·.isNamed n)).map .configMap := by
    simp only [siblingsMade, mapsMade, filter_siblings_isMapNamed, WorkloadUnit.servicesUnder,
      List.flatMap_map, Service.configMaps_underKind, List.filter_flatMap, List.map_flatMap]
  have hspace : ∀ o ∈ (siblingsMade services opt).filter (Object.isMapNamed n),
      o.metadata.namespaceName = none := by
    rw [hmaps]
    intro o ho
    obtain ⟨m, hmem, rfl⟩ := List.mem_map.1 ho
    obtain ⟨u, _, hm⟩ := List.mem_flatMap.1 (List.mem_filter.1 hmem).1
    obtain ⟨s, _, hm⟩ := List.mem_flatMap.1 hm
    exact space_configMaps hm
  have hfirst : objects.filter (Object.isMapNamed n) =
      (((siblingsMade services opt).filter (Object.isMapNamed n)).head?.map (placed opt)).toList :=
    filter_convert h (by decide) (by decide) (by decide) hspace
  rw [hfirst, hmaps, List.head?_map, List.head?_filter, Option.map_map]
  rfl

def ConfigMap.value? (m : ConfigMap) (k : String) : Option String := m.data.bind (·.get? k)

/-- A container that refers to the entry `k` of the map `n` finds `v` there. -/
def Resolves (objects : List Object) (n k v : String) : Prop :=
  ∃ m, .configMap m ∈ objects ∧ m.isNamed n ∧ m.value? k = some v

theorem configMap_of_placed (opt : Options) (m : ConfigMap) :
    ∃ m', placed opt (.configMap m) = .configMap m' ∧ m'.data = m.data := by
  obtain ⟨f, hf⟩ := exists_mapMetadata opt (.configMap m)
  exact ⟨_, hf, rfl⟩

/-- What is found under a name is decided by the first map that is made for it. -/
theorem resolves_iff (h : convert services opt = .ok objects) : Resolves objects n k v ↔
    ∃ m, (mapsMade services opt).find? (·.isNamed n) = some m ∧ m.value? k = some v := by
  have hfilter := filter_isMapNamed (n := n) h
  constructor
  · rintro ⟨m', hm', hname, hv⟩
    have hmem := List.mem_filter.2 ⟨hm', isMapNamed_iff.2 ⟨m', rfl, hname⟩⟩
    rw [hfilter, Option.mem_toList, Option.map_eq_some_iff] at hmem
    obtain ⟨m, hm, he⟩ := hmem
    obtain ⟨m'', he', hdata⟩ := configMap_of_placed opt m
    rw [he] at he'
    cases he'
    exact ⟨m, hm, by rwa [ConfigMap.value?, ← hdata]⟩
  · rintro ⟨m, hm, hv⟩
    obtain ⟨m', he, hdata⟩ := configMap_of_placed opt m
    have hmem : .configMap m' ∈ objects.filter (Object.isMapNamed n) := by
      rw [hfilter, hm, ← he]
      exact List.mem_singleton_self _
    obtain ⟨hmem, hname⟩ := List.mem_filter.1 hmem
    obtain ⟨_, he', hname⟩ := isMapNamed_iff.1 hname
    cases he'
    exact ⟨m', hmem, hname, by rwa [ConfigMap.value?, hdata]⟩

/-- The map of every environment file is made. -/
theorem exists_mapMade (hs : s ∈ conversionOrder (keyed services) opt.groupMode)
    (h : s.Asks n k v) : ∃ m, (mapsMade services opt).find? (·.isNamed n) = some m := by
  obtain ⟨f, hf, rfl, _⟩ := h
  rw [← members_eq_conversionOrder] at hs
  obtain ⟨u, hu, hs⟩ := List.mem_flatMap.1 hs
  have hf := List.mem_reverse.1 (List.mem_of_find?_eq_some hf)
  have hmade : ∃ m ∈ mapsMade services opt, m.isNamed (envMapName f.path s.name) :=
    ⟨_, List.mem_flatMap.2 ⟨u, hu, List.mem_flatMap.2 ⟨s, hs,
      List.mem_append_left _ (List.mem_map_of_mem hf)⟩⟩, by
        simp [ConfigMap.isNamed, Object.name, Object.metadata]⟩
  exact Option.isSome_iff_exists.1 (List.find?_isSome.2 hmade)

section Containers

/-- The containers that run before the others have no environment. -/
theorem env_of_initContainers {c : Container} (h : convert services opt = .ok objects)
    (ho : o ∈ objects) (hc : c ∈ o.initContainers) : c.env = [] := by
  have hw : o.isWorkload := by
    by_contra hw
    cases o <;> simp_all [Object.isWorkload, Object.initContainers, Object.podSpec?]
  obtain ⟨u, a, horigin⟩ := exists_origin h ho hw
  obtain ⟨spec, os, hconverted⟩ := horigin.converted
  rw [horigin.observed fun _ => Object.initContainers_emptied, initContainers_placed,
    Object.initContainers, hconverted.made.podSpec?_eq, Option.getD_some,
    WorkloadUnit.initContainers_podSpec hconverted.podSpec_ok] at hc
  obtain ⟨s, _, hc⟩ := List.mem_flatMap.1 hc
  obtain ⟨_, _, rfl⟩ := Option.map_eq_some_iff.1 (Option.mem_toList.1 hc)
  rfl

/-- Every container of the output has been made for a service. -/
theorem exists_core_eq {c : Container} (h : convert services opt = .ok objects) (ho : o ∈ objects)
    (hc : c ∈ o.containers) :
    ∃ s ∈ conversionOrder (keyed services) opt.groupMode, s.core = c.core := by
  have hw : o.isWorkload := by
    by_contra hw
    rw [Object.containers_of_not_workload hw] at hc
    cases hc
  obtain ⟨u, a, horigin⟩ := exists_origin h ho hw
  obtain ⟨w, hu, _, s, hs, hcore⟩ := horigin.containers c hc
  rw [← members_eq_conversionOrder]
  exact ⟨s, List.mem_flatMap.2 ⟨w, hu, hs⟩, hcore.symm⟩

end Containers

/-- A container that refers to the entry of a config map has this reference from the environment
files of its service, and one map of that name is in the output: the first that is made. The
container finds the value of the last file exactly where this map holds it. -/
theorem reference_resolves_iff {c : Container} {name : String}
    (h : convert services opt = .ok objects) (ho : o ∈ objects)
    (hc : c ∈ o.containers ++ o.initContainers) (he : ⟨name, .reference n k⟩ ∈ c.env) :
    (∃ s ∈ conversionOrder (keyed services) opt.groupMode, s.core = c.core) ∧
    ∀ s ∈ conversionOrder (keyed services) opt.groupMode, s.core = c.core →
      ∃ v m, s.Asks n k v ∧ (mapsMade services opt).find? (·.isNamed n) = some m ∧
        objects.filter (Object.isMapNamed n) = [placed opt (.configMap m)] ∧
        (Resolves objects n k v ↔ m.value? k = some v) := by
  have hmain : c ∈ o.containers := by
    rcases List.mem_append.1 hc with hc | hc
    · exact hc
    · rw [env_of_initContainers h ho hc] at he
      cases he
  refine ⟨exists_core_eq h ho hmain, fun s hs hcore => ?_⟩
  have henv : s.envVars = c.env := congrArg ContainerCore.env hcore
  rw [← henv] at he
  obtain ⟨_, v, hasks⟩ := Service.asks_of_mem_envVars he
  obtain ⟨m, hm⟩ := exists_mapMade hs hasks
  refine ⟨v, m, hasks, hm, ?_, ?_⟩
  · rw [filter_isMapNamed h, hm]
    rfl
  · rw [resolves_iff h, hm]
    simp

/-- Two environment files whose paths become one name. -/
def overlaidServices : Dict Service :=
  let web : Service :=
    { image := "nginx"
      envFiles :=
        [{ path := "./env/web.env", values := .singleton "MODE" "dev" },
          { path := "./env-web.env", values := .singleton "MODE" "prod" }] }
  .singleton "web" web

theorem reference_overlaid : ∃ o ∈ output overlaidServices {}, ∃ c ∈ o.containers,
    ⟨"MODE", .reference "env-web-env" "MODE"⟩ ∈ c.env := by
  decide +kernel

theorem asks_overlaid {v : String} (hs : s ∈ conversionOrder (keyed overlaidServices) none)
    (h : s.Asks n "MODE" v) : v = "prod" := by
  obtain ⟨f, hf, _, hv⟩ := h
  have hlast : ∀ s ∈ conversionOrder (keyed overlaidServices) none,
      (s.lastSetting? "MODE").bind (·.values.get? "MODE") = some "prod" := by
    decide +kernel
  have hprod := hlast s hs
  rw [hf, Option.bind_some, hv, Option.some_inj] at hprod
  exact hprod

theorem reference_resolves_iff_overlaid : ∃ m,
    (mapsMade overlaidServices {}).find? (·.isNamed "env-web-env") = some m ∧
    (Resolves (output overlaidServices {}) "env-web-env" "MODE" "prod" ↔
      m.value? "MODE" = some "prod") := by
  obtain ⟨o, ho, c, hc, he⟩ := reference_overlaid
  have hok : convert overlaidServices {} = .ok (output overlaidServices {}) :=
    convert_output (by decide +kernel)
  obtain ⟨⟨s, hs, hcore⟩, hall⟩ :=
    reference_resolves_iff hok ho (List.mem_append_left _ hc) he
  obtain ⟨v, m, hasks, hm, _, hiff⟩ := hall s hs hcore
  rw [asks_overlaid hs hasks] at hiff
  exact ⟨m, hm, hiff⟩

/-- The map of one file takes the place of that of another one. -/
theorem not_all_resolve : ¬ ∀ (services : Dict Service) (opt : Options) (objects : List Object),
    convert services opt = .ok objects → ∀ o ∈ objects, ∀ c ∈ o.containers, ∀ name n k,
      ⟨name, .reference n k⟩ ∈ c.env →
        ∃ s ∈ conversionOrder (keyed services) opt.groupMode, s.core = c.core ∧
          ∃ v, s.Asks n k v ∧ Resolves objects n k v := by
  intro h
  obtain ⟨o, ho, c, hc, he⟩ := reference_overlaid
  have hok : convert overlaidServices {} = .ok (output overlaidServices {}) :=
    convert_output (by decide +kernel)
  obtain ⟨s, hs, _, v, hasks, hresolves⟩ := h overlaidServices {} _ hok o ho c hc _ _ _ he
  obtain ⟨m, hm, hv⟩ := (resolves_iff hok).1 hresolves
  have hfirst : ((mapsMade overlaidServices {}).find? (·.isNamed "env-web-env")).bind
      (·.value? "MODE") = some "dev" := by
    decide +kernel
  rw [hm, Option.bind_some, hv, asks_overlaid hs hasks] at hfirst
  exact absurd hfirst (by decide)

end Manifests
