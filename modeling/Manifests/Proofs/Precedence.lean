import Manifests.Proofs.ByteOrder
import Manifests.Proofs.EnvFiles

/-! Which of the values that are given for a variable is in force. -/
namespace Manifests

namespace Service

/-- The environment file at a place is the last one that sets a variable. -/
structure SetsLast (s : Service) (k : String) (i : Nat) (f : EnvFile) : Prop where
  file : s.envFiles[i]? = some f
  sets : f.values.contains k
  last : ∀ j g, i < j → s.envFiles[j]? = some g → g.values.contains k = false

/-- A variable has the value that the service gives itself, or else refers to the entry in the map
that is made for the last environment file with this variable. -/
structure Supplies (s : Service) (v : EnvVar) : Prop where
  literal : ∀ text, v.value = .literal text ↔ s.environment.get? v.name = some text
  reference : s.environment.get? v.name = none → ∃ i f m, s.SetsLast v.name i f ∧
    v.value = .reference (envMapName f.path s.name) v.name ∧
    s.envMaps[i]? = some m ∧ m.isNamed (envMapName f.path s.name) ∧ m.data = some f.values

/-- The variables that a service sets, in the order of their names. -/
structure IsEnvironment (s : Service) (vars : List EnvVar) : Prop where
  increasing : (vars.map (·.name)).Pairwise fun a b => Text.bytes a < Text.bytes b
  names : ∀ k, k ∈ vars.map (·.name) ↔
    s.environment.contains k ∨ ∃ f ∈ s.envFiles, f.values.contains k
  supplied : ∀ v ∈ vars, s.Supplies v

variable {s : Service} {k : String} {i j : Nat} {f g : EnvFile} {v w : EnvVar}
  {vars vars' : List EnvVar}

/-- The last file that is found from behind is at a place behind which no file sets the variable. -/
theorem exists_setsLast (h : s.lastSetting? k = some f) : ∃ i, s.SetsLast k i f := by
  obtain ⟨hf, behind, before, hreverse, hbehind⟩ := List.find?_eq_some_iff_append.1 h
  have hfiles : s.envFiles = before.reverse ++ f :: behind.reverse := by
    rw [← List.reverse_reverse s.envFiles, hreverse]
    simp
  refine ⟨before.reverse.length, ?_, hf, fun j g hj hg => ?_⟩
  · rw [hfiles, List.getElem?_append_right (Nat.le_refl _), Nat.sub_self, List.getElem?_cons_zero]
  · rw [hfiles, List.getElem?_append_right (Nat.le_of_lt hj)] at hg
    obtain ⟨d, hd⟩ : ∃ d, j - before.reverse.length = d + 1 := ⟨_, (Nat.succ_pred (by omega)).symm⟩
    rw [hd, List.getElem?_cons_succ] at hg
    have hmem := List.mem_reverse.1 (List.mem_of_getElem? hg)
    simpa using hbehind g hmem

theorem SetsLast.unique (h : s.SetsLast k i f) (h' : s.SetsLast k j g) : i = j ∧ f = g := by
  rcases Nat.lt_trichotomy i j with hlt | rfl | hlt
  · exact absurd h'.sets (by simp [h.last j g hlt h'.file])
  · exact ⟨rfl, Option.some.inj (h.file.symm.trans h'.file)⟩
  · exact absurd h.sets (by simp [h'.last i f hlt h.file])

theorem isSome_lastSetting? : (s.lastSetting? k).isSome ↔ ∃ f ∈ s.envFiles, f.values.contains k := by
  simp only [lastSetting?, List.find?_isSome, List.mem_reverse]

theorem exists_envMap (h : s.envFiles[i]? = some f) : ∃ m, s.envMaps[i]? = some m ∧
    m.isNamed (envMapName f.path s.name) ∧ m.data = some f.values := by
  rw [envMaps, List.getElem?_map, h]
  exact ⟨_, rfl, decide_eq_true rfl, rfl⟩

theorem Supplies.eq (hv : s.Supplies v) (hw : s.Supplies w) (h : v.name = w.name) : v = w := by
  have hvalue : v.value = w.value := by
    cases hget : s.environment.get? v.name with
    | some text => rw [(hv.literal text).2 hget, (hw.literal text).2 (h ▸ hget)]
    | none =>
      obtain ⟨_, f, _, hlast, hvalue, _⟩ := hv.reference hget
      obtain ⟨_, g, _, hlast', hvalue', _⟩ := hw.reference (h ▸ hget)
      rw [← h] at hlast' hvalue'
      rw [hvalue, hvalue', (hlast.unique hlast').2]
  cases v
  cases w
  cases h
  cases hvalue
  rfl

theorem supplies_of_mem (h : v ∈ s.envVars) : s.Supplies v := by
  rcases v with ⟨name, value⟩
  have hget := mem_envVars.1 h
  rw [get?_envValues] at hget
  cases hliteral : s.environment.get? name with
  | some given =>
    rw [hliteral] at hget
    cases hget
    exact ⟨fun text => by simp [hliteral], fun hnone => absurd hnone (by simp [hliteral])⟩
  | none =>
    rw [hliteral, Option.map_none, Option.none_or, Option.map_eq_some_iff] at hget
    obtain ⟨f, hf, rfl⟩ := hget
    refine ⟨fun text => by simp [hliteral], fun _ => ?_⟩
    obtain ⟨i, hlast⟩ := exists_setsLast hf
    obtain ⟨m, hm, hname, hdata⟩ := exists_envMap hlast.file
    exact ⟨i, f, m, hlast, rfl, hm, hname, hdata⟩

theorem isEnvironment_envVars : s.IsEnvironment s.envVars where
  increasing := by
    rw [envVars, List.map_map]
    exact List.pairwise_map.2 (s.envValues.increasing.imp bytes_lt_of_lt)
  names k := by
    have hnames : s.envVars.map (·.name) = s.envValues.keys := by
      rw [envVars, List.map_map]
      rfl
    rw [hnames, ← Dict.contains_iff_mem_keys, Dict.contains, get?_envValues, Option.isSome_or,
      Option.isSome_map, Option.isSome_map, Bool.or_eq_true, isSome_lastSetting?]
    rfl
  supplied _ := supplies_of_mem

theorem IsEnvironment.subset (h : s.IsEnvironment vars) (h' : s.IsEnvironment vars') :
    vars ⊆ vars' := by
  intro v hv
  have hname : v.name ∈ vars'.map (·.name) :=
    (h'.names v.name).2 ((h.names v.name).1 (List.mem_map_of_mem hv))
  obtain ⟨w, hw, hsame⟩ := List.mem_map.1 hname
  rwa [(h.supplied v hv).eq (h'.supplied w hw) hsame.symm]

end Service

/-- The variables of a container come in the order of the bytes of their names, and are all those
that its service or one of its environment files sets. The values of the service are in force, then
those of the last file. -/
theorem isEnvironment_iff (s : Service) (vars : List EnvVar) :
    s.IsEnvironment vars ↔ vars = s.envVars := by
  constructor
  · intro h
    have hvars := s.isEnvironment_envVars
    exact eq_of_ordered h.increasing hvars.increasing fun v =>
      ⟨fun hv => h.subset hvars hv, fun hv => hvars.subset h hv⟩
  · rintro rfl
    exact s.isEnvironment_envVars

/-- A value of the service, one of the last file, and one that only the first file has. -/
example :
    ({ name := "web"
       environment := .singleton "MODE" "prod"
       envFiles :=
         [{ path := "./base.env", values := .ofList [("HOST", "db"), ("MODE", "dev"), ("PORT", "1")] },
           { path := "./web.env", values := .ofList [("HOST", "replica"), ("MODE", "test")] }] } :
      Service).envVars =
      [⟨"HOST", .reference "web-env" "HOST"⟩, ⟨"MODE", .literal "prod"⟩,
        ⟨"PORT", .reference "base-env" "PORT"⟩] := by
  decide +kernel

end Manifests
