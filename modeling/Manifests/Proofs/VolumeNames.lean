import Mathlib.Data.List.Nodup
import Manifests.Proofs.Text
import Manifests.Volumes

/-! Names that are made up for volumes. No two of them are the same, unless services share a name. -/
namespace Manifests

variable {s t : Service} {workload workload' : String} {opt opt' : Options} {n : String}

/-- The name of a volume that has none of its own. -/
def generatedName (stem word : String) (i : Nat) : String := stem ++ "-" ++ (word ++ toString i)

/-- The words in such names. -/
def volumeWords : List String :=
  [VolumeMode.claim, .emptyDir, .hostPath, .configMap].map VolumeMode.suffix ++ ["tmpfs"]

/-- Words have no hyphens and no digits, so that nothing of a name is lost. -/
theorem generatedName_inj {stem stem' word word' : String} {i j : Nat} (hword : word ∈ volumeWords)
    (hword' : word' ∈ volumeWords) (h : generatedName stem word i = generatedName stem' word' j) :
    stem = stem' ∧ word = word' ∧ i = j := by
  have hwords : ∀ w ∈ volumeWords, w.toList.all fun c => c != '-' && !c.isDigit := by
    decide +kernel
  have hletters : ∀ w ∈ volumeWords, '-' ∉ w.toList ∧ ∀ c ∈ w.toList, c.isDigit = false := by
    intro w hw
    have hall := List.all_eq_true.1 (hwords w hw)
    simp only [Bool.and_eq_true, bne_iff_ne, Bool.not_eq_true'] at hall
    exact ⟨fun hmem => (hall '-' hmem).1 rfl, fun c hc => (hall c hc).2⟩
  have hhyphen : ∀ w ∈ volumeWords, ∀ k : Nat, '-' ∉ (w ++ toString k).toList := by
    intro w hw k hmem
    rw [String.toList_append] at hmem
    rcases List.mem_append.1 hmem with hmem | hmem
    · exact (hletters w hw).1 hmem
    · exact Bool.false_ne_true (isDigit_of_mem_toString hmem)
  obtain ⟨hstem, hrest⟩ := eq_of_append_hyphen (hhyphen word hword i) (hhyphen word' hword' j) h
  have hlists := congrArg String.toList hrest
  rw [String.toList_append, String.toList_append] at hlists
  obtain ⟨hsame, hnumber⟩ :=
    eq_of_append_toString (hletters word hword).2 (hletters word' hword').2 hlists
  exact ⟨hstem, String.toList_inj.1 hsame, hnumber⟩

namespace Service

/-- What the volumes of a service are numbered as: those on disk by their place among the declared
ones, those in memory by their own. -/
def numbering (s : Service) (opt : Options) : List (String × Nat) :=
  (s.volumes.zipIdx.filter fun e => !e.1.isSocket).map
      (fun e => ((e.1.modeUnder opt).suffix, e.2)) ++
    s.tmpfs.zipIdx.map fun e => ("tmpfs", e.2)

/-- The names of the volumes that a service provides without a name for them, those in memory among
them. -/
def generatedNames (s : Service) (workload : String) (opt : Options) : List String :=
  (((s.volumes.filter (!·.isSocket)).zip (s.providedVolumes workload opt)).filter
      fun e => filled e.1.volumeName = none).map (·.2.volume.name) ++
    (s.memoryVolumes workload).map (·.2.name)

theorem nodup_numbering : (s.numbering opt).Nodup := by
  have hplaces : ∀ {α : Type} (l : List α), (l.zipIdx.map Prod.snd).Nodup := by
    intro α l
    rw [List.zipIdx_map_snd]
    exact List.nodup_range'
  refine List.nodup_append.2 ⟨?_, ?_, ?_⟩
  · refine List.Nodup.of_map Prod.snd ?_
    rw [List.map_map]
    exact (hplaces s.volumes).sublist (List.Sublist.map Prod.snd List.filter_sublist)
  · refine List.Nodup.of_map Prod.snd ?_
    rw [List.map_map]
    exact hplaces s.tmpfs
  · intro e he e' he' hsame
    obtain ⟨x, _, rfl⟩ := List.mem_map.1 he
    obtain ⟨y, _, rfl⟩ := List.mem_map.1 he'
    have hword := congrArg Prod.fst hsame
    cases hmode : x.1.modeUnder opt <;> simp [hmode, VolumeMode.suffix] at hword

theorem mem_volumeWords {e : String × Nat} (h : e ∈ s.numbering opt) : e.1 ∈ volumeWords := by
  rcases List.mem_append.1 h with h | h
  · obtain ⟨x, _, rfl⟩ := List.mem_map.1 h
    have hall : ∀ m : VolumeMode, m.suffix ∈ volumeWords := by
      intro m
      cases m <;> decide
    exact hall _
  · obtain ⟨x, _, rfl⟩ := List.mem_map.1 h
    exact List.mem_append_right _ (List.mem_singleton_self _)

theorem name_provide {d : DeclaredVolume} {i : Nat} :
    (s.provide workload opt d i).volume.name = s.volumeName workload opt d i := by
  unfold provide
  cases d.modeUnder opt with
  | hostPath =>
    dsimp only
    split <;> rfl
  | emptyDir | configMap | claim => rfl

/-- Every volume stands beside its declaration, and a skipped one counts. -/
theorem zip_providedVolumes :
    (s.volumes.filter (!·.isSocket)).zip (s.providedVolumes workload opt) =
      (s.volumes.zipIdx.filter fun e => !e.1.isSocket).map fun e =>
        (e.1, s.provide workload opt e.1 e.2) := by
  have hkept : s.volumes.filter (!·.isSocket) =
      (s.volumes.zipIdx.filter fun e => !e.1.isSocket).map Prod.fst := by
    conv => lhs; rw [← List.zipIdx_map_fst 0 s.volumes, List.filter_map]
    rfl
  rw [hkept, providedVolumes]
  exact List.zip_map'

/-- Every volume has a number to make up a name with, and those that need a name take it. -/
theorem generatedNames_sublist : (s.generatedNames workload opt).Sublist
    ((s.numbering opt).map fun e => generatedName (s.volumeStem workload) e.1 e.2) := by
  have hdeclared : (((s.volumes.filter (!·.isSocket)).zip (s.providedVolumes workload opt)).filter
      fun e => filled e.1.volumeName = none).map (·.2.volume.name) =
        ((s.volumes.zipIdx.filter fun e => !e.1.isSocket).filter
          fun e => filled e.1.volumeName = none).map fun e =>
            generatedName (s.volumeStem workload) (e.1.modeUnder opt).suffix e.2 := by
    rw [zip_providedVolumes, List.filter_map, List.map_map]
    refine List.map_congr_left fun e he => ?_
    have hnone : filled e.1.volumeName = none := by simpa using (List.mem_filter.1 he).2
    rw [Function.comp_apply, name_provide, volumeName, hnone, generatedName, ← String.append_assoc]
  have hmemory : (s.memoryVolumes workload).map (·.2.name) = s.tmpfs.zipIdx.map fun e =>
      generatedName (s.volumeStem workload) "tmpfs" e.2 := by
    have hword : "-tmpfs" = "-" ++ "tmpfs" := rfl
    rw [memoryVolumes, List.map_map]
    refine List.map_congr_left fun e _ => ?_
    simp only [Function.comp_apply, generatedName, hword, String.append_assoc]
  rw [generatedNames, hdeclared, hmemory, numbering, List.map_append, List.map_map, List.map_map]
  exact (List.filter_sublist.map _).append (List.Sublist.refl _)

theorem nodup_generatedNames : (s.generatedNames workload opt).Nodup := by
  refine List.Nodup.sublist generatedNames_sublist ?_
  refine nodup_numbering.map_on fun e he e' he' hsame => ?_
  obtain ⟨_, hword, hnumber⟩ := generatedName_inj (mem_volumeWords he) (mem_volumeWords he') hsame
  exact Prod.ext hword hnumber

/-- A name that is made up tells what it has been made up from, however this ends itself. -/
theorem volumeStem_eq_of_mem (hs : n ∈ s.generatedNames workload opt)
    (ht : n ∈ t.generatedNames workload' opt') :
    s.volumeStem workload = t.volumeStem workload' := by
  obtain ⟨e, he, rfl⟩ := List.mem_map.1 (generatedNames_sublist.subset hs)
  obtain ⟨e', he', hsame⟩ := List.mem_map.1 (generatedNames_sublist.subset ht)
  exact (generatedName_inj (mem_volumeWords he') (mem_volumeWords he) hsame).1.symm

theorem volumeStem_of_name (h : s.name ≠ "") : s.volumeStem workload = resourceName s.name := by
  rw [volumeStem, if_neg h]

end Service

/-- All names that are made up for two services are different where the services are called
differently, in one workload or in two. -/
theorem generated_names_apart (hs : s.name ≠ "") (ht : t.name ≠ "")
    (h : resourceName s.name ≠ resourceName t.name) :
    (s.generatedNames workload opt ++ t.generatedNames workload' opt').Nodup := by
  refine List.nodup_append.2
    ⟨Service.nodup_generatedNames, Service.nodup_generatedNames, fun n hn n' hn' hsame => ?_⟩
  subst hsame
  have hstem := Service.volumeStem_eq_of_mem hn hn'
  rw [Service.volumeStem_of_name hs, Service.volumeStem_of_name ht] at hstem
  exact h hstem

/-- A service with volumes of all sorts. -/
def storingService : Service :=
  { name := "web"
    volumes :=
      [{ container := "/data" }, { host := some "/run/docker.sock", container := "/run" },
        { volumeName := some "logs", container := "/logs" },
        { volumeName := some "", container := "/etc/web", config := some {} }]
    tmpfs := ["/tmp", "/cache"] }

/-- A service whose name is one that could be made up for the other one. -/
def nestedService : Service :=
  { name := "Web_Claim0", volumes := [{ container := "/data" }], tmpfs := ["/tmp"] }

theorem generated_names_apart_nested :
    storingService.generatedNames "app" {} =
        ["web-claim0", "web-cm3", "web-tmpfs0", "web-tmpfs1"] ∧
      nestedService.generatedNames "app" {} = ["web-claim0-claim0", "web-claim0-tmpfs0"] ∧
      (storingService.generatedNames "app" {} ++ nestedService.generatedNames "app" {}).Nodup :=
  ⟨by decide +kernel, by decide +kernel,
    generated_names_apart (by decide) (by decide) (by decide +kernel)⟩

end Manifests
