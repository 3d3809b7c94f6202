import Manifests.Output
import Manifests.Proofs.CanonicalList
import Manifests.Proofs.Distinct
import Manifests.Proofs.Scaling
import Manifests.Proofs.Text

/-! The names of the files of objects, and why they are different. -/
namespace Manifests

variable {services : Dict Service} {opt : Options} {objects : List Object} {o : Object}
  {format : Format}

section Names

/-- The kinds of all objects. -/
def objectKinds : List String :=
  WorkloadKind.all.map WorkloadKind.name ++
    ["Service", "PersistentVolumeClaim", "ConfigMap", "HorizontalPodAutoscaler", "NetworkPolicy"]

theorem kind_mem_objectKinds : o.kind ∈ objectKinds := by
  have hwork : ∀ k : WorkloadKind, k.name ∈ objectKinds := by
    intro k
    cases k <;> decide
  cases o with
  | controller c => exact hwork c.kind
  | specless k m => exact hwork k.kind
  | pod p => exact hwork .pod
  | service | claim | configMap | autoscaler | networkPolicy => simp [objectKinds, Object.kind]

theorem lowered_objectKinds : objectKinds.map lowered =
    ["deployment", "daemonset", "statefulset", "pod", "deploymentconfig", "service",
      "persistentvolumeclaim", "configmap", "horizontalpodautoscaler", "networkpolicy"] := by
  decide +kernel

/-- What stands behind the name of an object in that of its file. -/
def fileEnding (kind : String) (format : Format) : String :=
  lowered kind ++ "." ++ format.extension

theorem fileEnding_inj {kind kind' : String} (h : kind ∈ objectKinds) (h' : kind' ∈ objectKinds)
    (hsame : fileEnding kind format = fileEnding kind' format) : kind = kind' := by
  have hkinds : (objectKinds.map lowered).Nodup := by
    rw [lowered_objectKinds]
    decide
  rw [fileEnding, fileEnding, String.append_left_inj, String.append_left_inj] at hsame
  exact List.inj_on_of_nodup_map hkinds h h' hsame

/-- Endings have neither hyphens nor slashes. -/
theorem plain_fileEnding {kind : String} (h : kind ∈ objectKinds) {c : Char}
    (hc : c ∈ (fileEnding kind format).toList) : c ≠ '-' ∧ c ≠ '/' := by
  have hkinds : ∀ w ∈ objectKinds.map lowered, w.toList.all fun c => c != '-' && c != '/' := by
    rw [lowered_objectKinds]
    decide +kernel
  have hformats : ("." ++ format.extension).toList.all fun c => c != '-' && c != '/' := by
    cases format <;> decide +kernel
  have hall : (fileEnding kind format).toList.all fun c => c != '-' && c != '/' := by
    rw [fileEnding, String.append_assoc, String.toList_append, List.all_append, Bool.and_eq_true]
    exact ⟨hkinds _ (List.mem_map_of_mem h), hformats⟩
  simpa only [Bool.and_eq_true, bne_iff_ne] using List.all_eq_true.1 hall c hc

theorem fileName_eq : o.fileName format = o.name ++ "-" ++ fileEnding o.kind format := by
  simp only [Object.fileName, fileEnding, String.append_assoc]

/-- The name of a file tells the kind and the name of its object, although names have hyphens
too. -/
theorem fileName_inj {a b : Object} (h : a.fileName format = b.fileName format) :
    a.kind = b.kind ∧ a.name = b.name := by
  rw [fileName_eq, fileName_eq] at h
  have hhyphen : ∀ o : Object, '-' ∉ (fileEnding o.kind format).toList :=
    fun _ hmem => (plain_fileEnding kind_mem_objectKinds hmem).1 rfl
  obtain ⟨hname, hending⟩ := eq_of_append_hyphen (hhyphen a) (hhyphen b) h
  exact ⟨fileEnding_inj kind_mem_objectKinds kind_mem_objectKinds hending, hname⟩

theorem plain_fileName (h : '/' ∉ o.name.toList) : '/' ∉ (o.fileName format).toList := by
  rw [fileName_eq, String.toList_append, String.toList_append, List.mem_append, List.mem_append]
  rintro ((hname | hhyphen) | hending)
  · exact h hname
  · exact absurd hhyphen (by decide)
  · exact (plain_fileEnding kind_mem_objectKinds hending).2 rfl

theorem hyphen_mem_fileName : '-' ∈ (o.fileName format).toList := by
  have hhyphen : '-' ∈ "-".toList := by decide
  rw [fileName_eq, String.toList_append, String.toList_append]
  exact List.mem_append_left _ (List.mem_append_right _ hhyphen)

end Names

section Spaces

variable {s : Service} {workload : String} {kind : WorkloadKind} {a : Object}

theorem space_provide {d : DeclaredVolume} {i : Nat} :
    (∀ c, (s.provide workload opt d i).claim = some c → c.metadata.namespaceName = none) ∧
    ∀ m, (s.provide workload opt d i).configMap = some m → m.metadata.namespaceName = none := by
  unfold Service.provide
  cases d.modeUnder opt with
  | hostPath =>
    dsimp only
    split <;> exact ⟨fun _ h => (by cases h), fun _ h => (by cases h)⟩
  | emptyDir => exact ⟨fun _ h => (by cases h), fun _ h => (by cases h)⟩
  | configMap => exact ⟨fun _ h => (by cases h), fun _ h => (by cases h; rfl)⟩
  | claim => exact ⟨fun _ h => (by cases h; rfl), fun _ h => (by cases h)⟩

theorem space_siblings (h : a ∈ WorkloadUnit.siblings workload kind opt s) :
    a.metadata.namespaceName = none := by
  simp only [WorkloadUnit.siblings, List.mem_append, List.mem_map, List.mem_filterMap] at h
  rcases h with (((⟨f, hf, rfl⟩ | ⟨m, hm, rfl⟩) | ⟨m, ⟨p, hp, hm⟩, rfl⟩) | hclaim) | hpolicy
  · exact space_fronts hf
  · obtain ⟨f, _, rfl⟩ := List.mem_map.1 hm
    rfl
  · obtain ⟨e, _, rfl⟩ := List.mem_map.1 hp
    exact space_provide.2 m hm
  · split at hclaim
    · cases hclaim
    · obtain ⟨c, hc, rfl⟩ := List.mem_map.1 hclaim
      obtain ⟨p, hp, hc⟩ := List.mem_filterMap.1 hc
      obtain ⟨e, _, rfl⟩ := List.mem_map.1 hp
      exact space_provide.1 c hc
  · split at hpolicy
    · obtain ⟨n, _, rfl⟩ := List.mem_map.1 hpolicy
      rfl
    · cases hpolicy

/-- The namespace of an object hangs on nothing but whether it is a workload. -/
theorem namespaceName_eq (h : convert services opt = .ok objects) (ho : o ∈ objects) :
    o.key.namespaceName = (filled opt.namespaceName).or
      (if o.isWorkload then opt.namespaceName else none) := by
  cases hw : o.isWorkload with
  | true =>
    obtain ⟨u, a, horigin⟩ := exists_origin h ho hw
    obtain ⟨spec, os, hc⟩ := horigin.converted
    rw [horigin.observed fun _ => Object.key_emptied, key_placed, hc.made.namespaceName, if_pos rfl]
  | false =>
    obtain ⟨u, hu, os, hconvert, b, hb, rfl⟩ := exists_made_of_mem h ho hw
    obtain ⟨spec, a, hc⟩ := WorkloadUnit.convert_ok (members_ne_nil hu) hconvert
    have hspace : b.metadata.namespaceName = none := by
      rcases hc.mem_cases hb with rfl | ⟨s, _, hb⟩ | ⟨scaler, rfl⟩
      · rw [isWorkload_placed, hc.made.isWorkload] at hw
        cases hw
      · exact space_siblings hb
      · have hscaler := (WorkloadUnit.autoscaler_mem_convert (members_ne_nil hu) hconvert).1 hb
        obtain ⟨s, _, rfl⟩ := Option.map_eq_some_iff.1 hscaler
        rfl
    rw [key_placed, hspace]
    rfl

/-- No two objects of an output have files of one name. -/
theorem nodup_fileNames (h : convert services opt = .ok objects) :
    (objects.map (·.fileName format)).Nodup := by
  have hkeys := List.pairwise_map.1 (nodup_keys_convert h)
  refine List.pairwise_map.2 (hkeys.imp_of_mem fun {a b} ha hb hne hsame => hne ?_)
  obtain ⟨hkind, hname⟩ := fileName_inj hsame
  have hspace : a.key.namespaceName = b.key.namespaceName := by
    rw [namespaceName_eq h ha, namespaceName_eq h hb, Object.isWorkload_of_kind hkind]
  calc a.key = ⟨a.kind, a.key.namespaceName, a.name⟩ := rfl
    _ = ⟨b.kind, b.key.namespaceName, b.name⟩ := by rw [hkind, hspace, hname]
    _ = b.key := rfl

end Spaces

end Manifests
