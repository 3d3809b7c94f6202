import Manifests.Loading
import Manifests.Proofs.Dict
import Manifests.Proofs.Outcome
import Manifests.Volumes

/-! Directories of configuration: how they are found, and which of their files are read. -/
namespace Manifests

namespace FileTree

/-- A file stands at the end of these names. -/
inductive Reaches : FileTree → List String → ByteArray → Prop
  | file (bytes : ByteArray) : Reaches (file bytes) [] bytes
  | entry {entries : List (String × FileTree)} {name : String} {t : FileTree}
      {names : List String} {bytes : ByteArray} (hmem : (name, t) ∈ entries)
      (h : t.Reaches names bytes) : Reaches (directory entries) (name :: names) bytes

/-- All files are texts. -/
def IsLegible (t : FileTree) : Prop :=
  ∀ names bytes, t.Reaches names bytes → ∃ text, (file bytes).text = .ok text

/-- There are files, but all of them are in directories further down. -/
def BuriesFiles (t : FileTree) : Prop :=
  (∃ names bytes, t.Reaches names bytes) ∧ ¬ ∃ name bytes, t.Reaches [name] bytes

variable {t : FileTree} {entries : List (String × FileTree)} {name : String}
  {names : List String} {bytes : ByteArray} {pending pending' : List (List (String × FileTree))}

theorem sizeOf_lt_of_mem (h : (name, t) ∈ entries) : sizeOf t < sizeOf entries := by
  have hentry : sizeOf (name, t) < sizeOf entries := List.sizeOf_lt_of_mem h
  rw [Prod.mk.sizeOf_spec] at hentry
  omega

theorem anyHoldsFile_eq : anyHoldsFile entries = entries.any (·.2.holdsFile) := by
  induction entries with
  | nil => rfl
  | cons e entries ih => rw [anyHoldsFile, List.any_cons, ih]

theorem Reaches.holdsFile (h : t.Reaches names bytes) : t.holdsFile := by
  induction h with
  | file bytes => rw [FileTree.holdsFile]
  | entry hmem _ ih =>
    rw [FileTree.holdsFile, anyHoldsFile_eq, List.any_eq_true]
    exact ⟨_, hmem, ih⟩

theorem exists_reaches (t : FileTree) (h : t.holdsFile) : ∃ names bytes, t.Reaches names bytes := by
  match t with
  | file bytes => exact ⟨[], bytes, .file bytes⟩
  | directory entries =>
    rw [holdsFile, anyHoldsFile_eq, List.any_eq_true] at h
    obtain ⟨⟨name, t⟩, hmem, ht⟩ := h
    obtain ⟨names, bytes, hreaches⟩ := exists_reaches t ht
    exact ⟨name :: names, bytes, .entry hmem hreaches⟩
termination_by sizeOf t
decreasing_by
  have hlt := sizeOf_lt_of_mem hmem
  rw [directory.sizeOf_spec]
  omega

theorem holdsFile_iff : t.holdsFile ↔ ∃ names bytes, t.Reaches names bytes :=
  ⟨exists_reaches t, fun ⟨_, _, h⟩ => h.holdsFile⟩

theorem reaches_singleton :
    (directory entries).Reaches [name] bytes ↔ (name, file bytes) ∈ entries := by
  constructor
  · intro h
    cases h with
    | entry hmem h =>
      cases h
      exact hmem
  · exact fun hmem => .entry hmem (.file bytes)

theorem isLegible_file : (file bytes).IsLegible ↔ ∃ text, (file bytes).text = .ok text := by
  constructor
  · exact fun h => h [] bytes (.file bytes)
  · rintro htext names bytes' hreaches
    cases hreaches
    exact htext

theorem isLegible_directory : (directory entries).IsLegible ↔ ∀ e ∈ entries, e.2.IsLegible := by
  constructor
  · exact fun h e he names bytes hreaches => h (e.1 :: names) bytes (.entry he hreaches)
  · intro h names bytes hreaches
    cases hreaches with
    | entry hmem hbelow => exact h _ hmem _ _ hbelow

theorem text_toByteArray {s : String} : (file s.toByteArray).text = .ok s := by
  have hread : String.fromUTF8? s.toByteArray = some s := dif_pos s.isValidUTF8
  rw [text, hread]

section Search

/-- What stands in each of the directories among some entries. -/
def opened : List (String × FileTree) → List (List (String × FileTree))
  | [] => []
  | (_, file _) :: entries => opened entries
  | (_, directory inner) :: entries => inner :: opened entries

/-- How much there is in the directories that wait. -/
noncomputable def burden : List (List (String × FileTree)) → Nat
  | [] => 0
  | entries :: pending => sizeOf entries + burden pending

theorem burden_append : burden (pending ++ pending') = burden pending + burden pending' := by
  induction pending with
  | nil => rw [List.nil_append, burden, Nat.zero_add]
  | cons entries pending ih => rw [List.cons_append, burden, burden, ih, Nat.add_assoc]

theorem burden_reverse : burden pending.reverse = burden pending := by
  induction pending with
  | nil => rfl
  | cons entries pending ih =>
    rw [List.reverse_cons, burden_append, ih, burden, burden, burden, Nat.add_zero, Nat.add_comm]

theorem burden_opened_lt : burden (opened entries) < sizeOf entries := by
  induction entries with
  | nil => decide
  | cons e entries ih =>
    rcases e with ⟨name, _ | inner⟩
    · rw [opened, List.cons.sizeOf_spec]
      omega
    · rw [opened, burden, List.cons.sizeOf_spec, Prod.mk.sizeOf_spec, directory.sizeOf_spec]
      omega

/-- Opens the directories that wait, the one that came last before the others. A file in it ends
the search, and the directories in it come to wait with the others. -/
def search : List (List (String × FileTree)) → Bool
  | [] => false
  | entries :: pending =>
    if entries.any (·.2.isFile) then true else search ((opened entries).reverse ++ pending)
termination_by pending => burden pending
decreasing_by
  rw [burden_append, burden_reverse, burden]
  exact Nat.add_lt_add_right burden_opened_lt _

/-- A file below some entries is one of them, or stands below a directory among them. -/
theorem anyHoldsFile_opened :
    anyHoldsFile entries = (entries.any (·.2.isFile) || (opened entries).any anyHoldsFile) := by
  induction entries with
  | nil => rfl
  | cons e entries ih =>
    rcases e with ⟨name, bytes | inner⟩
    · rfl
    · rw [anyHoldsFile, ih, opened, List.any_cons, List.any_cons, Bool.or_left_comm]
      rfl

/-- The search is over at some time, and has found a file if there was one to find. -/
theorem search_eq : search pending = pending.any anyHoldsFile := by
  induction pending using search.induct with
  | case1 =>
    rw [search]
    rfl
  | case2 entries pending hfile =>
    rw [search, if_pos hfile, List.any_cons, anyHoldsFile_opened, hfile]
    rfl
  | case3 entries pending hfile ih =>
    rw [search, if_neg hfile, ih, List.any_append, List.any_reverse, List.any_cons,
      @anyHoldsFile_opened entries, Bool.eq_false_iff.2 hfile, Bool.false_or]

end Search

end FileTree

namespace HostPath

/-- There is nothing to mount at a path, whatever stands there. -/
def Ignored (path : String) : Prop := path = "" ∨ Text.endsWith ".sock".toList path.toList

variable {path : String} {t : FileTree}

theorem classify_eq_configuration :
    classify path (.ok t) = .configuration ↔ ¬ Ignored path ∧ t.holdsFile := by
  rw [classify]
  by_cases hignored : Ignored path
  · rw [if_pos (by simpa [Ignored] using hignored)]
    simp [hignored]
  · rw [if_neg (by simpa [Ignored] using hignored)]
    by_cases hholds : t.holdsFile <;> simp [hignored, hholds]

end HostPath

namespace ConfigContent

/-- A content is made of the files that a directory itself holds, under their names. -/
structure Holds (c : ConfigContent) (t : FileTree) : Prop where
  isDir : c.isDir
  names : ∀ name, c.files.contains name ↔ ∃ bytes, t.Reaches [name] bytes
  texts : ∀ name text, c.files.get? name = some text →
    ∃ bytes, t.Reaches [name] bytes ∧ (FileTree.file bytes).text = .ok text

variable {c : ConfigContent} {path : String} {t : FileTree} {entries : List (String × FileTree)}

/-- The file of an entry, with its name. -/
def readEntry (path : String) (e : String × FileTree) : Except Unread (String × String) := do
  return (e.1, ← read (Path.join path e.1) (.ok e.2))

theorem readEntry_ok {e : String × FileTree} {f : String × String} :
    readEntry path e = .ok f ↔ f.1 = e.1 ∧ e.2.text = .ok f.2 := by
  rcases f with ⟨name, body⟩
  have hread : readEntry path e =
      (e.2.text.mapError (Unread.mk (Path.join path e.1) ·)).map (Prod.mk e.1 ·) := rfl
  rw [hread]
  cases e.2.text with
  | error failure => simp [Except.mapError, Except.map]
  | ok text => simp [Except.mapError, Except.map, eq_comm]

theorem ofTree_directory : ofTree path (.ok (.directory entries)) =
    ((entries.filter (·.2.isFile)).mapM (readEntry path)).map fun files =>
      { files := .ofList files, isDir := true } := by
  rfl

/-- The texts among the files of a directory can all be read. -/
theorem exists_holds (hlegible : (FileTree.directory entries).IsLegible) :
    ∃ c, ofTree path (.ok (.directory entries)) = .ok c ∧ c.Holds (.directory entries) := by
  have hfile : ∀ e : String × FileTree, e ∈ entries.filter (·.2.isFile) →
      ∃ bytes, e.2 = .file bytes ∧ (FileTree.directory entries).Reaches [e.1] bytes := by
    rintro ⟨name, t⟩ he
    obtain ⟨hmem, hkind⟩ := List.mem_filter.1 he
    cases t with
    | file bytes => exact ⟨bytes, rfl, FileTree.reaches_singleton.2 hmem⟩
    | directory inner => cases hkind
  have hread : ∀ e ∈ entries.filter (·.2.isFile), failure? (readEntry path e) = none := by
    intro e he
    obtain ⟨bytes, hbytes, hreaches⟩ := hfile e he
    obtain ⟨text, htext⟩ := hlegible _ _ hreaches
    exact failure?_eq_none.2 ⟨(e.1, text), readEntry_ok.2 ⟨rfl, hbytes ▸ htext⟩⟩
  obtain ⟨files, hfiles⟩ :
      ∃ files, (entries.filter (·.2.isFile)).mapM (readEntry path) = .ok files := by
    rw [← failure?_eq_none, failure?_mapM hread]
    simp
  have hpairs := mapM_ok hfiles
  have hnames : files.map Prod.fst = (entries.filter (·.2.isFile)).map Prod.fst :=
    map_eq_map (hpairs.imp fun e f hok => (readEntry_ok.1 hok).1)
  have hof : ofTree path (.ok (.directory entries)) =
      .ok { files := .ofList files, isDir := true } := by
    rw [ofTree_directory, hfiles]
    rfl
  refine ⟨_, hof, rfl, ?_, ?_⟩
  · intro name
    rw [Dict.contains_ofList, hnames, List.mem_map]
    constructor
    · rintro ⟨e, he, rfl⟩
      obtain ⟨bytes, _, hreaches⟩ := hfile e he
      exact ⟨bytes, hreaches⟩
    · rintro ⟨bytes, hreaches⟩
      have hmem := FileTree.reaches_singleton.1 hreaches
      exact ⟨(name, .file bytes), List.mem_filter.2 ⟨hmem, rfl⟩, rfl⟩
  · intro name text htext
    obtain ⟨e, he, hok⟩ := exists_left hpairs (Dict.mem_of_get?_ofList htext)
    obtain ⟨bytes, hbytes, hreaches⟩ := hfile e he
    obtain ⟨rfl, hbody⟩ := readEntry_ok.1 hok
    exact ⟨bytes, hreaches, hbytes ▸ hbody⟩

theorem data_configMap_eq_none {name label : String} :
    (c.configMap name label).data = none ↔ c.files.size = 0 := by
  have hsize : c.data.size = 0 ↔ c.files.size = 0 := by
    rw [data, Dict.size_ofList, List.length_eq_zero_iff, List.dedup_eq_nil, List.map_eq_nil_iff,
      List.map_eq_nil_iff, Dict.size, List.length_eq_zero_iff]
  rw [← hsize, configMap, Dict.size, List.length_eq_zero_iff, ← List.isEmpty_iff]
  exact ite_eq_left_iff.trans (by simp [Dict.isEmpty])

end ConfigContent

/-- A volume as it is loaded, with what is found on a disk. -/
def DeclaredVolume.loaded (v : DeclaredVolume) (disk : FileSystem) (base : String) :
    Except Problem (Option DeclaredVolume) :=
  ((Loading.withContent base v : ExceptT Problem (StateM FileSystem) _).run.run disk).1

/-- What is read from a directory, and where it goes: it holds the directory's own files, volumes of
the directory are loaded with it, and a config map of it has data if there are files. -/
structure ConfigContent.IsReadFrom (c : ConfigContent) (path : String) (t : FileTree) : Prop where
  read : ofTree path (.ok t) = .ok c
  holds : c.Holds t
  loaded : ∀ (v : DeclaredVolume) (disk : FileSystem) (base host : String),
    filled v.host = some host → v.config = none → Path.join base host = path →
    disk.look path = .ok t → HostPath.classify path (.ok t) = .configuration →
    v.loaded disk base = .ok (some { v with config := some c })
  emitted : ∀ name workload, (c.configMap name workload).data = none ↔ c.files.size = 0

section Loaded

variable {disk : FileSystem} {t : FileTree} {base host path : String} {v : DeclaredVolume} {c : ConfigContent}
  {entries : List (String × FileTree)}

theorem run_look {α : Type}
    {next : Except SystemError FileTree → ExceptT Problem (StateM FileSystem) α} :
    (liftM (Disk.look path : StateM FileSystem _) >>= next).run.run disk =
      (next (disk.look path)).run.run disk :=
  rfl

theorem loaded_eq (hhost : filled v.host = some host) (hnew : v.config = none)
    (hlook : disk.look (Path.join base host) = .ok t)
    (hfound : HostPath.classify (Path.join base host) (.ok t) = .configuration)
    (hread : ConfigContent.ofTree (Path.join base host) (.ok t) = .ok c) :
    v.loaded disk base = .ok (some { v with config := some c }) := by
  have hcontent : (Loading.configContent (Path.join base host) :
      ExceptT Problem (StateM FileSystem) _).run.run disk = (.ok c, disk) := by
    rw [Loading.configContent, run_look, hlook, hread]
    rfl
  rw [DeclaredVolume.loaded, Loading.withContent, hhost]
  dsimp only
  rw [run_look, hlook, hfound, hnew]
  dsimp only
  rw [if_neg (by simp), ExceptT.run_bind, StateT.run_bind, hcontent]
  rfl

theorem exists_isReadFrom (hlegible : (FileTree.directory entries).IsLegible) :
    ∃ c : ConfigContent, c.IsReadFrom path (.directory entries) := by
  obtain ⟨c, hread, hholds⟩ : ∃ c, ConfigContent.ofTree path (.ok (.directory entries)) = .ok c ∧
      c.Holds (.directory entries) := ConfigContent.exists_holds hlegible
  refine ⟨c, hread, hholds, ?_, fun _ _ => ConfigContent.data_configMap_eq_none⟩
  rintro v disk base host hhost hnew rfl hlook hfound
  exact loaded_eq hhost hnew hlook hfound hread

end Loaded

/-- A directory of texts is configuration where a file stands anywhere below it, and the search for
one always ends. What is read are the directory's own files. So there is something to read wherever
configuration is found, unless all files stand in directories further down. -/
theorem detected_has_content_iff (path : String) (entries : List (String × FileTree))
    (hlegible : (FileTree.directory entries).IsLegible) :
    FileTree.search [entries] = (FileTree.directory entries).holdsFile ∧
    (HostPath.classify path (.ok (.directory entries)) = .configuration ↔
      ¬ HostPath.Ignored path ∧ ∃ names bytes, (FileTree.directory entries).Reaches names bytes) ∧
    ∃ c : ConfigContent, c.IsReadFrom path (.directory entries) ∧
      ((HostPath.classify path (.ok (.directory entries)) = .configuration → 1 ≤ c.files.size) ↔
        HostPath.Ignored path ∨ ¬ (FileTree.directory entries).BuriesFiles) := by
  have hfound : HostPath.classify path (.ok (.directory entries)) = .configuration ↔
      ¬ HostPath.Ignored path ∧
        ∃ names bytes, (FileTree.directory entries).Reaches names bytes := by
    rw [HostPath.classify_eq_configuration, FileTree.holdsFile_iff]
  obtain ⟨c, hc⟩ : ∃ c : ConfigContent, c.IsReadFrom path (.directory entries) :=
    exists_isReadFrom hlegible
  have hfiles : 1 ≤ c.files.size ↔
      ∃ name bytes, (FileTree.directory entries).Reaches [name] bytes :=
    Dict.size_pos_iff.trans (exists_congr hc.holds.names)
  refine ⟨?_, hfound, c, hc, ?_⟩
  · rw [FileTree.search_eq, List.any_cons, List.any_nil, Bool.or_false, FileTree.holdsFile]
  · rw [hfound, hfiles, FileTree.BuriesFiles, not_and_not_right, or_iff_not_imp_left, and_imp]

/-- A site with a page and, further down, a style sheet. -/
def siteEntries : List (String × FileTree) :=
  [("css", .directory [("main.css", .file "body {}".toUTF8)]),
    ("index.html", .file "<h1>hi</h1>".toUTF8)]

/-- The page makes the site configuration with something to read. -/
theorem detected_has_content_iff_site : (FileTree.directory siteEntries).IsLegible ∧
    HostPath.classify "site" (.ok (.directory siteEntries)) = .configuration ∧
    ∃ c : ConfigContent, c.IsReadFrom "site" (.directory siteEntries) ∧ 1 ≤ c.files.size := by
  have hlegible : (FileTree.directory siteEntries).IsLegible := by
    simp [siteEntries, FileTree.isLegible_directory, FileTree.isLegible_file,
      FileTree.text_toByteArray]
  have hfound : HostPath.classify "site" (.ok (.directory siteEntries)) = .configuration := by
    decide
  have hpage : ¬ (FileTree.directory siteEntries).BuriesFiles := fun hburies =>
    hburies.2 ⟨"index.html", _, FileTree.reaches_singleton.2 (List.mem_cons_of_mem _ (.head _))⟩
  obtain ⟨_, _, c, hread, hiff⟩ := detected_has_content_iff "site" siteEntries hlegible
  exact ⟨hlegible, hfound, c, hread, hiff.2 (.inr hpage) hfound⟩

/-- A directory whose only file is one directory further down. -/
def buriedEntries : List (String × FileTree) :=
  [("conf.d", .directory [("app.conf", .file "mode=prod".toUTF8)])]

/-- The file makes the directory configuration, and is not read. -/
theorem not_all_detected_have_content : ¬ ∀ (path : String) (entries : List (String × FileTree)),
    (FileTree.directory entries).IsLegible →
    HostPath.classify path (.ok (.directory entries)) = .configuration →
    ∃ c, ConfigContent.ofTree path (.ok (.directory entries)) = .ok c ∧ 1 ≤ c.files.size := by
  intro h
  have hlegible : (FileTree.directory buriedEntries).IsLegible := by
    simp [buriedEntries, FileTree.isLegible_directory, FileTree.isLegible_file,
      FileTree.text_toByteArray]
  have hnothing : ConfigContent.ofTree "conf" (.ok (.directory buriedEntries)) =
      .ok { isDir := true } := rfl
  obtain ⟨c, hread, hsize⟩ := h "conf" buriedEntries hlegible (by decide)
  cases hnothing.symm.trans hread
  exact absurd hsize (by decide)

end Manifests
