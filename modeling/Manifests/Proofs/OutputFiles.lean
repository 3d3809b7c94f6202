import Manifests.Proofs.FileNames
import Manifests.Proofs.FileSystem

/-! What a directory holds after objects were written into it. -/
namespace Manifests

variable {services : Dict Service} {opt : Options} {objects : List Object} {o : Object}
  {format : Format}

/-- The path of the file of an object below a directory. -/
def Object.filePath (path : String) (format : Format) (o : Object) : String :=
  Path.join path (o.fileName format)

section Run

variable {path : String} {s s' s'' : FileSystem} {written rest : List Object} {last : Object}

/-- Of all objects that were written, the last whose path leads to the same place. -/
def LastAt (s : FileSystem) (path : String) (format : Format) (written : List Object)
    (o last : Object) : Prop :=
  ∃ before after, written = before ++ last :: after ∧
    s.names (last.filePath path format) = s.names (o.filePath path format) ∧
    ∀ b ∈ after, s.names (b.filePath path format) ≠ s.names (o.filePath path format)

/-- Objects were written one after another. At every place is the manifest of the last of those
whose paths lead there. -/
structure Wrote (s : FileSystem) (path : String) (format : Format) (written : List Object)
    (s' : FileSystem) : Prop where
  grown : s.Extends s'
  frame : ∀ names b, s.tree.at? names = some (.file b) →
    (∀ o ∈ written, s'.names (o.filePath path format) ≠ .ok names) →
    s'.tree.at? names = some (.file b)
  leads : ∀ o ∈ written, ∃ names, s'.names (o.filePath path format) = .ok names
  last : ∀ o ∈ written, ∃ last, LastAt s' path format written o last ∧
    s'.look (o.filePath path format) = .ok (.file (last.render format).toUTF8)

theorem Wrote.nil : Wrote s path format [] s :=
  ⟨.refl s, fun _ _ h _ => h, fun _ h => (by cases h), fun _ h => (by cases h)⟩

theorem LastAt.cons {b : Object} (h : LastAt s path format written o last) :
    LastAt s path format (b :: written) o last := by
  obtain ⟨before, after, rfl, hsame, hafter⟩ := h
  exact ⟨b :: before, after, rfl, hsame, hafter⟩

/-- One more object is written before the others. -/
theorem Wrote.cons {place : List String}
    (hs : s.Stored (o.filePath path format) (o.render format).toUTF8 place s')
    (h : Wrote s' path format written s'') : Wrote s path format (o :: written) s'' := by
  have hplace : s''.names (o.filePath path format) = .ok place := h.grown.names_eq hs.names_eq
  refine ⟨hs.grown.trans h.grown, fun names b hat hnone => ?_, fun x hx => ?_, fun x hx => ?_⟩
  · have hne : names ≠ place := by
      rintro rfl
      exact hnone o List.mem_cons_self hplace
    exact h.frame names b (hs.frame names b hne hat)
      fun x hx => hnone x (List.mem_cons_of_mem _ hx)
  · rcases List.mem_cons.1 hx with rfl | hx
    · exact ⟨place, hplace⟩
    · exact h.leads x hx
  · rcases List.mem_cons.1 hx with rfl | hx
    · by_cases hlater : ∃ b ∈ written, s''.names (b.filePath path format) = .ok place
      · -- What is left here is what was written last to the place of that other object.
        obtain ⟨b, hb, hb'⟩ := hlater
        have hsame := hb'.trans hplace.symm
        obtain ⟨last, ⟨before, after, rfl, hlast, hafter⟩, hlook⟩ := h.last b hb
        refine ⟨last, ⟨_ :: before, after, rfl, hlast.trans hsame, fun c hc => ?_⟩, ?_⟩
        · rw [← hsame]
          exact hafter c hc
        · rw [← FileSystem.look_congr hsame]
          exact hlook
      · refine ⟨_, ⟨[], written, rfl, rfl, fun b hb hsame => ?_⟩, ?_⟩
        · exact hlater ⟨b, hb, hsame.trans hplace⟩
        · exact FileSystem.look_eq hplace
            (h.frame place _ hs.stored fun b hb hsame => hlater ⟨b, hb, hsame⟩)
    · obtain ⟨last, hlast, hlook⟩ := h.last x hx
      exact ⟨last, hlast.cons, hlook⟩

end Run

namespace OutputTarget

variable {path : String} {s s' : FileSystem}

/-- What comes of writing objects below a directory, and the files after it. -/
def intoDirectory (objects : List Object) (format : Format) (path : String) (s : FileSystem) :
    Except Problem Written × FileSystem :=
  (write objects format (.directory path) :
    ExceptT Problem (StateM FileSystem) Written).run.run s

section Program

variable {α β : Type} {act : ExceptT Problem (StateM FileSystem) α}
  {next : α → ExceptT Problem (StateM FileSystem) β}

theorem run_bind_ok {a : α} (h : act.run.run s = (.ok a, s')) :
    (act >>= next).run.run s = (next a).run.run s' := by
  rw [ExceptT.run_bind, StateT.run_bind, h]
  rfl

theorem run_bind_error {problem : Problem} (h : act.run.run s = (.error problem, s')) :
    (act >>= next).run.run s = (.error problem, s') := by
  rw [ExceptT.run_bind, StateT.run_bind, h]
  rfl

theorem run_orOutput {deed : StateM FileSystem (Except SystemError α)} {r : Except SystemError α}
    (context : String) (h : deed.run s = (r, s')) :
    (orOutput deed context).run.run s =
      (r.mapError fun e => .output (context ++ e.message), s') := by
  have hlift :
      (liftM deed : ExceptT Problem (StateM FileSystem) (Except SystemError α)).run.run s =
        (.ok r, s') := by
    change (do let p ← deed.run s; pure (Except.ok p.1, p.2) : Id _) = _
    rw [h]
    rfl
  rw [orOutput, run_bind_ok hlift]
  cases r <;> rfl

end Program

theorem run_writeFile {text : String} {r : Except SystemError FileSystem}
    (h : s.writeFile path text.toUTF8 = r) :
    (writeFile path text : ExceptT Problem (StateM FileSystem) Unit).run.run s =
      (r.map (fun _ => ()) |>.mapError fun e => .output ("" ++ e.message),
        r.toOption.getD s) := by
  have hwrite : (Disk.writeFile path text : StateM FileSystem (Except SystemError Unit)).run s =
      (r.map fun _ => (), r.toOption.getD s) := by
    simp only [Disk.writeFile, StateT.run_bind, StateT.run_get, pure_bind, h]
    cases r <;> rfl
  exact run_orOutput "" hwrite

/-- What the program does for one object. -/
def putObject (format : Format) (path : String) (o : Object) :
    ExceptT Problem (StateM FileSystem) String := do
  writeFile (o.filePath path format) (o.render format)
  return o.filePath path format

/-- Objects are written until one of them cannot be. -/
theorem wrote_of_run {r : Except Problem (List String)}
    (h : (objects.mapM (putObject format path)).run.run s = (r, s')) :
    ∃ written rest, objects = written ++ rest ∧ Wrote s path format written s' ∧
      ∀ paths, r = .ok paths → rest = [] ∧ paths = objects.map (·.filePath path format) := by
  induction objects generalizing s s' r with
  | nil =>
    cases h
    exact ⟨[], [], rfl, .nil, fun _ hr => by cases hr; exact ⟨rfl, rfl⟩⟩
  | cons o objects ih =>
    rw [List.mapM_cons] at h
    cases hw : s.writeFile (o.filePath path format) (o.render format).toUTF8 with
    | error e =>
      have hput : (putObject format path o).run.run s = (.error (.output ("" ++ e.message)), s) :=
        run_bind_error (run_writeFile hw)
      rw [run_bind_error hput] at h
      cases h
      exact ⟨[], o :: objects, rfl, .nil, fun _ hr => by cases hr⟩
    | ok s₁ =>
      have hput : (putObject format path o).run.run s = (.ok (o.filePath path format), s₁) :=
        run_bind_ok (run_writeFile hw)
      rw [run_bind_ok hput] at h
      obtain ⟨place, hstored⟩ := FileSystem.exists_stored hw
      rcases hrest : (objects.mapM (putObject format path)).run.run s₁ with ⟨r', s₂⟩
      obtain ⟨written, rest, hobjects, hwrote, hpaths⟩ := ih hrest
      refine ⟨o :: written, rest, by rw [hobjects, List.cons_append], ?_⟩
      cases r' with
      | error problem =>
        rw [run_bind_error hrest] at h
        cases h
        exact ⟨hwrote.cons hstored, fun _ hr => by cases hr⟩
      | ok paths =>
        rw [run_bind_ok hrest] at h
        cases h
        refine ⟨hwrote.cons hstored, fun all hr => ?_⟩
        obtain ⟨hnone, rfl⟩ := hpaths paths rfl
        cases hr
        exact ⟨hnone, rfl⟩

/-- A run into a directory ends with files for all objects, or for those before the first one that
could not be written. -/
theorem wrote_intoDirectory (objects : List Object) (format : Format) (path : String)
    (s : FileSystem) : ∃ s₁ written rest, objects = written ++ rest ∧
    Wrote s₁ path format written (intoDirectory objects format path s).2 ∧
    ∀ w, (intoDirectory objects format path s).1 = .ok w →
      rest = [] ∧ w.paths = objects.map (·.filePath path format) := by
  rcases hmade :
    (Disk.makeDirectories path : StateM FileSystem (Except SystemError Unit)).run s with
    ⟨r, s₁⟩
  have hdirectory := run_orOutput "" hmade
  have hwrite : intoDirectory objects format path s =
      ((orOutput (Disk.makeDirectories path) "" : ExceptT Problem (StateM FileSystem) Unit) >>=
        fun _ => objects.mapM (putObject format path) >>= fun paths =>
          pure { paths }).run.run s := rfl
  cases r with
  | error e =>
    rw [hwrite, run_bind_error hdirectory]
    exact ⟨s₁, [], objects, rfl, .nil, fun _ hw => by cases hw⟩
  | ok _ =>
    rcases hrun : (objects.mapM (putObject format path)).run.run s₁ with ⟨r', s₂⟩
    obtain ⟨written, rest, hobjects, hwrote, hpaths⟩ := wrote_of_run hrun
    rw [hwrite, run_bind_ok hdirectory]
    cases r' with
    | error problem =>
      rw [run_bind_error hrun]
      exact ⟨s₁, written, rest, hobjects, hwrote, fun _ hw => by cases hw⟩
    | ok paths =>
      rw [run_bind_ok hrun]
      refine ⟨s₁, written, rest, hobjects, hwrote, fun w hw => ?_⟩
      cases hw
      exact hpaths paths rfl

end OutputTarget

section Places

variable {path : String} {s : FileSystem}

/-- A name without slashes is the last step of a path that ends with it. -/
theorem steps_append {name whole : String} (front : List Char) (hslash : '/' ∉ name.toList)
    (hname : name ≠ "") (hwhole : whole.toList = front ++ '/' :: name.toList) :
    ∃ steps, Path.steps whole = steps ++ [name] := by
  have hnil : name.toList ≠ [] := fun h => hname (String.toList_eq_nil_iff.1 h)
  rw [Path.steps, hwhole, pieces_append_cons, pieces_of_notMem hslash, List.map_append,
    List.map_singleton, if_neg hnil, String.ofList_toList]
  exact ⟨_, rfl⟩

theorem steps_join (path : String) {name : String} (hslash : '/' ∉ name.toList) (hname : name ≠ "") :
    ∃ steps, Path.steps (Path.join path name) = steps ++ [name] := by
  have hnil : name.toList ≠ [] := fun h => hname (String.toList_eq_nil_iff.1 h)
  have hrelative : Path.isAbsolute name = false := by
    rw [Path.isAbsolute, beq_eq_false_iff_ne]
    exact fun hhead => hslash (List.mem_of_mem_head? hhead)
  rw [Path.join, hrelative, Bool.false_or]
  split
  · rw [Path.steps, pieces_of_notMem hslash, List.map_singleton, if_neg hnil, String.ofList_toList]
    exact ⟨[], rfl⟩
  · split
    · rename_i hlast
      obtain ⟨front, hfront⟩ := List.getLast?_eq_some_iff.1 (beq_iff_eq.1 hlast)
      refine steps_append front hslash hname ?_
      rw [String.toList_append, hfront, List.append_assoc]
      rfl
    · refine steps_append path.toList hslash hname ?_
      rw [String.toList_append, String.toList_append, List.append_assoc]
      rfl

/-- Where no name has a slash, different files are at different places. -/
theorem Wrote.look_eq {s' : FileSystem} {written : List Object}
    (h : Wrote s path format written s') (hnames : (written.map (·.fileName format)).Nodup)
    (hslash : ∀ o ∈ written, '/' ∉ o.name.toList) (ho : o ∈ written) :
    s'.look (o.filePath path format) = .ok (.file (o.render format).toUTF8) := by
  have hlast : ∀ b ∈ written, ∀ names, s'.names (b.filePath path format) = .ok names →
      names.getLast? = some (b.fileName format) := by
    intro b hb names hplace
    have hproper : ∀ w : String, '-' ∉ w.toList → b.fileName format ≠ w := by
      rintro w hw rfl
      exact hw hyphen_mem_fileName
    obtain ⟨steps, hsteps⟩ :=
      steps_join path (plain_fileName (hslash b hb)) (hproper "" (by decide))
    exact FileSystem.getLast?_of_names hsteps
      ⟨hproper "." (by decide), hproper ".." (by decide)⟩ hplace
  obtain ⟨last, ⟨before, after, hwritten, hsame, _⟩, hlook⟩ := h.last o ho
  obtain ⟨names, hplace⟩ := h.leads o ho
  have hmem : last ∈ written := by
    rw [hwritten]
    exact List.mem_append_right _ List.mem_cons_self
  have hfile : last.fileName format = o.fileName format := by
    have hlast' := hlast last hmem names (hsame.trans hplace)
    rw [hlast o ho names hplace] at hlast'
    exact (Option.some_inj.1 hlast').symm
  rw [← List.inj_on_of_nodup_map hnames hmem ho hfile]
  rw [← List.inj_on_of_nodup_map hnames hmem ho hfile] at hlook
  exact hlook

end Places

open OutputTarget (intoDirectory)

/-- No two objects have files of one name, but where names hold slashes, different paths can lead to
one place. A run writes all objects, or those before the first that cannot be written. It leaves at
every place the manifest of the last object whose path leads there, so that the others are lost.
Where no name holds a slash, no object is lost. -/
theorem files_of_objects (h : convert services opt = .ok objects) (format : Format) (path : String)
    (s : FileSystem) : (objects.map (·.fileName format)).Nodup ∧
      ∃ written rest, objects = written ++ rest ∧
        (∀ w, (intoDirectory objects format path s).1 = .ok w →
          rest = [] ∧ w.paths = objects.map (·.filePath path format)) ∧
        (∀ o ∈ written, ∃ last,
          LastAt (intoDirectory objects format path s).2 path format written o last ∧
          (intoDirectory objects format path s).2.look (o.filePath path format) =
            .ok (.file (last.render format).toUTF8)) ∧
        ((∀ o ∈ written, '/' ∉ o.name.toList) → ∀ o ∈ written,
          (intoDirectory objects format path s).2.look (o.filePath path format) =
            .ok (.file (o.render format).toUTF8)) := by
  have hnames : (objects.map (·.fileName format)).Nodup := nodup_fileNames h
  obtain ⟨s₁, written, rest, hobjects, hwrote, hresult⟩ :=
    OutputTarget.wrote_intoDirectory objects format path s
  have hwritten : (written.map (·.fileName format)).Nodup := by
    rw [hobjects, List.map_append] at hnames
    exact (List.nodup_append.1 hnames).1
  exact ⟨hnames, written, rest, hobjects, hresult, hwrote.last,
    fun hslash o ho => hwrote.look_eq hwritten hslash ho⟩

/-- A system with nothing in it but an empty working directory. -/
def bareSystem : FileSystem :=
  { tree := .directory [("home", .empty)], extent := .whole ["home"] }

/-- Two services whose names are two paths to one place. -/
def dottedServices : Dict Service :=
  .ofList [("./web", { image := "redis" }), ("web", { image := "nginx" })]

/-- Both objects are written, and to one file. -/
theorem output_dotted : (convert dottedServices {}).isOk ∧
    (intoDirectory (output dottedServices {}) .yaml "out" bareSystem).1.isOk ∧
    ∃ a ∈ (output dottedServices {}).head?, ∃ b ∈ (output dottedServices {}).getLast?,
      (intoDirectory (output dottedServices {}) .yaml "out" bareSystem).2.names
          (a.filePath "out" .yaml) =
        (intoDirectory (output dottedServices {}) .yaml "out" bareSystem).2.names
          (b.filePath "out" .yaml) ∧
      a.render .yaml ≠ b.render .yaml := by
  decide +kernel

/-- One service whose two objects have hyphens in their names. -/
def hyphenedServices : Dict Service :=
  .ofList [("web-app", { image := "nginx", ports := [{ containerPort := 80 }] })]

theorem files_of_objects_hyphened :
    (∃ w, (intoDirectory (output hyphenedServices {}) .json "/out/" bareSystem).1 = .ok w ∧
      w.paths = ["/out/web-app-service.json", "/out/web-app-deployment.json"]) ∧
    ∀ o ∈ output hyphenedServices {},
      (intoDirectory (output hyphenedServices {}) .json "/out/" bareSystem).2.look
        (o.filePath "/out/" .json) = .ok (.file (o.render .json).toUTF8) := by
  have hrun : (convert hyphenedServices {}).isOk ∧
      (intoDirectory (output hyphenedServices {}) .json "/out/" bareSystem).1.isOk ∧
      (output hyphenedServices {}).map (·.filePath "/out/" .json) =
        ["/out/web-app-service.json", "/out/web-app-deployment.json"] ∧
      ∀ o ∈ output hyphenedServices {}, '/' ∉ o.name.toList := by
    decide +kernel
  obtain ⟨hok, hrun, hpaths, hslash⟩ := hrun
  obtain ⟨_, written, rest, hobjects, hresult, _, hkept⟩ :=
    files_of_objects (convert_output hok) .json "/out/" bareSystem
  cases hw : (intoDirectory (output hyphenedServices {}) .json "/out/" bareSystem).1 with
  | error problem =>
    rw [hw] at hrun
    cases hrun
  | ok w =>
    obtain ⟨hnone, hall⟩ := hresult w hw
    rw [hnone, List.append_nil] at hobjects
    rw [← hobjects] at hkept
    exact ⟨⟨w, rfl, hall.trans hpaths⟩, hkept hslash⟩

theorem not_all_files_kept : ¬ ∀ (services : Dict Service) (opt : Options) (objects : List Object)
    (format : Format) (path : String) (s : FileSystem), convert services opt = .ok objects →
      (intoDirectory objects format path s).1.isOk → ∀ o ∈ objects,
        (intoDirectory objects format path s).2.look (o.filePath path format) =
          .ok (.file (o.render format).toUTF8) := by
  intro h
  obtain ⟨hok, hrun, a, ha, b, hb, hplace, hrender⟩ := output_dotted
  have hkept := h dottedServices {} _ .yaml "out" bareSystem (convert_output hok) hrun
  have hsame := (hkept a (List.mem_of_mem_head? ha)).symm.trans
    ((FileSystem.look_congr hplace).trans (hkept b (List.mem_of_mem_getLast? hb)))
  have hbytes : (a.render .yaml).toUTF8 = (b.render .yaml).toUTF8 :=
    FileTree.file.inj (Except.ok.inj hsame)
  exact hrender (String.toByteArray_inj.1 hbytes)

end Manifests
