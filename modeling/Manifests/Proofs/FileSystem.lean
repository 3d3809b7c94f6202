import Manifests.Files.System
import Manifests.Proofs.FileTree
import Manifests.Proofs.Text

/-! What writing a file changes in a system of files, and what it leaves as it was. -/
namespace Manifests

theorem Path.steps_ne_nil {path : String} : Path.steps path ≠ [] := by
  rw [Path.steps]
  exact mt List.map_eq_nil_iff.1 pieces_ne_nil

namespace FileSystem

variable {s s' s'' : FileSystem} {x : FileTree} {names steps : List String} {name path : String}
  {target : FileTree.Target} {bytes : ByteArray}

theorem names_ok_iff : s.names path = .ok names ↔ ∃ start, s.extent.start? path = some start ∧
    s.tree.walk start (Path.steps path) = .ok names.reverse := by
  rw [FileSystem.names]
  cases s.extent.start? path with
  | none => simp
  | some start =>
    cases hwalk : s.tree.walk start (Path.steps path) with
    | error e => simp [hwalk, Except.map]
    | ok found => simp [hwalk, Except.map, List.reverse_eq_iff]

theorem look_congr {path' : String} (h : s.names path = s.names path') :
    s.look path = s.look path' := by
  rw [look, look, h]

theorem look_eq (hnames : s.names path = .ok names) (hat : s.tree.at? names = some x) :
    s.look path = .ok x := by
  rw [look, hnames]
  simp only [Except.bind, hat]

/-- A path leads to something of the name of its last step. -/
theorem getLast?_of_names (hsteps : Path.steps path = steps ++ [name])
    (hname : name ≠ "." ∧ name ≠ "..") (h : s.names path = .ok names) :
    names.getLast? = some name := by
  obtain ⟨start, _, hwalk⟩ := names_ok_iff.1 h
  rw [hsteps] at hwalk
  rw [← List.head?_reverse]
  exact FileTree.head?_of_walk hname hwalk

/-- All directories are there, with all names that they had, and paths start where they did. -/
structure Extends (s s' : FileSystem) : Prop where
  extent_eq : s'.extent = s.extent
  tree : s.tree.Extends s'.tree

theorem Extends.refl (s : FileSystem) : s.Extends s := ⟨rfl, .refl s.tree⟩

namespace Extends

variable (h : s.Extends s')

include h

theorem trans (h' : s'.Extends s'') : s.Extends s'' :=
  ⟨h'.extent_eq.trans h.extent_eq, h.tree.trans h'.tree⟩

/-- A path leads where it led before. -/
theorem names_eq (hnames : s.names path = .ok names) : s'.names path = .ok names := by
  obtain ⟨start, hstart, hwalk⟩ := names_ok_iff.1 hnames
  refine names_ok_iff.2 ⟨start, ?_, h.tree.walk_eq hwalk⟩
  rw [h.extent_eq]
  exact hstart

end Extends

/-- A path points to a name that a file can have. -/
structure Points (s : FileSystem) (path : String) (target : FileTree.Target) : Prop where
  walked : ∃ start front, s.extent.start? path = some start ∧
    Path.steps path = front ++ [target.name] ∧ s.tree.walk start front = .ok target.parent.reverse
  proper : target.name ≠ "." ∧ target.name ≠ ".." ∧
    target.name.utf8ByteSize ≤ FileTree.maxNameSize
  free : target.IsFree s.tree

/-- A file can only be written where a path points to. -/
theorem writeFile_ok (h : s.writeFile path bytes = .ok s') :
    ∃ target, s.Points path target ∧ s' = s.put target (.file bytes) := by
  rw [writeFile] at h
  obtain ⟨target, htarget, h⟩ := bind_ok h
  rw [FileSystem.target] at htarget
  split at htarget
  · rename_i start hstart
    have hreached := FileTree.target_ok Path.steps_ne_nil htarget
    obtain ⟨entries, hat, hcase⟩ := hreached.parent
    split at h
    · cases h
    · rename_i hentry
      cases h
      rcases hcase with ⟨_, hempty⟩ | ⟨hproper, hlookup⟩
      · rw [hempty] at hentry
        exact (hentry rfl).elim
      · have hfree : target.IsFree s.tree := by
          refine ⟨⟨entries, hat⟩, fun inner hinner => ?_⟩
          rw [FileTree.at?_names hat] at hinner
          rw [hlookup, hinner] at hentry
          exact hentry rfl
        exact ⟨target, ⟨⟨start, _, hstart, hreached.steps_eq, hreached.walked⟩, hproper, hfree⟩,
          rfl⟩
  · cases htarget

/-- A file was written at a place, and all else is there as before. -/
structure Stored (s : FileSystem) (path : String) (bytes : ByteArray) (place : List String)
    (s' : FileSystem) : Prop where
  names_eq : s'.names path = .ok place
  stored : s'.tree.at? place = some (.file bytes)
  grown : s.Extends s'
  frame : ∀ names b, names ≠ place → s.tree.at? names = some (.file b) →
    s'.tree.at? names = some (.file b)

namespace Points

variable (h : s.Points path target)

include h

theorem extends_put : s.Extends (s.put target (.file bytes)) := ⟨rfl, h.free.extends_put⟩

/-- The path leads to what is put where it points to. -/
theorem names_put : (s.put target (.file bytes)).names path = .ok target.names := by
  obtain ⟨start, front, hstart, hsteps, hwalk⟩ := h.walked
  obtain ⟨old, hparent⟩ := h.free.parent
  have hextends : s.tree.Extends (s.tree.put (.file bytes) target.names) := h.free.extends_put
  obtain ⟨entries, hat, _⟩ := hextends target.parent old hparent
  have hthere : entries.lookup target.name = some (.file bytes) := by
    rw [← FileTree.at?_names hat]
    exact FileTree.at?_put_self
  have hpasses : FileTree.Passes entries target.name := by
    refine Or.inr (Or.inr ⟨h.proper.2.2, ?_⟩)
    rw [hthere]
    rfl
  have hmoved : FileTree.moved target.parent.reverse target.name = target.names.reverse := by
    rw [FileTree.moved, if_neg h.proper.1, if_neg h.proper.2.1, FileTree.Target.names,
      List.reverse_append, List.reverse_singleton, List.singleton_append]
  refine names_ok_iff.2 ⟨start, hstart, ?_⟩
  rw [put, hsteps, FileTree.walk_append (hextends.walk_eq hwalk),
    FileTree.walk_cons (by rwa [List.reverse_reverse]) hpasses, hmoved, FileTree.walk]

theorem stored_put : s.Stored path bytes target.names (s.put target (.file bytes)) :=
  ⟨h.names_put, FileTree.at?_put_self, h.extends_put, fun _ _ hne hat => h.free.frame_put hne hat⟩

end Points

theorem exists_stored (h : s.writeFile path bytes = .ok s') :
    ∃ place, s.Stored path bytes place s' := by
  obtain ⟨target, hpoints, rfl⟩ := writeFile_ok h
  exact ⟨_, hpoints.stored_put⟩

end FileSystem

end Manifests
