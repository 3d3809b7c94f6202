import Manifests.Proofs.Grouping
import Manifests.Proofs.Text

/-! What the group of a service tells of the volumes that the service declares. -/
namespace Manifests

/-- A declared volume as its fingerprint describes it: where it comes from, where it is mounted, and
how. -/
structure MountParts where
  source : String
  container : String
  mode : String
deriving DecidableEq

namespace MountParts

/-- The parts behind one another, the mode only if there is one. -/
def line (p : MountParts) : List Char :=
  if p.mode = "" then p.source.toList ++ ':' :: p.container.toList
  else p.source.toList ++ ':' :: p.container.toList ++ ':' :: p.mode.toList

/-- No part holds the character that stands between them. -/
structure IsPlain (p : MountParts) : Prop where
  source : ':' ∉ p.source.toList
  container : ':' ∉ p.container.toList
  mode : ':' ∉ p.mode.toList

/-- Behind volumes that are the same on both sides come two that are not, and text has moved between
them and what is behind them: the line of one is the line of the other and text from the front of
what follows there. Where no text moves, it is the parts of the two that are cut differently. -/
inductive Blurred : List MountParts → List MountParts → Prop
  | taken {p q : MountParts} {ps qs : List MountParts} {moved : List Char} (hne : p ≠ q)
      (hline : q.line = p.line ++ moved) (hrest : ps.flatMap line = moved ++ qs.flatMap line) :
      Blurred (p :: ps) (q :: qs)
  | given {p q : MountParts} {ps qs : List MountParts} {moved : List Char} (hne : p ≠ q)
      (hline : p.line = q.line ++ moved) (hrest : qs.flatMap line = moved ++ ps.flatMap line) :
      Blurred (p :: ps) (q :: qs)
  | behind {p : MountParts} {ps qs : List MountParts} (h : Blurred ps qs) :
      Blurred (p :: ps) (p :: qs)

/-- Volumes that can be told from what their lines say together: their parts are plain, and no line
on one side is the beginning of another line on the other side. -/
structure Legible (ps qs : List MountParts) : Prop where
  plain : ∀ p ∈ ps ++ qs, p.IsPlain
  prefixFree : ∀ p ∈ ps, ∀ q ∈ qs, p.line <+: q.line ∨ q.line <+: p.line → p.line = q.line

variable {p q : MountParts} {ps qs : List MountParts}

instance : Decidable p.IsPlain :=
  decidable_of_iff (':' ∉ p.source.toList ∧ ':' ∉ p.container.toList ∧ ':' ∉ p.mode.toList)
    ⟨fun ⟨hs, hc, hm⟩ => ⟨hs, hc, hm⟩, fun ⟨hs, hc, hm⟩ => ⟨hs, hc, hm⟩⟩

instance : Decidable (Legible ps qs) :=
  decidable_of_iff ((∀ p ∈ ps ++ qs, p.IsPlain) ∧
      ∀ p ∈ ps, ∀ q ∈ qs, p.line <+: q.line ∨ q.line <+: p.line → p.line = q.line)
    ⟨fun ⟨hplain, hfree⟩ => ⟨hplain, hfree⟩, fun ⟨hplain, hfree⟩ => ⟨hplain, hfree⟩⟩

/-- Plain parts can be told from their line. -/
theorem eq_of_line (hp : p.IsPlain) (hq : q.IsPlain) (h : p.line = q.line) : p = q := by
  rcases p with ⟨source, container, mode⟩
  rcases q with ⟨source', container', mode'⟩
  obtain ⟨hps, hpc, hpm⟩ := hp
  obtain ⟨hqs, hqc, hqm⟩ := hq
  dsimp only [line] at *
  split at h
  · rename_i hmode
    split at h
    · rename_i hmode'
      obtain ⟨hsource, hcontainer⟩ := eq_of_append_cons hpc hqc h
      rw [String.toList_inj.1 hsource, String.toList_inj.1 hcontainer, hmode, hmode']
    · obtain ⟨hsource, _⟩ := eq_of_append_cons hpc hqm h
      exact (hps (by simp [hsource])).elim
  · split at h
    · obtain ⟨hsource, _⟩ := eq_of_append_cons hpm hqc h
      exact (hqs (by simp [← hsource])).elim
    · obtain ⟨hfront, hmode⟩ := eq_of_append_cons hpm hqm h
      obtain ⟨hsource, hcontainer⟩ := eq_of_append_cons hpc hqc hfront
      rw [String.toList_inj.1 hsource, String.toList_inj.1 hcontainer, String.toList_inj.1 hmode]

theorem line_ne_nil : p.line ≠ [] := by
  rw [line]
  split <;> simp

theorem Blurred.ne (h : Blurred ps qs) : ps ≠ qs := by
  induction h with
  | taken hne => exact fun heq => hne (List.cons.inj heq).1
  | given hne => exact fun heq => hne (List.cons.inj heq).1
  | behind _ ih => exact fun heq => ih (List.cons.inj heq).2

theorem Blurred.lines_eq (h : Blurred ps qs) : ps.flatMap line = qs.flatMap line := by
  induction h with
  | taken _ hline hrest =>
    rw [List.flatMap_cons, List.flatMap_cons, hline, hrest, List.append_assoc]
  | given _ hline hrest =>
    rw [List.flatMap_cons, List.flatMap_cons, hline, hrest, List.append_assoc]
  | behind _ ih => rw [List.flatMap_cons, List.flatMap_cons, ih]

/-- Lines that are the same come from the same volumes, or from volumes between which text has
moved. The induction goes along the volumes that are the same. -/
theorem eq_or_blurred (h : ps.flatMap line = qs.flatMap line) : ps = qs ∨ Blurred ps qs := by
  induction ps generalizing qs with
  | nil =>
    cases qs with
    | nil => exact .inl rfl
    | cons q qs =>
      rw [List.flatMap_nil, List.flatMap_cons] at h
      exact (line_ne_nil (List.append_eq_nil_iff.1 h.symm).1).elim
  | cons p ps ih =>
    cases qs with
    | nil =>
      rw [List.flatMap_nil, List.flatMap_cons] at h
      exact (line_ne_nil (List.append_eq_nil_iff.1 h).1).elim
    | cons q qs =>
      rw [List.flatMap_cons, List.flatMap_cons] at h
      by_cases hpq : p = q
      · subst hpq
        rcases ih (List.append_cancel_left h) with rfl | hblurred
        · exact .inl rfl
        · exact .inr (.behind hblurred)
      · rcases List.append_eq_append_iff.1 h with ⟨moved, hline, hrest⟩ | ⟨moved, hline, hrest⟩
        · exact .inr (.taken hpq hline hrest)
        · exact .inr (.given hpq hline hrest)

theorem lines_eq_iff : ps.flatMap line = qs.flatMap line ↔ ps = qs ∨ Blurred ps qs := by
  refine ⟨eq_or_blurred, ?_⟩
  rintro (rfl | h)
  · rfl
  · exact h.lines_eq

theorem Legible.eq_of_line (h : Legible (p :: ps) (q :: qs))
    (hbegins : p.line <+: q.line ∨ q.line <+: p.line) : p = q := by
  have hp := h.plain p List.mem_cons_self
  have hq := h.plain q (List.mem_append_right _ List.mem_cons_self)
  exact MountParts.eq_of_line hp hq (h.prefixFree p List.mem_cons_self q List.mem_cons_self hbegins)

theorem Legible.tail (h : Legible (p :: ps) (q :: qs)) : Legible ps qs where
  plain r hr := by
    rcases List.mem_append.1 hr with hr | hr
    · exact h.plain r (List.mem_append_left _ (List.mem_cons_of_mem _ hr))
    · exact h.plain r (List.mem_append_right _ (List.mem_cons_of_mem _ hr))
  prefixFree a ha b hb := h.prefixFree a (List.mem_cons_of_mem _ ha) b (List.mem_cons_of_mem _ hb)

theorem Blurred.not_legible (h : Blurred ps qs) : ¬ Legible ps qs := by
  induction h with
  | taken hne hline =>
    exact fun hlegible => hne (hlegible.eq_of_line (.inl (hline ▸ List.prefix_append _ _)))
  | given hne hline =>
    exact fun hlegible => hne (hlegible.eq_of_line (.inr (hline ▸ List.prefix_append _ _)))
  | behind _ ih => exact fun hlegible => ih hlegible.tail

end MountParts

open MountParts

/-- An absent mode counts as an empty one. -/
def DeclaredVolume.parts (v : DeclaredVolume) : MountParts := ⟨v.source, v.container, v.mode.getD ""⟩

theorem toList_fingerprint {v : DeclaredVolume} : v.fingerprint.toList = v.parts.line := by
  have hcolon : ":".toList = [':'] := rfl
  have hmode : (filled v.mode = none ∧ v.mode.getD "" = "") ∨
      ∃ mode, mode ≠ "" ∧ filled v.mode = some mode ∧ v.mode.getD "" = mode := by
    cases v.mode with
    | none => exact .inl ⟨rfl, rfl⟩
    | some mode =>
      by_cases hempty : mode = ""
      · exact .inl (by simp [filled, Option.filter, hempty])
      · exact .inr ⟨mode, hempty, by simp [filled, Option.filter, hempty]⟩
  rw [DeclaredVolume.fingerprint, MountParts.line, DeclaredVolume.parts]
  rcases hmode with ⟨hnone, hempty⟩ | ⟨mode, hne, hsome, hmode⟩
  · simp [hnone, hempty, hcolon]
  · simp [hsome, hmode, hne, hcolon]

/-- The volumes of a service, as its group describes them. -/
def Service.mountParts (s : Service) : List MountParts := s.volumes.map (·.parts)

theorem toList_idOf {s : Service} :
    (Group.idOf s (some "volume")).toList = s.mountParts.flatMap line := by
  have hid : Group.idOf s (some "volume") = .join (s.volumes.map DeclaredVolume.fingerprint) := rfl
  rw [hid, String.toList_join, Service.mountParts, List.flatMap_map, List.flatMap_map]
  exact List.flatMap_congr fun v _ => toList_fingerprint

/-- Services of one group declare the same volumes, or text has moved between their volumes; all
services between whose volumes text has moved are in one group. None has moved where the parts hold
no separator and no volume's line is the beginning of another one's. -/
theorem idOf_volume_eq_iff (s t : Service) :
    (Group.idOf s (some "volume") = Group.idOf t (some "volume") ↔
      s.mountParts = t.mountParts ∨ Blurred s.mountParts t.mountParts) ∧
    ¬ (s.mountParts = t.mountParts ∧ Blurred s.mountParts t.mountParts) ∧
    (Legible s.mountParts t.mountParts →
      (Group.idOf s (some "volume") = Group.idOf t (some "volume") ↔
        s.mountParts = t.mountParts)) := by
  have hiff : Group.idOf s (some "volume") = Group.idOf t (some "volume") ↔
      s.mountParts = t.mountParts ∨ Blurred s.mountParts t.mountParts := by
    rw [← String.toList_inj, toList_idOf, toList_idOf, lines_eq_iff]
  refine ⟨hiff, fun h => h.2.ne h.1, fun hlegible => ?_⟩
  rw [hiff]
  exact or_iff_left fun hblurred => hblurred.not_legible hlegible

/-- One service mounts `app` at `/var` and `log` at `/log`. -/
def splitService : Service :=
  { image := "api"
    volumes :=
      [{ volumeName := some "app", container := "/var" },
        { volumeName := some "log", container := "/log" }] }

/-- The other one mounts `app` at `/varlog` and a volume without a name at `/log`. -/
def gluedService : Service :=
  { image := "worker"
    volumes :=
      [{ volumeName := some "app", container := "/varlog" }, { container := "/log" }] }

theorem ids_glued : Group.idOf splitService (some "volume") = "app:/varlog:/log" ∧
    Group.idOf gluedService (some "volume") = "app:/varlog:/log" ∧
    splitService.mountParts ≠ gluedService.mountParts := by
  decide +kernel

/-- One service writes to a volume that the other one reads. -/
def writingService : Service :=
  { volumes := [{ volumeName := some "data", container := "/data", mode := some "rw" }] }

def readingService : Service :=
  { volumes := [{ volumeName := some "data", container := "/data", mode := some "ro" }] }

/-- Text has moved between the volumes of the first two services. Those of the last two are
legible, and are told apart. -/
theorem idOf_volume_eq_iff_glued :
    Group.idOf splitService (some "volume") = Group.idOf gluedService (some "volume") ∧
    Blurred splitService.mountParts gluedService.mountParts ∧
    Legible writingService.mountParts readingService.mountParts ∧
    Group.idOf writingService (some "volume") ≠ Group.idOf readingService (some "volume") := by
  obtain ⟨hsplit, hglued, hne⟩ := ids_glued
  have hsame := hsplit.trans hglued.symm
  have hlegible : Legible writingService.mountParts readingService.mountParts := by
    decide +kernel
  have hmode : writingService.mountParts ≠ readingService.mountParts := by
    decide
  obtain ⟨hiff, _, _⟩ := idOf_volume_eq_iff splitService gluedService
  obtain ⟨_, _, hexact⟩ := idOf_volume_eq_iff writingService readingService
  exact ⟨hsame, (hiff.1 hsame).resolve_left hne, hlegible, fun h => hmode ((hexact hlegible).1 h)⟩

/-- Services with different volumes get into one group. -/
theorem not_all_told_apart : ¬ ∀ s t : Service,
    Group.idOf s (some "volume") = Group.idOf t (some "volume") →
      Group.idOf s (some "volume") ≠ "" → s.mountParts = t.mountParts := by
  intro h
  obtain ⟨hsplit, hglued, hne⟩ := ids_glued
  refine hne (h _ _ (hsplit.trans hglued.symm) ?_)
  rw [hsplit]
  decide

end Manifests
