import MarkupSplice.Proofs.FileTree.Finding
import MarkupSplice.Proofs.Update.Visits

/-!
# What a run changes

A visit leaves the whole tree alone or puts one file in the place of the one
that it has read, and it reports which (`visit_sound`). Followed through the
visits of a run (`Visited.changed`) this says that only documents that are
reported as updated have changed, and that each holds what the last report on
it says (`run_changes`).
-/
namespace MarkupSplice

def Mode.changed : Mode → Status
  | .write => .updated
  | .dryRun => .wouldUpdate

section Revisions

variable {task : Task} {scripts : List Path} {path : Path} {t : FileTree} {ds : List Diagnostic}
  {c : Change}

theorem Task.reviseText_eq_change {text : String}
    (h : task.reviseText path scripts text = .change ds c) :
    c.before = text ∧ c.before ≠ c.after := by
  rw [Task.reviseText] at h
  split at h
  · cases h
  · split at h
    · cases h
    · split at h
      · cases h
      · rename_i hne
        obtain ⟨-, rfl⟩ := Revision.change.inj h
        exact ⟨rfl, Ne.symm hne⟩

theorem Task.revise_ok {bytes : Text.Bytes} {text : String}
    (h : task.charset.decode bytes = .ok text) :
    task.revise path scripts (.ok bytes) = task.reviseText path scripts text := by
  unfold Task.revise
  dsimp only
  rw [h]

theorem Task.revise_eq_change {content : Except FileError Text.Bytes}
    (h : task.revise path scripts content = .change ds c) :
    ∃ bytes, content = .ok bytes ∧ task.charset.decode bytes = .ok c.before ∧
      c.before ≠ c.after := by
  cases content with
  | error e => cases h
  | ok bytes =>
    cases hdecode : task.charset.decode bytes with
    | error e =>
      unfold Task.revise at h
      dsimp only at h
      rw [hdecode] at h
      cases h
    | ok text =>
      rw [Task.revise_ok hdecode] at h
      obtain ⟨rfl, hne⟩ := reviseText_eq_change h
      exact ⟨bytes, rfl, hdecode, hne⟩

end Revisions

namespace Visit

inductive Sound (v : Visit) : Prop
  | kept (status : v.outcome.status ≠ .updated) (after : v.after = v.before)
  | stored (place : Place) (old : Text.Bytes) (c : Change) (status : v.outcome.status = .updated)
    (change : v.outcome.change = some c) (inside : place ≠ [])
    (locate : v.before.locate v.outcome.path = .ok place)
    (held : v.before.get? place = some (.file old))
    (after : v.after = v.before.put place (.file (v.charset.encode c.after)))

def Updates (t : FileTree) (place : Place) (v : Visit) : Prop :=
  v.outcome.status = .updated ∧ t.locate v.outcome.path = .ok place

theorem Sound.alike {v : Visit} (h : v.Sound) : FileTree.Alike v.before v.after := by
  cases h with
  | kept status after =>
    rw [after]
    exact .refl v.before
  | stored place old c status change inside locate held after =>
    rw [after]
    exact FileTree.alike_put inside held

theorem Sound.get? {v : Visit} (h : v.Sound) (place : Place) :
    v.after.get? place = v.before.get? place ∧ ¬v.Updates v.before place ∨
      ∃ c, v.Updates v.before place ∧ v.outcome.change = some c ∧
        v.after.get? place = some (.file (v.charset.encode c.after)) := by
  cases h with
  | kept status after =>
    rw [after]
    exact Or.inl ⟨rfl, fun hupdates => status hupdates.1⟩
  | stored place' old c status change inside locate held after =>
    rw [after]
    by_cases hplace : place = place'
    · subst hplace
      exact Or.inr ⟨c, ⟨status, locate⟩, change, by rw [FileTree.get?_put inside, if_pos rfl]⟩
    · refine Or.inl ⟨by rw [FileTree.get?_put inside, if_neg hplace], fun hupdates => hplace ?_⟩
      exact Except.ok.inj (hupdates.2.symm.trans locate)

end Visit

def Outcome.Reports (mode : Mode) (o : Outcome) : Prop :=
  (o.change.isSome = true ↔ o.status = mode.changed) ∧
    ∀ c, o.change = some c → c.before ≠ c.after

namespace Outcome

variable {mode : Mode} {o : Outcome} {c : Change}

theorem reports_of_none (hchange : o.change = none) (hstatus : o.status ≠ mode.changed) :
    o.Reports mode := by
  rw [Reports, hchange]
  exact ⟨iff_of_false nofun hstatus, nofun⟩

theorem reports_of_some (hchange : o.change = some c) (hstatus : o.status = mode.changed)
    (hne : c.before ≠ c.after) : o.Reports mode := by
  rw [Reports, hchange]
  refine ⟨iff_of_true rfl hstatus, fun c' hc' => ?_⟩
  obtain rfl := Option.some.inj hc'
  exact hne

end Outcome

namespace Run

variable {task : Task} {scripts : List Path} {path : Path} {t : FileTree}

theorem visit_sound (ht : t.Unlinked) (task : Task) (scripts : List Path) (path : Path) :
    (visit .write task scripts t path).Sound := by
  rw [visit]
  cases hrevision : task.revise path scripts (t.readFile path) with
  | skip e => exact .kept nofun rfl
  | fail ds => exact .kept nofun rfl
  | keep ds => exact .kept nofun rfl
  | change ds c =>
    obtain ⟨old, hread, -, -⟩ := Task.revise_eq_change hrevision
    cases hreplace : t.replaceFile path (task.charset.encode c.after) with
    | error e =>
      simp only [Revision.write, hreplace]
      exact .kept nofun rfl
    | ok t' =>
      obtain ⟨place, hinside, hlocate, hheld, rfl⟩ := FileTree.put_of_replaceFile ht hread hreplace
      simp only [Revision.write, hreplace]
      exact .stored place old c rfl rfl hinside hlocate hheld rfl

theorem visit_reports (mode : Mode) (task : Task) (scripts : List Path) (t : FileTree)
    (path : Path) : (visit mode task scripts t path).outcome.Reports mode := by
  unfold visit
  cases hrevision : task.revise path scripts (t.readFile path) with
  | change ds c =>
    obtain ⟨-, -, -, hne⟩ := Task.revise_eq_change hrevision
    cases mode with
    | dryRun => exact Outcome.reports_of_some rfl rfl hne
    | write =>
      cases hreplace : t.replaceFile path (task.charset.encode c.after) with
      | error e =>
        simp only [Revision.write, hreplace]
        exact Outcome.reports_of_none rfl nofun
      | ok t' =>
        simp only [Revision.write, hreplace]
        exact Outcome.reports_of_some rfl rfl hne
  | _ => cases mode <;> exact Outcome.reports_of_none rfl nofun

variable {mode : Mode} {vs : List Visit}

theorem Visited.reports (h : Visited mode t vs) : ∀ v ∈ vs, v.outcome.Reports mode := by
  induction h with
  | nil t => exact List.forall_mem_nil _
  | cons t task scripts path rest ih =>
    exact List.forall_mem_cons.2 ⟨visit_reports mode task scripts t path, ih⟩

theorem Visited.treeAfter_dryRun (h : Visited .dryRun t vs) : treeAfter t vs = t := by
  induction h with
  | nil t => rfl
  | cons t task scripts path rest ih => rwa [treeAfter_cons]

/-- What becomes of a place is what the last visit to it with an update says. -/
theorem Visited.changed (h : Visited .write t vs) (ht : t.Unlinked) (place : Place) :
    (treeAfter t vs).get? place = t.get? place ∧ (∀ v ∈ vs, ¬v.Updates t place) ∨
      ∃ front v behind c, vs = front ++ v :: behind ∧ v.Updates t place ∧
        (∀ w ∈ behind, ¬w.Updates t place) ∧ v.outcome.change = some c ∧
        (treeAfter t vs).get? place = some (.file (v.charset.encode c.after)) := by
  induction h with
  | nil t => exact Or.inl ⟨rfl, List.forall_mem_nil _⟩
  | cons t task scripts path rest ih =>
    have hsound := visit_sound ht task scripts path
    have halike : FileTree.Alike t (visit .write task scripts t path).after := hsound.alike
    -- a visit moves no place, so the later ones may be told by where paths lead at first
    have hupdates : ∀ v : Visit,
        v.Updates (visit .write task scripts t path).after place ↔ v.Updates t place := by
      intro v
      rw [Visit.Updates, Visit.Updates, halike.locate ht]
    rw [treeAfter_cons]
    simp only [hupdates] at ih
    rcases ih (halike.unlinked ht) with ⟨hkept, hnone⟩ | ⟨front, v, behind, c, rfl, hlast⟩
    · rw [hkept]
      rcases hsound.get? place with ⟨hget, hnot⟩ | ⟨c, hupdate, hchange, hget⟩
      · exact Or.inl ⟨hget, List.forall_mem_cons.2 ⟨hnot, hnone⟩⟩
      · exact Or.inr ⟨[], _, _, c, rfl, hupdate, hnone, hchange, hget⟩
    · exact Or.inr ⟨_ :: front, v, behind, c, rfl, hlast⟩

theorem Visited.kept (h : Visited .write t vs) (ht : t.Unlinked) :
    ∀ v ∈ vs, v.outcome.status ≠ .updated → v.after = v.before := by
  induction h with
  | nil t => exact List.forall_mem_nil _
  | cons t task scripts path rest ih =>
    have hsound := visit_sound ht task scripts path
    have halike : FileTree.Alike t (visit .write task scripts t path).after := hsound.alike
    refine List.forall_mem_cons.2 ⟨fun hstatus => ?_, ih (halike.unlinked ht)⟩
    cases hsound with
    | kept status after => exact after
    | stored place old c status => exact absurd status hstatus

end Run

/-- Of all places those hold something else than before that an outcome reports as updated, and
they hold what the last one says. -/
theorem run_changes (c : Config) (base : Path) (scripts : List Path) (t : FileTree)
    (ht : t.Unlinked) :
    let run := c.run .write base scripts t
    let vs := c.visits .write base scripts t
    (run.report.documents = vs.map Visit.outcome ∧ run.tree = Run.treeAfter t vs ∧
      Run.Chained t vs) ∧
    (∀ v ∈ vs, v.outcome.status ≠ .updated → v.after = v.before) ∧
    (∀ place, run.tree.get? place = t.get? place ∧ (∀ v ∈ vs, ¬v.Updates t place) ∨
      ∃ front v behind change, vs = front ++ v :: behind ∧ v.Updates t place ∧
        (∀ w ∈ behind, ¬w.Updates t place) ∧ v.outcome.change = some change ∧
        run.tree.get? place = some (.file (v.charset.encode change.after))) ∧
    (c.run .dryRun base scripts t).tree = t ∧
    ∀ mode, ∀ o ∈ (c.run mode base scripts t).report.documents,
      (o.change.isSome = true ↔ o.status = mode.changed) ∧
        ∀ change, o.change = some change → change.before ≠ change.after := by
  have hcomes := fun mode => Run.comes_run c mode base scripts t
  have hvisited := fun mode => Run.visited_run c mode base scripts t
  have hdocuments : ∀ mode, (c.run mode base scripts t).report.documents =
      (c.visits mode base scripts t).map Visit.outcome := fun mode => (hcomes mode).documents
  refine ⟨⟨hdocuments .write, (hcomes .write).tree, (hvisited .write).chained⟩,
    (hvisited .write).kept ht, fun place => ?_, ?_, fun mode o ho => ?_⟩
  · rw [(hcomes .write).tree]
    exact (hvisited .write).changed ht place
  · rw [(hcomes .dryRun).tree]
    exact (hvisited .dryRun).treeAfter_dryRun
  · rw [hdocuments mode] at ho
    obtain ⟨v, hv, rfl⟩ := List.mem_map.1 ho
    exact (hvisited mode).reports v hv

namespace Lone

def tree : FileTree := ⟨[(["a"], .file [60, 97, 47, 62])], []⟩

def rule : Rule := ⟨none, ⟨["*"], []⟩, "css:a", ["b"], none, none, none, none, none⟩

def config : Config := ⟨⟨none, none, none, none, none, .preserve⟩, [rule]⟩

def task : Task := rule.task config.defaults ⟨"/"⟩

def change : Change := ⟨"<a/>", "<a b=\"./s\"/>"⟩

def diagnostics : List Diagnostic := [.located .debug ⟨"/a"⟩ .origin "updating <a> to ./s"]

theorem unlinked : tree.Unlinked := FileTree.unlinked_of_entries (by simp [tree])

theorem target_eq : tree.target ⟨"/a"⟩ = .ok ["a"] := by
  simp only [FileTree.target, FileTree.directoryAt, FileTree.follow_eq unlinked]
  decide +kernel

theorem locate_eq : tree.locate ⟨"/a"⟩ = .ok ["a"] := by
  rw [FileTree.locate_eq unlinked]
  decide +kernel

theorem discover_eq :
    tree.discover (rule.directory config.defaults ⟨"/"⟩) rule.files = .ok [⟨"/a"⟩] := by
  rw [FileTree.discover_eq unlinked, FileTree.found, FileTree.locate_eq unlinked]
  decide +kernel

theorem revise_eq : task.revise ⟨"/a"⟩ [⟨"/s"⟩] (tree.readFile ⟨"/a"⟩) =
    .change diagnostics change := by
  rw [FileTree.readFile, locate_eq]
  decide +kernel

theorem visits_eq (mode : Mode) : config.visits mode ⟨"/"⟩ [⟨"s"⟩] tree =
    [Run.visit mode task [⟨"/s"⟩] tree ⟨"/a"⟩] := by
  have hscripts : [(⟨"s"⟩ : Path)].map (Path.join ⟨"/"⟩) = [⟨"/s"⟩] := by decide +kernel
  rw [Run.visits_single rfl discover_eq, hscripts]
  rfl

theorem visit_write : Run.visit .write task [⟨"/s"⟩] tree ⟨"/a"⟩ = ⟨.utf8, tree,
    ⟨⟨"/a"⟩, .updated, diagnostics ++ [.general .info ⟨"/a"⟩ "updated"], some change⟩,
    tree.put ["a"] (.file (Charset.utf8.encode change.after))⟩ := by
  have hcharset : task.charset = .utf8 := rfl
  rw [Run.visit, revise_eq]
  simp only [Revision.write, FileTree.replaceFile, target_eq, hcharset]
  rfl

end Lone

theorem run_changes_updated :
    let run := Lone.config.run .write ⟨"/"⟩ [⟨"s"⟩] Lone.tree
    Lone.tree.Unlinked ∧ run.tree.get? ["a"] =
        some (.file [60, 97, 32, 98, 61, 34, 46, 47, 115, 34, 47, 62]) ∧
      (Lone.config.run .dryRun ⟨"/"⟩ [⟨"s"⟩] Lone.tree).tree = Lone.tree := by
  intro run
  have hencode : Charset.utf8.encode Lone.change.after =
      [60, 97, 32, 98, 61, 34, 46, 47, 115, 34, 47, 62] := by decide +kernel
  obtain ⟨-, -, hplaces, hdry, -⟩ := run_changes Lone.config ⟨"/"⟩ [⟨"s"⟩] Lone.tree Lone.unlinked
  rw [Lone.visits_eq, Lone.visit_write] at hplaces
  refine ⟨Lone.unlinked, ?_, hdry⟩
  rcases hplaces ["a"] with ⟨-, hnone⟩ | ⟨front, v, behind, change, hsplit, -, -, hchange, hget⟩
  · exact absurd ⟨rfl, Lone.locate_eq⟩ (hnone _ List.mem_cons_self)
  · cases front with
    | cons w front => exact absurd (List.cons.inj hsplit).2.symm (by simp)
    | nil =>
      obtain ⟨rfl, -⟩ := List.cons.inj hsplit
      obtain rfl := Option.some.inj hchange
      rw [← hencode]
      exact hget

end MarkupSplice
