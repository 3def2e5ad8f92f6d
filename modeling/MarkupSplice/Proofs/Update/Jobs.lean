import MarkupSplice.Proofs.FileTree.Finding
import MarkupSplice.Proofs.Update.Changed

/-!
# The jobs of a run

Without links the tree that a run begins with settles which documents it takes
up, in which order, and what it has to say of its rules: what is written on the
way has no say in what is found. So a run is a walk through a list of jobs
(`visits_run`), and what holds of all of it is shown by induction on that list.
-/
namespace MarkupSplice

structure Job where
  task : Task
  path : Path

namespace Rule

def jobs (r : Rule) (defaults : Defaults) (base : Path) (t : FileTree) : List Job :=
  (t.found (r.directory defaults base) r.files).map fun path => ⟨r.task defaults base, path⟩

def complaints (r : Rule) (defaults : Defaults) (base : Path) (t : FileTree) : List Diagnostic :=
  if t.found (r.directory defaults base) r.files = [] then
    [.general .warning (r.directory defaults base)
      ("did not find any documents to update with " ++ r.files.toText)]
  else []

end Rule

def Config.jobs (c : Config) (base : Path) (t : FileTree) : List Job :=
  c.rules.flatMap fun r => r.jobs c.defaults base t

namespace FileTree

variable {t t' : FileTree} {p d : Path} {place : Place} {new : Text.Bytes}

theorem readFile_congr (h : t.locate p = t.locate d) : t.readFile p = t.readFile d := by
  rw [readFile, readFile, h]

theorem readFile_put_self (h : Alike t (t.put place (.file new))) (ht : t.Unlinked)
    (hplace : place ≠ []) (hlocate : t.locate p = .ok place) :
    (t.put place (.file new)).readFile p = .ok new := by
  rw [readFile, h.locate ht, hlocate]
  simp only [bind, Except.bind, get?_put hplace, if_pos]

theorem readFile_put_other (h : Alike t (t.put place (.file new))) (ht : t.Unlinked)
    (hplace : place ≠ []) (hlocate : t.locate p ≠ .ok place) :
    (t.put place (.file new)).readFile p = t.readFile p := by
  rw [readFile, readFile, h.locate ht]
  cases hp : t.locate p with
  | error e => rfl
  | ok q =>
    have hq : q ≠ place := fun heq => hlocate (hp.trans (congrArg Except.ok heq))
    simp only [bind, Except.bind, get?_put hplace, if_neg hq]

end FileTree

theorem Visit.Sound.readFile {v : Visit} (h : v.Sound) (ht : v.before.Unlinked) {d : Path}
    (hd : ∀ place, v.before.locate v.outcome.path = .ok place → v.before.locate d ≠ .ok place) :
    v.after.readFile d = v.before.readFile d := by
  have halike := h.alike
  cases h with
  | kept status after => rw [after]
  | stored place old c status change inside locate held after =>
    rw [after] at halike ⊢
    exact FileTree.readFile_put_other halike ht inside (hd place locate)

namespace Run

variable {mode : Mode} {task : Task} {scripts : List Path} {path : Path} {t t' : FileTree}
  {vs : List Visit} {defaults : Defaults} {base : Path} {r : Run}

theorem path_outcome (path : Path) (r : Revision) : (r.outcome path).path = path := by
  cases r <;> rfl

theorem visit_write (task : Task) (scripts : List Path) (t : FileTree) (path : Path) :
    (∃ r, task.revise path scripts (t.readFile path) = r ∧ (∀ ds c, r ≠ .change ds c) ∧
      visit .write task scripts t path = ⟨task.charset, t, r.outcome path, t⟩) ∨
    ∃ ds c, task.revise path scripts (t.readFile path) = .change ds c ∧
      ((∃ e, t.replaceFile path (task.charset.encode c.after) = .error e ∧
        visit .write task scripts t path = ⟨task.charset, t, ⟨path, .failed,
          ds ++ [.general .error path (UpdateError.write path e).message], none⟩, t⟩) ∨
      ∃ t', t.replaceFile path (task.charset.encode c.after) = .ok t' ∧
        visit .write task scripts t path = ⟨task.charset, t, ⟨path, .updated,
          ds ++ [.general .info path "updated"], some c⟩, t'⟩) := by
  unfold visit
  cases hrevision : task.revise path scripts (t.readFile path) with
  | change ds c =>
    refine Or.inr ⟨ds, c, rfl, ?_⟩
    cases hreplace : t.replaceFile path (task.charset.encode c.after) with
    | error e => exact Or.inl ⟨e, rfl, by simp only [Revision.write, hreplace]⟩
    | ok t' => exact Or.inr ⟨t', rfl, by simp only [Revision.write, hreplace]⟩
  | _ =>
    refine Or.inl ⟨_, rfl, ?_, rfl⟩
    intro ds c hchange
    cases hchange

theorem path_visit (mode : Mode) (task : Task) (scripts : List Path) (t : FileTree) (path : Path) :
    (visit mode task scripts t path).outcome.path = path := by
  cases mode with
  | dryRun => exact path_outcome path _
  | write =>
    rcases visit_write task scripts t path with ⟨r, -, -, hvisit⟩ |
      ⟨ds, c, -, ⟨e, -, hvisit⟩ | ⟨t', -, hvisit⟩⟩
    · rw [hvisit]
      exact path_outcome path r
    · rw [hvisit]
    · rw [hvisit]

theorem before_visit (mode : Mode) (task : Task) (scripts : List Path) (t : FileTree)
    (path : Path) : (visit mode task scripts t path).before = t := by
  cases mode <;> rfl

theorem twin_visit (ht : t.Unlinked) (hnodup : t.places.Nodup) (mode : Mode) (task : Task)
    (scripts : List Path) (path : Path) :
    FileTree.Twin t (visit mode task scripts t path).after := by
  cases mode with
  | dryRun => exact .refl t
  | write =>
    cases visit_sound ht task scripts path with
    | kept status after =>
      rw [after]
      exact .refl t
    | stored place old c status change inside locate held after =>
      rw [after]
      exact .put hnodup inside held

theorem Visited.twin (h : Visited mode t vs) (ht : t.Unlinked) (hnodup : t.places.Nodup) :
    FileTree.Twin t (treeAfter t vs) := by
  induction h with
  | nil t => exact .refl t
  | cons t task scripts path rest ih =>
    have htwin := twin_visit ht hnodup mode task scripts path
    rw [treeAfter_cons]
    exact htwin.trans (ih (htwin.unlinked ht) (htwin.nodup hnodup))

def visitJobs (mode : Mode) (scripts : List Path) : FileTree → List Job → List Visit
  | _, [] => []
  | t, j :: js =>
    let v := visit mode j.task scripts t j.path
    v :: visitJobs mode scripts v.after js

theorem visitJobs_append (t : FileTree) (js ks : List Job) :
    visitJobs mode scripts t (js ++ ks) = visitJobs mode scripts t js ++
      visitJobs mode scripts (treeAfter t (visitJobs mode scripts t js)) ks := by
  induction js generalizing t with
  | nil => rfl
  | cons j js ih =>
    rw [List.cons_append, visitJobs, visitJobs, treeAfter_cons, ih]
    rfl

theorem visitDocuments_eq (t : FileTree) (paths : List Path) :
    visitDocuments mode task scripts t paths =
      visitJobs mode scripts t (paths.map fun path => ⟨task, path⟩) := by
  induction paths generalizing t with
  | nil => rfl
  | cons path paths ih =>
    rw [visitDocuments, ih]
    rfl

theorem visitRule_eq (htwin : FileTree.Twin t t') (ht : t.Unlinked) (rule : Rule) :
    visitRule mode defaults base scripts t' rule =
      visitJobs mode scripts t' (rule.jobs defaults base t) := by
  rw [visitRule, FileTree.discover_eq (htwin.unlinked ht), htwin.found ht]
  exact visitDocuments_eq t' _

theorem visitRules_eq (htwin : FileTree.Twin t t') (ht : t.Unlinked) (hnodup : t.places.Nodup)
    (rules : List Rule) :
    visitRules mode defaults base scripts t' rules =
      visitJobs mode scripts t' (rules.flatMap fun r => r.jobs defaults base t) := by
  induction rules generalizing t' with
  | nil => rfl
  | cons rule rules ih =>
    have hvisited : Visited mode t' (visitRule mode defaults base scripts t' rule) :=
      visited_rule t' rule
    have hnext := hvisited.twin (htwin.unlinked ht) (htwin.nodup hnodup)
    rw [visitRules, List.flatMap_cons, visitJobs_append, ih (htwin.trans hnext),
      visitRule_eq htwin ht]

theorem visits_run (ht : t.Unlinked) (hnodup : t.places.Nodup) (c : Config) (mode : Mode)
    (base : Path) (scripts : List Path) :
    c.visits mode base scripts t =
      visitJobs mode (scripts.map base.join) t (c.jobs base t) :=
  visitRules_eq (.refl t) ht hnodup c.rules

theorem documents_run (ht : t.Unlinked) (hnodup : t.places.Nodup) (c : Config) (mode : Mode)
    (base : Path) (scripts : List Path) :
    (c.run mode base scripts t).report.documents =
      (visitJobs mode (scripts.map base.join) t (c.jobs base t)).map Visit.outcome := by
  rw [(comes_run c mode base scripts t).documents, visits_run ht hnodup]
  rfl

theorem tree_run (ht : t.Unlinked) (hnodup : t.places.Nodup) (c : Config) (mode : Mode)
    (base : Path) (scripts : List Path) :
    (c.run mode base scripts t).tree =
      treeAfter t (visitJobs mode (scripts.map base.join) t (c.jobs base t)) := by
  rw [(comes_run c mode base scripts t).tree, visits_run ht hnodup]
  rfl

theorem diagnostics_documents (r : Run) (paths : List Path) :
    (paths.foldl (document mode task scripts) r).report.diagnostics = r.report.diagnostics := by
  induction paths generalizing r with
  | nil => rfl
  | cons path paths ih =>
    rw [List.foldl_cons, ih]
    cases mode <;> rfl

theorem diagnostics_rule (htwin : FileTree.Twin t r.tree) (ht : t.Unlinked) (rule : Rule) :
    (Run.rule mode defaults base scripts r rule).report.diagnostics =
      r.report.diagnostics ++ rule.complaints defaults base t := by
  rw [Run.rule]
  -- whether there is a directory at all is only noted
  generalize hnoted : (if r.tree.isDirectory (rule.directory defaults base) then r
    else r.note ((rule.directory defaults base).text ++
      " is not a directory, nothing to scan")) = r'
  have hsame : r'.tree = r.tree ∧ r'.report = r.report := by
    rw [← hnoted]
    split <;> exact ⟨rfl, rfl⟩
  rw [hsame.1, FileTree.discover_eq (htwin.unlinked ht), htwin.found ht, Rule.complaints]
  cases t.found (rule.directory defaults base) rule.files with
  | nil => simp [complain, hsame.2]
  | cons path paths =>
    rw [if_neg (List.cons_ne_nil path paths), List.append_nil, ← hsame.2]
    exact diagnostics_documents r' (path :: paths)

theorem diagnostics_rules (htwin : FileTree.Twin t r.tree) (ht : t.Unlinked)
    (hnodup : t.places.Nodup) (rules : List Rule) :
    (rules.foldl (Run.rule mode defaults base scripts) r).report.diagnostics =
      r.report.diagnostics ++ rules.flatMap fun rule => rule.complaints defaults base t := by
  induction rules generalizing r with
  | nil => exact (List.append_nil _).symm
  | cons rule rules ih =>
    have hcomes : r.Comes _ (Run.rule mode defaults base scripts r rule) := comes_rule r rule
    have hvisited : Visited mode r.tree (visitRule mode defaults base scripts r.tree rule) :=
      visited_rule r.tree rule
    have hnext := hvisited.twin (htwin.unlinked ht) (htwin.nodup hnodup)
    rw [← hcomes.tree] at hnext
    rw [List.foldl_cons, ih (htwin.trans hnext), diagnostics_rule htwin ht, List.flatMap_cons,
      List.append_assoc]

theorem diagnostics_run (ht : t.Unlinked) (hnodup : t.places.Nodup) (c : Config) (mode : Mode)
    (base : Path) (scripts : List Path) :
    (c.run mode base scripts t).report.diagnostics =
      c.rules.flatMap fun r => r.complaints c.defaults base t :=
  diagnostics_rules (r := start t) (.refl t) ht hnodup c.rules

end Run
end MarkupSplice
