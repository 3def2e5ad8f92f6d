import MarkupSplice.Proofs.Update.Jobs

/-!
# Documents of their own

What is said of a document and what becomes of it depends on no file but its
own, whatever the others hold (`run_independent`). Two runs on trees that agree
on the document keep step with one another (`Agree.visit`), also where only one
of them writes.
-/
namespace MarkupSplice

structure FileTree.Agree (d : Path) (t t' : FileTree) : Prop extends Twin t t' where
  read : t'.readFile d = t.readFile d

def Outcome.isAbout (t : FileTree) (d : Path) (o : Outcome) : Bool := t.locate o.path = t.locate d

namespace Run

variable {mode : Mode} {task : Task} {scripts : List Path} {path d : Path} {t t' : FileTree}

theorem readFile_visit (ht : t.Unlinked) (mode : Mode) (task : Task) (scripts : List Path)
    (hpath : t.locate path ≠ t.locate d) :
    (visit mode task scripts t path).after.readFile d = t.readFile d := by
  cases mode with
  | dryRun => rfl
  | write =>
    refine (visit_sound ht task scripts path).readFile ht fun place hplace hd => hpath ?_
    rw [path_visit] at hplace
    exact hplace.trans hd.symm

theorem visit_self (h : FileTree.Agree d t t') (ht : t.Unlinked) (mode : Mode) (task : Task)
    (scripts : List Path) (hpath : t.locate path = t.locate d) :
    (visit mode task scripts t' path).outcome = (visit mode task scripts t path).outcome ∧
      (visit mode task scripts t' path).after.readFile d =
        (visit mode task scripts t path).after.readFile d := by
  have ht' := h.unlinked ht
  have hpath' : t'.locate path = t'.locate d := by rw [h.locate ht, h.locate ht, hpath]
  have hread : t'.readFile path = t.readFile path := by
    rw [FileTree.readFile_congr hpath', h.read, FileTree.readFile_congr hpath]
  unfold visit
  rw [hread]
  cases mode with
  | dryRun => exact ⟨rfl, h.read⟩
  | write =>
    cases hrevision : task.revise path scripts (t.readFile path) with
    | change ds c =>
      simp only [Revision.write, FileTree.replaceFile, h.target ht]
      cases htarget : t.target path with
      | error e => exact ⟨rfl, h.read⟩
      | ok place =>
        -- both trees get the same file at the place of the document
        obtain ⟨old, hold, -, -⟩ := Task.revise_eq_change hrevision
        obtain ⟨hinside, hlocate, hheld⟩ := FileTree.held_of_target ht hold htarget
        obtain ⟨-, hlocate', hheld'⟩ := FileTree.held_of_target ht' (hread.trans hold)
          ((h.target ht path).trans htarget)
        refine ⟨rfl, ?_⟩
        have hnew : (t.put place (.file (task.charset.encode c.after))).readFile d = .ok _ :=
          FileTree.readFile_put_self (FileTree.alike_put hinside hheld) ht hinside
            (hpath.symm.trans hlocate)
        have hnew' : (t'.put place (.file (task.charset.encode c.after))).readFile d = .ok _ :=
          FileTree.readFile_put_self (FileTree.alike_put hinside hheld') ht' hinside
            (hpath'.symm.trans hlocate')
        exact hnew'.trans hnew.symm
    | _ => exact ⟨rfl, h.read⟩

theorem agree_visit (h : FileTree.Agree d t t') (ht : t.Unlinked) (hnodup : t.places.Nodup)
    (mode : Mode) (task : Task) (scripts : List Path) (path : Path) :
    FileTree.Agree d (visit mode task scripts t path).after
      (visit mode task scripts t' path).after := by
  have ht' := h.unlinked ht
  have htwin := twin_visit ht hnodup mode task scripts path
  have htwin' := twin_visit ht' (h.nodup hnodup) mode task scripts path
  refine ⟨htwin.symm.trans (h.toTwin.trans htwin'), ?_⟩
  by_cases hpath : t.locate path = t.locate d
  · exact (visit_self h ht mode task scripts hpath).2
  · have hpath' : t'.locate path ≠ t'.locate d := by rwa [h.locate ht, h.locate ht]
    rw [readFile_visit ht' mode task scripts hpath', h.read,
      readFile_visit ht mode task scripts hpath]

theorem paths_jobs (mode : Mode) (scripts : List Path) (t : FileTree) (js : List Job) :
    ((visitJobs mode scripts t js).map Visit.outcome).map Outcome.path = js.map Job.path := by
  induction js generalizing t with
  | nil => rfl
  | cons j js ih =>
    rw [visitJobs, List.map_cons, List.map_cons, ih, path_visit]
    rfl

theorem agree_jobs (h : FileTree.Agree d t t') (ht : t.Unlinked) (hnodup : t.places.Nodup)
    (mode : Mode) (scripts : List Path) (js : List Job) :
    ((visitJobs mode scripts t' js).map Visit.outcome).filter (Outcome.isAbout t d) =
        ((visitJobs mode scripts t js).map Visit.outcome).filter (Outcome.isAbout t d) ∧
      FileTree.Agree d (treeAfter t (visitJobs mode scripts t js))
        (treeAfter t' (visitJobs mode scripts t' js)) := by
  induction js generalizing t t' with
  | nil => exact ⟨rfl, h⟩
  | cons j js ih =>
    have htwin := twin_visit ht hnodup mode j.task scripts j.path
    have hnext := agree_visit h ht hnodup mode j.task scripts j.path
    obtain ⟨hfilter, hagree⟩ := ih hnext (htwin.unlinked ht) (htwin.nodup hnodup)
    have habout : Outcome.isAbout (visit mode j.task scripts t j.path).after d =
        Outcome.isAbout t d := by
      funext o
      rw [Outcome.isAbout, Outcome.isAbout, htwin.locate ht, htwin.locate ht]
    rw [habout] at hfilter
    rw [visitJobs, visitJobs, treeAfter_cons, treeAfter_cons]
    refine ⟨?_, hagree⟩
    rw [List.map_cons, List.map_cons, List.filter_cons, List.filter_cons, hfilter]
    by_cases hpath : t.locate j.path = t.locate d
    · rw [(visit_self h ht mode j.task scripts hpath).1]
    · have hnot : ∀ t'' : FileTree,
          Outcome.isAbout t d (visit mode j.task scripts t'' j.path).outcome = false := by
        intro t''
        rw [Outcome.isAbout, path_visit]
        exact decide_eq_false hpath
      rw [if_neg (by simp [hnot]), if_neg (by simp [hnot])]

end Run

/-- What a run says of a document, and what it makes of it, depends on no other document; and what
documents it takes up depends on none. -/
theorem run_independent (c : Config) (mode : Mode) (base : Path) (scripts : List Path) (d : Path)
    (t t' : FileTree) (ht : t.Unlinked) (hnodup : t.places.Nodup) (htwin : t.Twin t')
    (hd : t'.readFile d = t.readFile d) :
    let run := c.run mode base scripts t
    let run' := c.run mode base scripts t'
    run'.report.documents.filter (Outcome.isAbout t d) =
        run.report.documents.filter (Outcome.isAbout t d) ∧
      run'.tree.readFile d = run.tree.readFile d ∧
      run'.report.documents.map Outcome.path = run.report.documents.map Outcome.path ∧
      run'.report.diagnostics = run.report.diagnostics := by
  intro run run'
  have ht' := htwin.unlinked ht
  have hnodup' := htwin.nodup hnodup
  have hjobs : c.jobs base t' = c.jobs base t :=
    List.flatMap_congr fun rule _ => by rw [Rule.jobs, Rule.jobs, htwin.found ht]
  have hcomplaints : (fun rule : Rule => rule.complaints c.defaults base t') =
      fun rule => rule.complaints c.defaults base t := by
    funext rule
    rw [Rule.complaints, Rule.complaints, htwin.found ht]
  obtain ⟨hfilter, hagree⟩ :=
    Run.agree_jobs ⟨htwin, hd⟩ ht hnodup mode (scripts.map base.join) (c.jobs base t)
  have hdocuments := Run.documents_run ht hnodup c mode base scripts
  have hdocuments' := Run.documents_run ht' hnodup' c mode base scripts
  rw [hjobs] at hdocuments'
  refine ⟨?_, ?_, ?_, ?_⟩
  · rw [hdocuments, hdocuments']
    exact hfilter
  · rw [Run.tree_run ht hnodup, Run.tree_run ht' hnodup', hjobs]
    exact hagree.read
  · rw [hdocuments, hdocuments', Run.paths_jobs, Run.paths_jobs]
  · rw [Run.diagnostics_run ht hnodup, Run.diagnostics_run ht' hnodup', hcomplaints]

theorem run_independent_other :
    let t : FileTree := ⟨[(["a"], .file [60, 97, 47, 62]), (["b"], .file [60, 97, 47, 62])], []⟩
    let t' := t.put ["b"] (.file [255])
    let run := Lone.config.run .write ⟨"/"⟩ [⟨"s"⟩] t
    let run' := Lone.config.run .write ⟨"/"⟩ [⟨"s"⟩] t'
    t.Unlinked ∧ t.Twin t' ∧ t'.readFile ⟨"/b"⟩ ≠ t.readFile ⟨"/b"⟩ ∧
      run'.report.documents.filter (Outcome.isAbout t ⟨"/a"⟩) =
        run.report.documents.filter (Outcome.isAbout t ⟨"/a"⟩) ∧
      run'.tree.readFile ⟨"/a"⟩ = run.tree.readFile ⟨"/a"⟩ := by
  intro t t' run run'
  have hunlinked : t.Unlinked := FileTree.unlinked_of_entries (by simp [t])
  have hnodup : t.places.Nodup := by decide
  have htwin : t.Twin t' := .put hnodup (by simp) (by rfl)
  have hread : t'.readFile ⟨"/a"⟩ = t.readFile ⟨"/a"⟩ := by
    rw [FileTree.readFile, FileTree.readFile, htwin.locate hunlinked,
      FileTree.locate_eq hunlinked]
    decide +kernel
  have hother : t'.readFile ⟨"/b"⟩ ≠ t.readFile ⟨"/b"⟩ := by
    rw [FileTree.readFile, FileTree.readFile, htwin.locate hunlinked,
      FileTree.locate_eq hunlinked]
    decide +kernel
  obtain ⟨hfilter, hfinal, -, -⟩ := run_independent Lone.config .write ⟨"/"⟩ [⟨"s"⟩] ⟨"/a"⟩ t t'
    hunlinked hnodup htwin hread
  exact ⟨hunlinked, htwin, hother, hfilter, hfinal⟩

end MarkupSplice
