import MarkupSplice.Proofs.FileTree.Apart
import MarkupSplice.Proofs.Update.Jobs

/-!
# Dry runs as rehearsals

A dry run reads what stands in the files, a run that writes what it has put
there itself, so with several rules they may come to different ends. They do not
before the first change: when a dry run has nothing to update, a run that writes
has nothing to write. And one rule takes up no document twice, so its dry run
says of each document what becomes of it (`dryRun_foretells`).
-/
namespace MarkupSplice

def Outcome.WriteFailed (o : Outcome) : Prop :=
  ∃ e, Diagnostic.general .error o.path (UpdateError.write o.path e).message ∈ o.diagnostics

/-- What an outcome of a dry run becomes when changes are written. -/
inductive Outcome.Foretells : Outcome → Outcome → Prop
  | same (o : Outcome) (unchanged : o.status ≠ .wouldUpdate) (unwritten : o.status ≠ .updated) :
    Foretells o o
  | changed (path : Path) (ds : List Diagnostic) (c : Change) :
    Foretells ⟨path, .wouldUpdate, ds ++ [.general .info path "would be updated"], some c⟩
      ⟨path, .updated, ds ++ [.general .info path "updated"], some c⟩

theorem Outcome.Foretells.eq_of_unchanged {o o' : Outcome} (h : o.Foretells o')
    (hstatus : o.status ≠ .wouldUpdate ∨ o'.status ≠ .updated) :
    o' = o ∧ o.status ≠ .wouldUpdate ∧ o.status ≠ .updated := by
  cases h with
  | same o unchanged unwritten => exact ⟨rfl, unchanged, unwritten⟩
  | changed path ds c => exact absurd hstatus (not_or.2 ⟨fun h => h rfl, fun h => h rfl⟩)

theorem Report.eq_of_parts {r r' : Report} (hdiagnostics : r.diagnostics = r'.diagnostics)
    (hdocuments : r.documents = r'.documents) : r = r' := by
  obtain ⟨diagnostics, documents⟩ := r
  obtain rfl := hdiagnostics
  obtain rfl := hdocuments
  rfl

namespace Run

variable {task : Task} {scripts : List Path} {path : Path} {t t' : FileTree}

theorem foretells_visit
    (hwrite : ¬(visit .write task scripts t path).outcome.WriteFailed) :
    (visit .dryRun task scripts t path).outcome.Foretells
      (visit .write task scripts t path).outcome := by
  have hdry : (visit .dryRun task scripts t path).outcome =
      (task.revise path scripts (t.readFile path)).outcome path := rfl
  rw [hdry]
  rcases visit_write task scripts t path with ⟨r, hrevision, hkeeps, hvisit⟩ |
    ⟨ds, c, hrevision, ⟨e, -, hvisit⟩ | ⟨t', -, hvisit⟩⟩
  · rw [hvisit, hrevision]
    cases r with
    | change ds c => exact absurd rfl (hkeeps ds c)
    | _ => exact .same _ nofun nofun
  · rw [hvisit] at hwrite
    exact absurd ⟨e, List.mem_append_right ds List.mem_cons_self⟩ hwrite
  · rw [hvisit, hrevision]
    exact .changed path ds c

theorem after_visit (hstatus : (visit .write task scripts t path).outcome.status ≠ .updated) :
    (visit .write task scripts t path).after = t := by
  rcases visit_write task scripts t path with ⟨r, -, -, hvisit⟩ |
    ⟨ds, c, -, ⟨e, -, hvisit⟩ | ⟨t', -, hvisit⟩⟩
  · rw [hvisit]
  · rw [hvisit]
  · rw [hvisit] at hstatus
    exact absurd rfl hstatus

/-- While one of the runs has nothing to change, the other one has not either, and the tree is
what it was. -/
theorem unchanged_jobs (js : List Job)
    (hwrites : ∀ v ∈ visitJobs .write scripts t js, ¬v.outcome.WriteFailed)
    (hstatus : (∀ v ∈ visitJobs .dryRun scripts t js, v.outcome.status ≠ .wouldUpdate) ∨
      ∀ v ∈ visitJobs .write scripts t js, v.outcome.status ≠ .updated) :
    (visitJobs .write scripts t js).map Visit.outcome =
        (visitJobs .dryRun scripts t js).map Visit.outcome ∧
      treeAfter t (visitJobs .write scripts t js) = t ∧
      ∀ v ∈ visitJobs .dryRun scripts t js,
        v.outcome.status ≠ .wouldUpdate ∧ v.outcome.status ≠ .updated := by
  induction js with
  | nil => exact ⟨rfl, rfl, List.forall_mem_nil _⟩
  | cons j js ih =>
    rw [visitJobs] at hwrites
    rw [visitJobs, visitJobs, List.forall_mem_cons, List.forall_mem_cons] at hstatus
    obtain ⟨hwrite, hwrites⟩ := List.forall_mem_cons.1 hwrites
    obtain ⟨heq, hwould, hupdated⟩ := (foretells_visit hwrite).eq_of_unchanged
      (hstatus.imp And.left And.left)
    -- nothing is written, so the rest of the documents is met in the same tree
    have hafter : (visit .write j.task scripts t j.path).after = t := by
      refine after_visit ?_
      rw [heq]
      exact hupdated
    rw [hafter] at hwrites hstatus
    obtain ⟨hrest, htree, hnone⟩ := ih hwrites (hstatus.imp And.right And.right)
    rw [visitJobs, visitJobs, treeAfter_cons, hafter]
    refine ⟨?_, htree, List.forall_mem_cons.2 ⟨⟨hwould, hupdated⟩, hnone⟩⟩
    rw [List.map_cons, List.map_cons, heq, hrest]
    rfl

theorem foretells_jobs (ht : t.Unlinked) (halike : FileTree.Alike t t') (task : Task)
    {paths : List Path} (hapart : t.Apart paths)
    (hread : ∀ p ∈ paths, t'.readFile p = t.readFile p)
    (hwrites : ∀ v ∈ visitJobs .write scripts t' (paths.map fun path => ⟨task, path⟩),
      ¬v.outcome.WriteFailed) :
    List.Forall₂ Outcome.Foretells
      ((visitJobs .dryRun scripts t (paths.map fun path => ⟨task, path⟩)).map Visit.outcome)
      ((visitJobs .write scripts t' (paths.map fun path => ⟨task, path⟩)).map Visit.outcome) := by
  induction paths generalizing t' with
  | nil => exact .nil
  | cons path paths ih =>
    have ht' := halike.unlinked ht
    obtain ⟨hfirst, hrest⟩ := List.pairwise_cons.1 hapart
    rw [List.map_cons, visitJobs] at hwrites
    obtain ⟨hwrite, hwrites⟩ := List.forall_mem_cons.1 hwrites
    have hsound := visit_sound ht' task scripts path
    have hdry : (visit .dryRun task scripts t path).outcome =
        (visit .dryRun task scripts t' path).outcome := by
      rw [visit, visit, hread path List.mem_cons_self]
    have hkept : ∀ p ∈ paths,
        (visit .write task scripts t' path).after.readFile p = t.readFile p := by
      intro p hp
      rw [← hread p (List.mem_cons_of_mem path hp)]
      refine hsound.readFile ht' fun place hplace => ?_
      rw [path_visit, before_visit, halike.locate ht] at hplace
      rw [before_visit, halike.locate ht]
      exact hfirst p hp place hplace
    refine .cons ?_ (ih (halike.trans hsound.alike) hrest hkept hwrites)
    rw [hdry]
    exact foretells_visit hwrite

end Run

/-- What a dry run says of a run that writes, when all that it writes can be written. -/
theorem dryRun_foretells (c : Config) (base : Path) (scripts : List Path) (t : FileTree)
    (ht : t.Unlinked) (hwf : t.WellFormed)
    (hwrites : ∀ o ∈ (c.run .write base scripts t).report.documents, ¬o.WriteFailed) :
    let dry := c.run .dryRun base scripts t
    let write := c.run .write base scripts t
    ((∀ o ∈ dry.report.documents, o.status ≠ .wouldUpdate) ↔
      ∀ o ∈ write.report.documents, o.status ≠ .updated) ∧
    ((∀ o ∈ dry.report.documents, o.status ≠ .wouldUpdate) →
      write.report = dry.report ∧ write.tree = t ∧ dry.tree = t) ∧
    ∀ rule, c.rules = [rule] →
      write.report.diagnostics = dry.report.diagnostics ∧
        List.Forall₂ Outcome.Foretells dry.report.documents write.report.documents := by
  intro dry write
  have hdiagnostics : write.report.diagnostics = dry.report.diagnostics :=
    (Run.diagnostics_run ht hwf.nodup c .write base scripts).trans
      (Run.diagnostics_run ht hwf.nodup c .dryRun base scripts).symm
  have hdry := Run.documents_run ht hwf.nodup c .dryRun base scripts
  have hwrite := Run.documents_run ht hwf.nodup c .write base scripts
  rw [hwrite, List.forall_mem_map] at hwrites
  have hunchanged := Run.unchanged_jobs (c.jobs base t) hwrites
  have hreports : (∀ o ∈ dry.report.documents, o.status ≠ .wouldUpdate) →
      write.report.documents = dry.report.documents ∧ write.tree = t := by
    intro hnone
    rw [hdry, List.forall_mem_map] at hnone
    obtain ⟨hsame, htree, -⟩ := hunchanged (Or.inl hnone)
    have hafter := Run.tree_run ht hwf.nodup c .write base scripts
    exact ⟨by rw [hwrite, hdry, hsame], hafter.trans htree⟩
  refine ⟨⟨fun hnone => ?_, fun hnone => ?_⟩, fun hnone => ?_, fun rule hrule => ?_⟩
  · rw [(hreports hnone).1, hdry, List.forall_mem_map]
    rw [hdry, List.forall_mem_map] at hnone
    exact fun v hv => ((hunchanged (Or.inl hnone)).2.2 v hv).2
  · rw [hwrite, List.forall_mem_map] at hnone
    rw [hdry, List.forall_mem_map]
    exact fun v hv => ((hunchanged (Or.inr hnone)).2.2 v hv).1
  · obtain ⟨hdocuments, htree⟩ := hreports hnone
    refine ⟨Report.eq_of_parts hdiagnostics hdocuments, htree, ?_⟩
    rw [(Run.comes_run c .dryRun base scripts t).tree]
    exact (Run.visited_run c .dryRun base scripts t).treeAfter_dryRun
  · refine ⟨hdiagnostics, ?_⟩
    have hjobs : c.jobs base t = (t.found (rule.directory c.defaults base) rule.files).map
        fun path => ⟨rule.task c.defaults base, path⟩ := by
      rw [Config.jobs, hrule, List.flatMap_singleton]
      rfl
    rw [hjobs] at hdry hwrite hwrites
    rw [hdry, hwrite]
    exact Run.foretells_jobs ht (.refl t) _ (FileTree.found_apart ht hwf _ _) (fun _ _ => rfl)
      hwrites

theorem dryRun_foretells_updated :
    let dry := Lone.config.run .dryRun ⟨"/"⟩ [⟨"s"⟩] Lone.tree
    let write := Lone.config.run .write ⟨"/"⟩ [⟨"s"⟩] Lone.tree
    Lone.tree.Unlinked ∧ Lone.tree.WellFormed ∧ (∀ o ∈ write.report.documents, ¬o.WriteFailed) ∧
      (¬∀ o ∈ dry.report.documents, o.status ≠ .wouldUpdate) ∧
      List.Forall₂ Outcome.Foretells dry.report.documents write.report.documents := by
  intro dry write
  have hwf : Lone.tree.WellFormed := by
    refine ⟨by decide, fun place hplace name hname => ?_⟩
    obtain rfl := List.mem_singleton.1 hplace
    obtain rfl := List.mem_singleton.1 hname
    exact ⟨by decide, by decide, by decide, by decide⟩
  have hdocuments : ∀ mode, (Lone.config.run mode ⟨"/"⟩ [⟨"s"⟩] Lone.tree).report.documents =
      [(Run.visit mode Lone.task [⟨"/s"⟩] Lone.tree ⟨"/a"⟩).outcome] := by
    intro mode
    rw [(Run.comes_run _ mode _ _ _).documents, Lone.visits_eq]
    rfl
  have hwrite : ∀ o ∈ write.report.documents, ¬o.WriteFailed := by
    rw [hdocuments, Lone.visit_write]
    rintro o ho ⟨e, he⟩
    obtain rfl := List.mem_singleton.1 ho
    simp [Lone.diagnostics, Diagnostic.general, Diagnostic.located] at he
  have hdry : ¬∀ o ∈ dry.report.documents, o.status ≠ .wouldUpdate := by
    rw [hdocuments, Run.visit, Lone.revise_eq]
    exact fun hall => hall _ List.mem_cons_self rfl
  obtain ⟨-, -, hrule⟩ :=
    dryRun_foretells Lone.config ⟨"/"⟩ [⟨"s"⟩] Lone.tree Lone.unlinked hwf hwrite
  exact ⟨Lone.unlinked, hwf, hwrite, hdry, (hrule Lone.rule rfl).2⟩

end MarkupSplice
