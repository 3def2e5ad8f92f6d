import MarkupSplice.Update.Run
import MarkupSplice.Proofs.FileTree.Replacing

/-!
# The documents of a run

A run visits documents one after the other, each in the tree that the visits in
front of it have left (`Config.visits`); what it reports and the tree that it
leaves are those of its visits (`Run.comes_run`). What holds of all visits of a
run is shown by induction on `Visited`.
-/
namespace MarkupSplice

structure Visit where
  charset : Charset
  before : FileTree
  outcome : Outcome
  after : FileTree

namespace Run

def visit (mode : Mode) (task : Task) (scripts : List Path) (t : FileTree) (path : Path) : Visit :=
  let revision := task.revise path scripts (t.readFile path)
  match mode with
  | .write =>
    let (t', outcome, _) := revision.write task.charset path t
    ⟨task.charset, t, outcome, t'⟩
  | .dryRun => ⟨task.charset, t, revision.outcome path, t⟩

def visitDocuments (mode : Mode) (task : Task) (scripts : List Path) :
    FileTree → List Path → List Visit
  | _, [] => []
  | t, path :: paths =>
    let v := visit mode task scripts t path
    v :: visitDocuments mode task scripts v.after paths

def visitRule (mode : Mode) (defaults : Defaults) (base : Path) (scripts : List Path)
    (t : FileTree) (rule : Rule) : List Visit :=
  match t.discover (rule.directory defaults base) rule.files with
  | .error _ => []
  | .ok paths => visitDocuments mode (rule.task defaults base) scripts t paths

def treeAfter (t : FileTree) (vs : List Visit) : FileTree := vs.getLast?.elim t Visit.after

def visitRules (mode : Mode) (defaults : Defaults) (base : Path) (scripts : List Path) :
    FileTree → List Rule → List Visit
  | _, [] => []
  | t, rule :: rules =>
    let vs := visitRule mode defaults base scripts t rule
    vs ++ visitRules mode defaults base scripts (treeAfter t vs) rules

end Run

def Config.visits (c : Config) (mode : Mode) (base : Path) (scripts : List Path) (t : FileTree) :
    List Visit :=
  Run.visitRules mode c.defaults base (scripts.map base.join) t c.rules

namespace Run

variable {mode : Mode} {task : Task} {defaults : Defaults} {base : Path} {scripts : List Path}
  {t : FileTree} {vs ws : List Visit} {v : Visit} {r r' : Run}

theorem visits_single {c : Config} {rule : Rule} {path : Path} (hrules : c.rules = [rule])
    (hfound : t.discover (rule.directory c.defaults base) rule.files = .ok [path]) :
    c.visits mode base scripts t =
      [visit mode (rule.task c.defaults base) (scripts.map base.join) t path] := by
  rw [Config.visits, hrules]
  simp only [visitRules, visitRule, hfound, visitDocuments, List.append_nil]

theorem treeAfter_cons (t : FileTree) (v : Visit) (vs : List Visit) :
    treeAfter t (v :: vs) = treeAfter v.after vs := by
  rw [treeAfter, treeAfter, List.getLast?_cons]
  cases vs.getLast? <;> rfl

theorem treeAfter_append (t : FileTree) (vs ws : List Visit) :
    treeAfter t (vs ++ ws) = treeAfter (treeAfter t vs) ws := by
  induction vs generalizing t with
  | nil => rfl
  | cons v vs ih => rw [List.cons_append, treeAfter_cons, treeAfter_cons, ih]

structure Comes (r : Run) (vs : List Visit) (r' : Run) : Prop where
  tree : r'.tree = treeAfter r.tree vs
  documents : r'.report.documents = r.report.documents ++ vs.map Visit.outcome

theorem Comes.append {r'' : Run} (h : r.Comes vs r') (h' : r'.Comes ws r'') :
    r.Comes (vs ++ ws) r'' where
  tree := by rw [h'.tree, h.tree, treeAfter_append]
  documents := by rw [h'.documents, h.documents, List.map_append, List.append_assoc]

theorem comes_document (r : Run) (path : Path) :
    r.Comes [visit mode task scripts r.tree path] (document mode task scripts r path) := by
  cases mode <;> exact ⟨rfl, rfl⟩

theorem comes_documents (r : Run) (paths : List Path) :
    r.Comes (visitDocuments mode task scripts r.tree paths)
      (paths.foldl (document mode task scripts) r) := by
  induction paths generalizing r with
  | nil => exact ⟨rfl, (List.append_nil _).symm⟩
  | cons path paths ih =>
    have hdocument : r.Comes _ (document mode task scripts r path) := comes_document r path
    have hrest := ih (document mode task scripts r path)
    rw [hdocument.tree] at hrest
    exact hdocument.append hrest

theorem comes_rule (r : Run) (rule : Rule) :
    r.Comes (visitRule mode defaults base scripts r.tree rule)
      (Run.rule mode defaults base scripts r rule) := by
  have hnone : r.Comes [] (if r.tree.isDirectory (rule.directory defaults base) then r
      else r.note ((rule.directory defaults base).text ++ " is not a directory, nothing to scan")) := by
    split <;> exact ⟨rfl, (List.append_nil _).symm⟩
  rw [Run.rule]
  generalize (if r.tree.isDirectory (rule.directory defaults base) then r
    else r.note ((rule.directory defaults base).text ++ " is not a directory, nothing to scan")) = r'
    at hnone
  have htree : r'.tree = r.tree := hnone.tree
  rw [visitRule, ← htree]
  cases hfound : r'.tree.discover (rule.directory defaults base) rule.files with
  | error e => exact ⟨hnone.tree, hnone.documents⟩
  | ok paths =>
    cases paths with
    | nil => exact ⟨hnone.tree, hnone.documents⟩
    | cons path paths => exact hnone.append (comes_documents r' (path :: paths))

theorem comes_rules (r : Run) (rules : List Rule) :
    r.Comes (visitRules mode defaults base scripts r.tree rules)
      (rules.foldl (Run.rule mode defaults base scripts) r) := by
  induction rules generalizing r with
  | nil => exact ⟨rfl, (List.append_nil _).symm⟩
  | cons rule rules ih =>
    have hrule : r.Comes _ (Run.rule mode defaults base scripts r rule) := comes_rule r rule
    have hrest := ih (Run.rule mode defaults base scripts r rule)
    rw [hrule.tree] at hrest
    exact hrule.append hrest

theorem comes_run (c : Config) (mode : Mode) (base : Path) (scripts : List Path) (t : FileTree) :
    (start t).Comes (c.visits mode base scripts t) (c.run mode base scripts t) :=
  comes_rules (start t) c.rules

/-- Visits of which each takes up a document in the tree that those in front have left. -/
inductive Visited (mode : Mode) : FileTree → List Visit → Prop
  | nil (t : FileTree) : Visited mode t []
  | cons (t : FileTree) (task : Task) (scripts : List Path) (path : Path) {vs : List Visit}
    (rest : Visited mode (visit mode task scripts t path).after vs) :
    Visited mode t (visit mode task scripts t path :: vs)

theorem Visited.append (h : Visited mode t vs) (h' : Visited mode (treeAfter t vs) ws) :
    Visited mode t (vs ++ ws) := by
  induction h with
  | nil t => exact h'
  | cons t task scripts path rest ih =>
    rw [treeAfter_cons] at h'
    exact .cons t task scripts path (ih h')

theorem visited_documents (t : FileTree) (paths : List Path) :
    Visited mode t (visitDocuments mode task scripts t paths) := by
  induction paths generalizing t with
  | nil => exact .nil t
  | cons path paths ih => exact .cons t task scripts path (ih _)

theorem visited_rule (t : FileTree) (rule : Rule) :
    Visited mode t (visitRule mode defaults base scripts t rule) := by
  rw [visitRule]
  split
  · exact .nil t
  · exact visited_documents t _

theorem visited_rules (t : FileTree) (rules : List Rule) :
    Visited mode t (visitRules mode defaults base scripts t rules) := by
  induction rules generalizing t with
  | nil => exact .nil t
  | cons rule rules ih => exact (visited_rule t rule).append (ih _)

theorem visited_run (c : Config) (mode : Mode) (base : Path) (scripts : List Path) (t : FileTree) :
    Visited mode t (c.visits mode base scripts t) := visited_rules t c.rules

def Chained : FileTree → List Visit → Prop
  | _, [] => True
  | t, v :: vs => v.before = t ∧ Chained v.after vs

theorem Visited.chained (h : Visited mode t vs) : Chained t vs := by
  induction h with
  | nil t => trivial
  | cons t task scripts path rest ih =>
    refine ⟨?_, ih⟩
    cases mode <;> rfl

end Run
end MarkupSplice
