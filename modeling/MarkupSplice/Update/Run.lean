import MarkupSplice.Update.Revision

/-!
# Update runs

A run takes up the rules in order, and for each rule its documents in order. A
rule finds the documents as the rules before it have left them. No document
stands in the way of another one: what goes wrong with one is part of its
outcome. `Run.log` holds what is worth noting only while it happens.
-/
namespace MarkupSplice
open Text

structure Run where
  tree : FileTree
  report : Report
  log : List String

namespace Revision

def outcome (path : Path) : Revision → Outcome
  | .skip e => ⟨path, .skipped, [.general .error path e.message], none⟩
  | .fail ds => ⟨path, .failed, ds, none⟩
  | .keep ds => ⟨path, .upToDate, ds ++ [.general .info path "already up-to-date"], none⟩
  | .change ds c => ⟨path, .wouldUpdate, ds ++ [.general .info path "would be updated"], some c⟩

/-- What a run notes when it writes a text that the encoding cannot hold. -/
def encodingNotes (charset : Charset) (text : String) : List String :=
  if charset.lacks text then
    [charset.name ++ " cannot represent every character; wrote character references"]
  else []

/-- Writes a change back; all other revisions leave the files alone. -/
def write (charset : Charset) (path : Path) (t : FileTree) (r : Revision) :
    FileTree × Outcome × List String :=
  match r with
  | .change ds c =>
    let notes := encodingNotes charset c.after
    match t.replaceFile path (charset.encode c.after) with
    | .error e =>
      (t, ⟨path, .failed, ds ++ [.general .error path (UpdateError.write path e).message], none⟩, notes)
    | .ok t' => (t', ⟨path, .updated, ds ++ [.general .info path "updated"], some c⟩, notes)
  | r => (t, r.outcome path, [])

end Revision

namespace Run

def start (t : FileTree) : Run := ⟨t, .empty, []⟩

def note (r : Run) (line : String) : Run := { r with log := r.log ++ [line] }

def complain (r : Run) (d : Diagnostic) : Run :=
  { r with report := { r.report with diagnostics := r.report.diagnostics ++ [d] } }

def document (mode : Mode) (task : Task) (scripts : List Path) (r : Run) (path : Path) : Run :=
  let revision := task.revise path scripts (r.tree.readFile path)
  let (tree, outcome, notes) := match mode with
    | .write => revision.write task.charset path r.tree
    | .dryRun => (r.tree, revision.outcome path, [])
  { tree := tree
    report := { r.report with documents := r.report.documents ++ [outcome] }
    log := r.log ++ ("processing " ++ path.text) :: notes }

def rule (mode : Mode) (defaults : Defaults) (base : Path) (scripts : List Path) (r : Run)
    (rule : Rule) : Run :=
  let dir := rule.directory defaults base
  let r := if r.tree.isDirectory dir then r
    else r.note (dir.text ++ " is not a directory, nothing to scan")
  match r.tree.discover dir rule.files with
  | .error e => r.complain (.general .error dir (UpdateError.scan dir e).message)
  | .ok [] => r.complain (.general .warning dir
      ("did not find any documents to update with " ++ rule.files.toText))
  | .ok paths => paths.foldl (document mode (rule.task defaults base) scripts) r

end Run

def Config.run (c : Config) (mode : Mode) (base : Path) (scripts : List Path) (t : FileTree) : Run :=
  c.rules.foldl (Run.rule mode c.defaults base (scripts.map base.join)) (.start t)

end MarkupSplice
