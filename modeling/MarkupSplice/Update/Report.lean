import MarkupSplice.Diagnostic

/-!
# Reports

What became of each document in a run, in the order in which they were taken
up, with what there is to say about them and about the rules themselves.
-/
namespace MarkupSplice

inductive Mode
  | write
  | dryRun
deriving DecidableEq, Repr

inductive Status
  | updated
  | upToDate
  | wouldUpdate
  | skipped
  | failed
deriving DecidableEq, Repr

def Status.name : Status → String
  | .updated => "updated"
  | .upToDate => "up_to_date"
  | .wouldUpdate => "would_update"
  | .skipped => "skipped"
  | .failed => "failed"

structure Change where
  before : String
  after : String
deriving DecidableEq, Repr

structure Outcome where
  path : Path
  status : Status
  diagnostics : List Diagnostic
  change : Option Change
deriving DecidableEq, Repr

structure Report where
  diagnostics : List Diagnostic
  documents : List Outcome
deriving DecidableEq, Repr

namespace Report

def empty : Report := ⟨[], []⟩

def count (r : Report) (s : Status) : Nat := r.documents.countP fun d => d.status == s

/-- Whether a document failed, or a rule could not look for its documents. -/
def hasFailures (r : Report) : Bool :=
  r.documents.any (fun d => d.status == .failed) || r.diagnostics.any fun d => d.severity == .error

def allDiagnostics (r : Report) : List Diagnostic :=
  r.diagnostics ++ r.documents.flatMap fun d => d.diagnostics

end Report
end MarkupSplice
