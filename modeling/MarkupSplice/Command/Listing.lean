import MarkupSplice.Text.Json
import MarkupSplice.Text.LineDiff
import MarkupSplice.Update.Report

/-!
# Showing reports

A report is shown as JSON or as a line for each document, with the differences
between its texts if they are asked for, and a summary.
-/
namespace MarkupSplice

namespace Json

def ofPosition (p : Position) : Value :=
  .record [("offset", .number p.offset), ("line", .number p.line), ("column", .number p.column)]

def ofDiagnostic (d : Diagnostic) : Value :=
  .record [("severity", .text d.severity.name), ("path", .text d.path.text),
    ("position", d.position.elim .null ofPosition), ("message", .text d.message)]

def ofOutcome (o : Outcome) : Value :=
  .record [("path", .text o.path.text), ("status", .text o.status.name),
    ("diagnostics", .list (o.diagnostics.map ofDiagnostic))]

def ofReport (r : Report) : Value :=
  .record [("diagnostics", .list (r.diagnostics.map ofDiagnostic)),
    ("documents", .list (r.documents.map ofOutcome))]

end Json

namespace Status

def mark : Status → String
  | .updated | .wouldUpdate => "✓"
  | .upToDate => "⊙"
  | .skipped => "⊘"
  | .failed => "✗"

def verdict : Status → String
  | .updated => "Updated"
  | .wouldUpdate => "Would update"
  | .upToDate => "Already up to date"
  | .skipped => "Skipped"
  | .failed => "Failed"

def summary : Status → String
  | .updated => "updated"
  | .wouldUpdate => "would update"
  | .upToDate => "up to date"
  | .skipped => "skipped"
  | .failed => "failed"

def all : List Status := [.updated, .wouldUpdate, .upToDate, .skipped, .failed]

end Status

def Outcome.line (o : Outcome) : String :=
  o.status.mark ++ " " ++ o.path.text ++ ": " ++ o.status.verdict ++ "\n"

def markOf : Text.LineDiff.Kind → String
  | .kept => " "
  | .removed => "-"
  | .added => "+"

def endsLine (s : String) : Bool :=
  s.toList.getLast? == some '\n' || s.toList.getLast? == some '\r'

/-- A line with its mark; a line without an end gets one. -/
def markedLine (line : Text.LineDiff.Kind × String) : String :=
  markOf line.1 ++ line.2 ++ if endsLine line.2 then "" else "\n"

def Change.toText (c : Change) (path : Path) : String :=
  "\n--- " ++ path.text ++ " (original)\n+++ " ++ path.text ++ " (updated)\n" ++
    "".intercalate ((Text.LineDiff.compare c.before c.after).map markedLine) ++
    if c.after.toList.getLast? = some '\n' then "" else "\n"

namespace Report

def summary (r : Report) : String :=
  "\nSummary:\n" ++ "".intercalate (Status.all.map fun s =>
    "  " ++ toString (r.count s) ++ " " ++ s.summary ++ "\n")

def listing (r : Report) (differences : Bool) : String :=
  "".intercalate (r.documents.map fun o =>
    (if o.status = .failed then "" else o.line) ++
      if differences then o.change.elim "" fun c => c.toText o.path else "")

def failures (r : Report) : String :=
  "".intercalate ((r.documents.filter fun o => o.status == .failed).map Outcome.line)

end Report
end MarkupSplice
