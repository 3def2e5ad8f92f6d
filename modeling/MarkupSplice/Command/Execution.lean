import MarkupSplice.Command.Arguments
import MarkupSplice.Command.Listing
import MarkupSplice.Config.Reader
import MarkupSplice.Update.Run

/-!
# Executing a command

What a command prints, the code it exits with and the files that it leaves. A
log goes to the error output, one line for each diagnostic that is grave enough
to be shown; the report goes to the output. An update fails when a document or
a rule failed, and a check also when a document is not up to date.
-/
namespace MarkupSplice.Command

structure Execution where
  exitCode : Nat
  output : String
  errors : String
  tree : FileTree

def versionText : String := "markup-patcher 0.1.0\n"

def usageText : String := "Usage: markup-patcher [-v] <update [-n]|check> " ++
  "-c <CONFIG> [-b <BASE_DIR>] [-d|--json] <SCRIPTS>...\n"

def hang (s : String) : String :=
  String.ofList (s.toList.flatMap fun c => if c = '\n' then "\n    ".toList else [c])

def logLine (severity : Severity) (message : String) : String :=
  let label := severity.label
  "[" ++ label ++ String.ofList (List.replicate (5 - label.length) ' ') ++ "] " ++ hang message ++ "\n"

/-- The lines that are shown; those of the least importance only on demand. -/
def logText (verbose : Bool) (lines : List (Severity × String)) : String :=
  "".intercalate ((lines.filter fun (s, _) => verbose || s != .debug).map fun (s, m) => logLine s m)

namespace Request

def mode (r : Request) : Mode := if r.action = .update false then .write else .dryRun

def heading (r : Request) : String :=
  if r.action = .update true ∧ !r.json then "[DRY RUN - showing what would be updated]\n" else ""

def workingDir (t : FileTree) : Path := ⟨"/" ++ "/".intercalate t.workingPlace⟩

def base (r : Request) (t : FileTree) : Path := (workingDir t).join (r.baseDir.getD ⟨"."⟩)

def directories (r : Request) (t : FileTree) : List Path :=
  match Config.load t r.config with
  | .ok config => config.rules.map fun rule => rule.directory config.defaults (r.base t)
  | .error _ => []

def log (r : Request) (base : Path) (config : Config) (run : Run) : List (Severity × String) :=
  let opening := "updating " ++ toString config.rules.length ++ " rule(s) in " ++ base.text ++
    " for " ++ toString r.scripts.length ++ " script(s)"
  (Severity.debug, opening) :: run.log.map (Severity.debug, ·) ++
    run.report.allDiagnostics.map fun d => (d.severity, d.toText)

def staleText (r : Request) (report : Report) : String :=
  if r.action = .check ∧ report.count .wouldUpdate ≠ 0 then
    "✗ " ++ toString (report.count .wouldUpdate) ++ " document(s) are not up to date\n"
  else ""

def succeeds (r : Request) (report : Report) : Bool :=
  !report.hasFailures && (r.action != .check || report.count .wouldUpdate == 0)

def failure (r : Request) (e : ConfigError) (t : FileTree) : Execution where
  exitCode := 1
  output := r.heading
  errors := "Error: " ++ e.message ++ "\n\nCaused by:\n    " ++ hang e.cause ++ "\n"
  tree := t

def execute (r : Request) (t : FileTree) : Execution :=
  match Config.load t r.config with
  | .error e => r.failure e t
  | .ok config =>
    let base := r.base t
    let run := config.run r.mode base (r.scripts.map (workingDir t).join) t
    let report := run.report
    let log := logText r.verbose (r.log base config run)
    { exitCode := if r.succeeds report then 0 else 1
      output := r.heading ++
        if r.json then (Json.ofReport report).toText ++ "\n"
        else report.listing r.differences ++ report.summary
      errors := log ++ (if r.json then "" else report.failures) ++ r.staleText report
      tree := run.tree }

end Request

def execute (args : List String) (t : FileTree) : Execution :=
  match parseArguments args with
  | .ok request => request.execute t
  | .error .version => ⟨0, versionText, "", t⟩
  | .error .help => ⟨0, usageText, "", t⟩
  | .error .misuse => ⟨2, "", usageText, t⟩

end MarkupSplice.Command
