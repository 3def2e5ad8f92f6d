import MarkupSplice.Path.Basic
import MarkupSplice.Text.Position

/-!
# Diagnostics

What there is to say about a document or a directory, from the gravest to the
least important, with the place in the document if it is about one.
-/
namespace MarkupSplice

inductive Severity
  | error
  | warning
  | info
  | debug
deriving DecidableEq, Repr

namespace Severity

def rank : Severity → Nat
  | .error => 0
  | .warning => 1
  | .info => 2
  | .debug => 3

def name : Severity → String
  | .error => "error"
  | .warning => "warning"
  | .info => "info"
  | .debug => "debug"

def label : Severity → String
  | .error => "ERROR"
  | .warning => "WARN"
  | .info => "INFO"
  | .debug => "DEBUG"

def isBelow (s t : Severity) : Bool := t.rank < s.rank

end Severity

structure Diagnostic where
  severity : Severity
  path : Path
  position : Option Position
  message : String
deriving DecidableEq, Repr

namespace Diagnostic

def general (severity : Severity) (path : Path) (message : String) : Diagnostic :=
  ⟨severity, path, none, message⟩

def located (severity : Severity) (path : Path) (position : Position) (message : String) : Diagnostic :=
  ⟨severity, path, some position, message⟩

def toText (d : Diagnostic) : String :=
  match d.position with
  | some p => d.path.text ++ ":" ++ p.toText ++ ": " ++ d.message
  | none => d.path.text ++ ": " ++ d.message

end Diagnostic
end MarkupSplice
