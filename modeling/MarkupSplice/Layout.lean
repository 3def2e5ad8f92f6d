import MarkupSplice.Path.Route
import MarkupSplice.Template

/-!
# References to scripts

A document refers to a script by a path with `/` between its names. Either a
template says it, filled in with what the script is called and where it lies
below the script root, or it is the way from the document's directory to the
script. For that way both are taken where they are, or else each of them below
its own root, as a server would show them.
-/
namespace MarkupSplice

structure Layout where
  template : Option String
  root : Path
  scriptRoot : Path
  physical : Bool
deriving DecidableEq, Repr

structure ScriptNames where
  filename : String
  extension : String
  basename : String
  directory : String
deriving DecidableEq, Repr

namespace ScriptNames

def enclosing (p : Path) : Route := Route.empty.walk p.parts.dropLast

def ofScript (script scriptRoot : Path) : ScriptNames where
  filename := script.name?.getD ""
  extension := script.extension?.getD ""
  basename := script.stem?.getD ""
  directory := ((Route.ofPath scriptRoot).relative (enclosing script)).toText

def get? (s : ScriptNames) : String → Option String
  | "filename" => some s.filename
  | "extension" => some s.extension
  | "basename" => some s.basename
  | "path" => some s.directory
  | _ => none

end ScriptNames

def withSlashes (s : String) : String := s.map fun c => if c = '\\' then '/' else c

/-- A reference that a browser takes as relative unless it begins at the root. -/
def webForm (s : String) : String :=
  let s := withSlashes s
  match s.toList.head? with
  | some '/' | some '.' => s
  | _ => "./" ++ s

namespace Layout

def between (document script : Route) : String :=
  webForm (document.parent.relative script).toText

def reference (l : Layout) (document script : Path) : String :=
  match l.template with
  | some t => withSlashes (interpolate t (ScriptNames.ofScript script l.scriptRoot).get?)
  | none =>
    if l.physical then between (.ofPath document) (.ofPath script)
    else between (l.root.relative document) (l.scriptRoot.relative script)

end Layout
end MarkupSplice
