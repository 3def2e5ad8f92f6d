import MarkupSplice.FileSet
import MarkupSplice.FileTree.Basic

/-!
# Finding documents

All files at any depth below a directory, symbolic links followed, of which
those are found that a file set accepts by their way down from the directory.
A link that leads nowhere or back to a directory that it lies in makes the
whole search fail. Found paths are in the order of their names, directory by
directory.
-/
namespace MarkupSplice

inductive ScanError
  | unreadable (path : Path) (error : FileError)
  | loop (link ancestor : Path)
deriving DecidableEq, Repr

def ScanError.message : ScanError → String
  | .unreadable p e => "IO error for operation on " ++ p.text ++ ": " ++ e.message
  | .loop p q => "File system loop found: " ++ p.text ++ " points to an ancestor " ++ q.text

namespace FileTree

structure Visited where
  path : Path
  place : Place
deriving DecidableEq, Repr

/-- What an entry of a directory is once links are followed; a link must not lead back. -/
def resolve (t : FileTree) (visited : List Visited) (path : Path) (place : Place) (name : String) :
    Except ScanError (Place × Option Entry) :=
  match t.get? (place ++ [name]) with
  | some (.link _) =>
    match t.follow maxLinks place [name] with
    | .error e => .error (.unreadable path e)
    | .ok target =>
      match visited.find? fun v => v.place = target with
      | some v => .error (.loop path v.path)
      | none => .ok (target, t.get? target)
  | e => .ok (place ++ [name], e)

/-- The ways down to all files below a directory that is at most so deep, links followed. -/
def filesBelow (t : FileTree) (depth : Nat) (visited : List Visited) (path : Path) (place : Place) :
    Except ScanError (List (List String)) :=
  match depth with
  | 0 => .ok []
  | depth + 1 => do
    let visited := ⟨path, place⟩ :: visited
    let below ← (t.namesIn place).mapM fun name => do
      let path := path.join ⟨name⟩
      match ← t.resolve visited path place name with
      | (_, some (.file _)) => return [[name]]
      | (target, some .directory) =>
        return (← t.filesBelow depth visited path target).map (name :: ·)
      | _ => return []
    return below.flatten

/-- No way down that the search takes is longer, as it never follows a link to one place twice. -/
def maxDepth (t : FileTree) : Nat := (t.entries.length + 2) * (t.entries.length + 2)

def wayText (names : List String) : String := "/".intercalate names

def wayLe (a b : List String) : Bool := (compare a b).isLE

def discover (t : FileTree) (dir : Path) (files : FileSet) : Except ScanError (List Path) :=
  match t.locate dir with
  | .error _ => .ok []
  | .ok place =>
    if t.isDirectoryAt place then do
      let found ← t.filesBelow t.maxDepth [] dir place
      let chosen := found.filter fun names => files.accepts (wayText names)
      return (chosen.mergeSort wayLe).map fun names => dir.join ⟨wayText names⟩
    else .ok []

end FileTree
end MarkupSplice
