import MarkupSplice.Path.Basic
import MarkupSplice.Text.Bytes

/-!
# File trees

What a file system holds, as one value: an entry for each place below the root
and the directory that relative paths begin in. Places are names from the root
down and lead through directories only; a path may lead through symbolic links
and back up, and `locate` says at which place it ends. A file is replaced as a
whole or not at all (`replaceFile`), a link at its place giving way to it.
Names and paths are of limited length and hold no zero character.
-/
namespace MarkupSplice
open Text

abbrev Place := List String

inductive Entry
  | file (content : Bytes)
  | directory
  | link (target : Path)
deriving DecidableEq, Repr

inductive FileError
  | notFound
  | notDirectory
  | isDirectory
  | busy
  | tooManyLinks
  | nameTooLong
  | zeroInName
  | noParent
  | notText
deriving DecidableEq, Repr

def FileError.message : FileError → String
  | .notFound => "No such file or directory (os error 2)"
  | .notDirectory => "Not a directory (os error 20)"
  | .isDirectory => "Is a directory (os error 21)"
  | .busy => "Device or resource busy (os error 16)"
  | .tooManyLinks => "Too many levels of symbolic links (os error 40)"
  | .nameTooLong => "File name too long (os error 36)"
  | .zeroInName => "file name contained an unexpected NUL byte"
  | .noParent => "Path has no parent directory"
  | .notText => "stream did not contain valid UTF-8"

structure FileTree where
  entries : List (Place × Entry)
  workingPlace : Place
deriving DecidableEq, Repr

namespace FileTree

def get? (t : FileTree) (place : Place) : Option Entry :=
  if place.isEmpty then some .directory else t.entries.lookup place

def isDirectoryAt (t : FileTree) (place : Place) : Bool := t.get? place == some .directory

/-- The first entry for a place is the one that counts. -/
def put (t : FileTree) (place : Place) (e : Entry) : FileTree :=
  { t with entries := (place, e) :: t.entries.filter fun (p, _) => p != place }

def namesIn (t : FileTree) (place : Place) : List String :=
  let names := t.entries.filterMap fun (p, _) =>
    if p.dropLast = place then p.getLast? else none
  names.mergeSort

/-- What leads from the start of a path to its end; a slash at the end asks for a directory. -/
def steps (p : Path) : List String :=
  let words := (Path.words p.text.toList).map String.ofList
  if p.text.toList.getLast? = some '/' then words ++ ["."] else words

def start (p : Path) (place : Place) : Place := if p.isAbsolute then [] else place

def maxNameLength : Nat := 255

def maxPathLength : Nat := 4095

def isTooLong (name : String) : Bool := maxNameLength < name.utf8ByteSize

def check (p : Path) : Except FileError Unit :=
  if p.text.toList.contains '\x00' then .error .zeroInName
  else if maxPathLength < p.text.utf8ByteSize then .error .nameTooLong
  else .ok ()

/-- The place at the end of some steps, all links on the way followed. -/
def follow (t : FileTree) (links : Nat) (place : Place) (names : List String) :
    Except FileError Place :=
  match names with
  | [] => .ok place
  | name :: rest =>
    if !t.isDirectoryAt place then .error .notDirectory
    else if name = "." then t.follow links place rest
    else if name = ".." then t.follow links place.dropLast rest
    else if isTooLong name then .error .nameTooLong
    else
      match t.get? (place ++ [name]) with
      | none => .error .notFound
      | some (.link target) =>
        match links with
        | 0 => .error .tooManyLinks
        | links + 1 => t.follow links (start target place) (steps target ++ rest)
      | some _ => t.follow links (place ++ [name]) rest
termination_by (links, names.length)

def maxLinks : Nat := 40

def locate (t : FileTree) (p : Path) : Except FileError Place := do
  check p
  if p.text.isEmpty then .error .notFound
  else t.follow maxLinks (start p t.workingPlace) (steps p)

def isDirectory (t : FileTree) (p : Path) : Bool :=
  match t.locate p with
  | .ok place => t.isDirectoryAt place
  | .error _ => false

def readFile (t : FileTree) (p : Path) : Except FileError Bytes := do
  match t.get? (← t.locate p) with
  | some (.file content) => .ok content
  | some .directory => .error .isDirectory
  | _ => .error .notFound

def directoryAt (t : FileTree) (place : Place) (names : List String) : Except FileError Place :=
  t.follow maxLinks place (names ++ ["."])

def stepOf? : Part → Option String
  | .root => none
  | .here => some "."
  | .above => some ".."
  | .name n => some n

/-- A name as long as those that files have until they are complete. -/
def draftName : String := ".draft-000"

/-- The place in the directory of a path at which a file is put, under the last name of the path. -/
def target (t : FileTree) (p : Path) : Except FileError Place := do
  let place := start p t.workingPlace
  let names := (Path.words p.text.toList).map String.ofList
  match names.getLast? with
  | none => .error .noParent
  | some name =>
    let above := p.parts.dropLast.filterMap stepOf?
    check ⟨"/".intercalate (above ++ [draftName])⟩
    let _ ← t.directoryAt place above
    check p
    let parent ← t.directoryAt place names.dropLast
    if name = "." ∨ name = ".." then .error .busy
    else if isTooLong name then .error .nameTooLong
    else if p.text.toList.getLast? = some '/' then .error .notDirectory
    else if t.isDirectoryAt (parent ++ [name]) then .error .isDirectory
    else .ok (parent ++ [name])

def replaceFile (t : FileTree) (p : Path) (content : Bytes) : Except FileError FileTree :=
  (t.target p).map fun place => t.put place (.file content)

end FileTree
end MarkupSplice
