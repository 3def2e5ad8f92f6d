import MarkupSplice.Text.Blank

/-!
# Paths

A path is kept as it is written. Its parts stand between slashes: names, `..`
for the directory above, and `.`, which says something only at the front of a
relative path. Joining two paths writes one behind the other, unless the second
one begins at the root.
-/
namespace MarkupSplice
open Text

inductive Part
  | root
  | here
  | above
  | name (text : String)
deriving DecidableEq, Repr

structure Path where
  text : String
deriving DecidableEq, Repr, Inhabited

namespace Path

/-- What stands between the slashes of a path, empty words left out. -/
def words (s : List Char) : List (List Char) := wordsBy (· == '/') s

def partOf (word : List Char) : Part :=
  if word = ['.', '.'] then .above else .name (String.ofList word)

def isAbsolute (p : Path) : Bool := p.text.toList.head? == some '/'

def parts (p : Path) : List Part :=
  let words := words p.text.toList
  let steps := (words.filter (· ≠ ['.'])).map partOf
  if p.isAbsolute then .root :: steps
  else if words.head? = some ['.'] then .here :: steps
  else steps

def join (p q : Path) : Path :=
  if q.isAbsolute || p.text.isEmpty then q
  else if p.text.toList.getLast? == some '/' then ⟨p.text ++ q.text⟩
  else ⟨p.text ++ "/" ++ q.text⟩

def isBlankText (s : String) : Bool := s.toList.all isBlank

def joinAll (base : Path) (texts : List String) : Path :=
  (texts.filter fun t => !isBlankText t).foldl (fun p t => p.join ⟨t⟩) base

def name? (p : Path) : Option String :=
  match p.parts.getLast? with
  | some (.name n) => some n
  | _ => none

/-- A name cut at its last dot; a dot at the front does not count. -/
def splitName (n : List Char) : List Char × Option (List Char) :=
  let tail := (n.reverse.takeWhile (· ≠ '.')).reverse
  let stem := n.take (n.length - tail.length - 1)
  if tail.length = n.length || stem.isEmpty then (n, none) else (stem, some tail)

def stem? (p : Path) : Option String :=
  p.name?.map fun n => String.ofList (splitName n.toList).1

def extension? (p : Path) : Option String :=
  p.name?.bind fun n => (splitName n.toList).2.map String.ofList

end Path
end MarkupSplice
