import MarkupSplice.Text.Bytes
import MarkupSplice.Text.Search

/-!
# Edits

An edit replaces the bytes from `start` up to `stop` of a text. The offsets of
all edits in a list refer to the text they are made for, so they are applied
from the highest offset down. `schedule` brings them into that order: it drops
an edit that repeats the one in front of it, joins insertions at one place, and
refuses all other edits that share a start or overlap.
-/
namespace MarkupSplice
open Text

structure Edit where
  start : Nat
  stop : Nat
  text : String
deriving DecidableEq, Repr

inductive EditError
  | invalidRange (start stop length : Nat)
  | notBoundary (offset : Nat)
  | conflict (first second : Nat × Nat)
  | crossesStartTag (start stop boundary : Nat)
deriving DecidableEq, Repr

def intervalText (start stop : Nat) : String := "[" ++ toString start ++ ", " ++ toString stop ++ ")"

def EditError.message : EditError → String
  | .invalidRange a b n =>
    "Invalid byte range: " ++ intervalText a b ++ " in text of length " ++ toString n
  | .notBoundary n => "Edit boundary " ++ toString n ++ " does not fall on a character boundary"
  | .conflict (a, b) (c, d) =>
    "Conflicting edits: " ++ intervalText a b ++ " and " ++ intervalText c d ++ " overlap"
  | .crossesStartTag a b n =>
    "Edit " ++ intervalText a b ++ " crosses the start tag boundary at " ++ toString n

namespace Edit

def insert (offset : Nat) (text : String) : Edit := ⟨offset, offset, text⟩

def delete (start stop : Nat) : Edit := ⟨start, stop, ""⟩

def isInsertion (e : Edit) : Bool := e.start == e.stop

def shift (n : Nat) (e : Edit) : Edit := ⟨e.start + n, e.stop + n, e.text⟩

def interval (e : Edit) : Nat × Nat := (e.start, e.stop)

def validate (s : List Char) (e : Edit) : Except EditError Unit :=
  if e.start > e.stop ∨ e.stop > byteLength s then
    .error (.invalidRange e.start e.stop (byteLength s))
  else if !isBoundary s e.start then .error (.notBoundary e.start)
  else if !isBoundary s e.stop then .error (.notBoundary e.stop)
  else .ok ()

def place (e : Edit) : List Edit → List Edit
  | [] => [e]
  | e' :: rest => if e'.start ≤ e.start then e :: e' :: rest else e' :: place e rest

/-- By start, the highest first; edits with one start keep their order. -/
def descending (es : List Edit) : List Edit := es.foldr place []

/-- Takes one more edit, no higher than those taken; the list begins with the last one taken. -/
def take (taken : List Edit) (e : Edit) : Except EditError (List Edit) :=
  match taken with
  | [] => .ok [e]
  | last :: rest =>
    if last.start = e.start then
      if last = e then .ok taken
      else if last.isInsertion && e.isInsertion then
        .ok ({ last with text := last.text ++ e.text } :: rest)
      else .error (.conflict last.interval e.interval)
    else if e.stop > last.start then .error (.conflict e.interval last.interval)
    else .ok (e :: taken)

def schedule (s : List Char) (es : List Edit) : Except EditError (List Edit) := do
  es.forM (validate s)
  return (← (descending es).foldlM take []).reverse

/-- Replaces the bytes of one edit; a text without its boundaries is left alone. -/
def splice (s : List Char) (e : Edit) : List Char :=
  match cutBytes s e.start, cutBytes s e.stop with
  | some (before, _), some (_, behind) => before ++ e.text.toList ++ behind
  | _, _ => s

def apply (s : List Char) (es : List Edit) : Except EditError (List Char) := do
  return (← schedule s es).foldl splice s

def markLength : Nat := 3

def shiftPastMark (s : List Char) (es : List Edit) : List Edit :=
  if s.head? = some '\ufeff' then es.map (shift markLength) else es

end Edit

def applyEdits (text : String) (es : List Edit) : Except EditError String :=
  (Edit.apply text.toList es).map String.ofList

end MarkupSplice
