/-!
# Places in a text

A position counts the bytes in front of a place, the line it is on and its
column in characters. Walking over a character is `step`; walking over a text
is `advance`, and a walk can be split anywhere (`advance_append`), so a
position never depends on how its text was cut into pieces.
-/
namespace MarkupSplice

structure Position where
  offset : Nat
  line : Nat
  column : Nat
deriving DecidableEq, Repr, Inhabited

structure Range where
  start : Position
  stop : Position
deriving DecidableEq, Repr, Inhabited

namespace Position

def origin : Position := ⟨0, 1, 1⟩

/-- Only a line feed ends a line. -/
def step (p : Position) (c : Char) : Position :=
  if c = '\n' then ⟨p.offset + c.utf8Size, p.line + 1, 1⟩
  else ⟨p.offset + c.utf8Size, p.line, p.column + 1⟩

def advance (p : Position) (s : List Char) : Position := s.foldl step p

@[simp] theorem advance_nil (p : Position) : p.advance [] = p := rfl

@[simp] theorem advance_cons (p : Position) (c : Char) (s : List Char) :
    p.advance (c :: s) = (p.step c).advance s := rfl

@[simp] theorem advance_append (p : Position) (s t : List Char) :
    p.advance (s ++ t) = (p.advance s).advance t := List.foldl_append

def toText (p : Position) : String := toString p.line ++ ":" ++ toString p.column

end Position

def Range.at (p : Position) : Range := ⟨p, p⟩

end MarkupSplice
