import MarkupSplice.Text.Search

/-!
# Patterns for paths

A pattern is matched against a whole path with `/` between its names. `?`
stands for any character of a name and `*` for any number of them, `[…]` for
one of several characters and `[!…]` for one of all others. `**` is a name of
its own and stands for any number of names. What can be left of a path behind
a piece of a pattern is said by `Piece.rests`, and matching follows from it.
-/
namespace MarkupSplice.Glob
open Text

inductive Piece
  | char (c : Char)
  | any
  | within (ranges : List (Char × Char))
  | outside (ranges : List (Char × Char))
  | run
  | deep
deriving DecidableEq, Repr

inductive Fault
  | range
  | wildcards
  | recursion
deriving DecidableEq, Repr

def Fault.message : Fault → String
  | .range => "invalid range pattern"
  | .wildcards => "wildcards are either regular `*` or recursive `**`"
  | .recursion => "recursive wildcards must form a single path component"

def ranges : List Char → List (Char × Char)
  | a :: '-' :: b :: s => (a, b) :: ranges s
  | c :: s => (c, c) :: ranges s
  | [] => []

/-- What stands behind an opening bracket; its first character never closes it. -/
def bracket? : List Char → Option (Piece × List Char)
  | '!' :: c :: s => (cutAt [']'] s).map fun (cs, rest) => (.outside (ranges (c :: cs)), rest)
  | ['!'] | [] => none
  | c :: s => (cutAt [']'] s).map fun (cs, rest) => (.within (ranges (c :: cs)), rest)

theorem length_bracket {s r : List Char} {p : Piece} (h : bracket? s = some (p, r)) :
    r.length < s.length := by
  have cut {s cs r : List Char} (h : cutAt [']'] s = some (cs, r)) : r.length < s.length := by
    have := congrArg List.length (append_of_cutAt h)
    simp only [List.length_append, List.length_cons, List.length_nil] at this
    omega
  unfold bracket? at h
  split at h
  · obtain ⟨⟨cs, r'⟩, hc, he⟩ := Option.map_eq_some_iff.1 h
    obtain ⟨-, rfl⟩ := Prod.mk.inj he
    have := cut hc
    simp only [List.length_cons]
    omega
  · cases h
  · cases h
  · obtain ⟨⟨cs, r'⟩, hc, he⟩ := Option.map_eq_some_iff.1 h
    obtain ⟨-, rfl⟩ := Prod.mk.inj he
    have := cut hc
    simp only [List.length_cons]
    omega

/-- The pieces of a pattern; `fresh` says that a name begins here. -/
def piecesFrom (fresh : Bool) (s : List Char) : Except Fault (List Piece) :=
  match s with
  | [] => .ok []
  | '*' :: '*' :: '*' :: _ => .error .wildcards
  | ['*', '*'] => if fresh then .ok [.deep] else .error .recursion
  | '*' :: '*' :: c :: s =>
    if fresh && c == '/' then (piecesFrom true s).map (.deep :: ·) else .error .recursion
  | '*' :: s => (piecesFrom false s).map (.run :: ·)
  | '?' :: s => (piecesFrom false s).map (.any :: ·)
  | '[' :: s =>
    match h : bracket? s with
    | some (p, rest) =>
      have := length_bracket h
      (piecesFrom false rest).map (p :: ·)
    | none => .error .range
  | c :: s => (piecesFrom (c == '/') s).map (.char c :: ·)
termination_by s.length
decreasing_by all_goals simp only [List.length_cons]; omega

def pieces (pattern : String) : Except Fault (List Piece) := piecesFrom true pattern.toList

def inSome (ranges : List (Char × Char)) (c : Char) : Bool :=
  ranges.any fun (a, b) => a ≤ c && c ≤ b

def withinName : List Char → List (List Char)
  | [] => [[]]
  | c :: s => (c :: s) :: if c = '/' then [] else withinName s

def behindSlashes : List Char → List (List Char)
  | [] => []
  | c :: s => if c = '/' then s :: behindSlashes s else behindSlashes s

namespace Piece

/-- Whether the piece stands for this one character. -/
def accepts : Piece → Char → Bool
  | .char a, c => a == c
  | .any, c => c != '/'
  | .within rs, c => c != '/' && inSome rs c
  | .outside rs, c => c != '/' && !inSome rs c
  | _, _ => false

def rests (p : Piece) (s : List Char) : List (List Char) :=
  match p with
  | .run => withinName s
  | .deep => s :: (behindSlashes s ++ [[]])
  | _ => match s with
    | [] => []
    | c :: r => if p.accepts c then [r] else []

end Piece

def matchPieces : List Piece → List Char → Bool
  | [], s => s.isEmpty
  | p :: ps, s => (p.rests s).any (matchPieces ps)

/-- A faulty pattern matches nothing. -/
def accepts (pattern path : String) : Bool :=
  match pieces pattern with
  | .ok ps => matchPieces ps path.toList
  | .error _ => false

end MarkupSplice.Glob
