/-!
# Differences between texts

Two texts are compared line by line. What both have in common is found by
Myers' method: the shortest way from one text to the other is cut at a stretch
in its middle, which searches from both ends meet at, and each half is treated
alike. Then blocks of changed lines move up and down, taking in all blocks of
their kind that they run into: past changes of the other kind all of them do,
past lines that are kept only added ones, as far as these repeat. The lines
that are left without marks make up the old or the new text, as the marks say.
-/
namespace MarkupSplice.Text.LineDiff

/-- The lines of a text with their ends; a lone carriage return ends a line as well. -/
def splitLines (s : List Char) : List (List Char) :=
  match s with
  | [] => []
  | '\r' :: '\n' :: s => ['\r', '\n'] :: splitLines s
  | c :: s =>
    if c = '\n' ∨ c = '\r' then [c] :: splitLines s
    else match splitLines s with
      | [] => [[c]]
      | line :: lines => (c :: line) :: lines

def lines (s : String) : List String := (splitLines s.toList).map String.ofList

inductive Kind
  | kept
  | removed
  | added
deriving DecidableEq, Repr

structure Block where
  kind : Kind
  lines : List String
deriving DecidableEq, Repr

def commonLength : List String → List String → Nat
  | a :: s, b :: t => if a = b then commonLength s t + 1 else 0
  | _, _ => 0

def equalFrom (a b : Array String) (x y : Nat) : Nat :=
  if h : x < a.size ∧ y < b.size then
    if a[x] = b[y] then equalFrom a b (x + 1) (y + 1) + 1 else 0
  else 0
termination_by a.size - x

/-- How far a search has come on each diagonal; the diagonal in the middle stands at `centre`. -/
structure Reach where
  centre : Nat
  furthest : Array Nat

namespace Reach

def start (centre : Nat) : Reach := ⟨centre, Array.replicate (2 * centre + 1) 0⟩

def get (r : Reach) (k : Int) : Nat := r.furthest.getD (k + r.centre).toNat 0

def set (r : Reach) (k : Int) (x : Nat) : Reach :=
  { r with furthest := r.furthest.setIfInBounds (k + r.centre).toNat x }

def entry (r : Reach) (d : Nat) (k : Int) : Nat :=
  if k = -(d : Int) ∨ (k ≠ d ∧ r.get (k - 1) < r.get (k + 1)) then r.get (k + 1)
  else r.get (k - 1) + 1

end Reach

def diagonals (d : Nat) : List Int := (List.range (d + 1)).map fun i : Nat => (d : Int) - 2 * (i : Int)

structure Sides where
  old : Array String
  new : Array String
  oldBack : Array String
  newBack : Array String

def Sides.ofLines (old new : List String) : Sides :=
  ⟨old.toArray, new.toArray, old.reverse.toArray, new.reverse.toArray⟩

namespace Sides

def delta (s : Sides) : Int := (s.old.size : Int) - s.new.size

/-- One step of the search from the front; an error is the beginning of the stretch it meets at. -/
def forward (s : Sides) (d : Nat) (back : Reach) (front : Reach) (k : Int) :
    Except (Nat × Nat) Reach :=
  let x := front.entry d k
  let y := ((x : Int) - k).toNat
  let x' := x + equalFrom s.old s.new x y
  if s.delta % 2 ≠ 0 ∧ (k - s.delta).natAbs + 1 ≤ d ∧
      x' + back.get (s.delta - k) ≥ s.old.size then .error (x, y)
  else .ok (front.set k x')

def backward (s : Sides) (d : Nat) (front : Reach) (back : Reach) (k : Int) :
    Except (Nat × Nat) Reach :=
  let x := back.entry d k
  let y := ((x : Int) - k).toNat
  let n := equalFrom s.oldBack s.newBack x y
  if s.delta % 2 = 0 ∧ (k - s.delta).natAbs ≤ d ∧
      x + n + front.get (s.delta - k) ≥ s.old.size then
    .error (s.old.size - (x + n), s.new.size - (y + n))
  else .ok (back.set k (x + n))

def round (s : Sides) (reach : Reach × Reach) (d : Nat) : Except (Nat × Nat) (Reach × Reach) := do
  let front ← (diagonals d).foldlM (s.forward d reach.2) reach.1
  let back ← (diagonals d).foldlM (s.backward d front) reach.2
  return (front, back)

def middle? (s : Sides) : Option (Nat × Nat) :=
  let most := (s.old.size + s.new.size + 1) / 2 + 1
  let start := Reach.start (most + 1)
  match (List.range most).foldlM s.round (start, start) with
  | .error cut => some cut
  | .ok _ => none

end Sides

def block (kind : Kind) (lines : List String) : List Block :=
  if lines.isEmpty then [] else [⟨kind, lines⟩]

/-- The blocks that lead from old lines to new ones, cut no more often than `cuts` says. -/
def blocks (cuts : Nat) (old new : List String) : List Block :=
  let before := commonLength old new
  let old' := old.drop before
  let new' := new.drop before
  let behind := commonLength old'.reverse new'.reverse
  let left := old'.take (old'.length - behind)
  let right := new'.take (new'.length - behind)
  let changed := match cuts, left, right with
    | cuts + 1, _ :: _, _ :: _ =>
      match (Sides.ofLines left right).middle? with
      | some (x, y) => blocks cuts (left.take x) (right.take y) ++ blocks cuts (left.drop x) (right.drop y)
      | none => block .removed left ++ block .added right
    | _, _, _ => block .removed left ++ block .added right
  block .kept (old.take before) ++ changed ++ block .kept (old'.drop (old'.length - behind))

def weight : List Block → Nat
  | [] => 0
  | b :: bs => b.lines.length + 1 + weight bs

/-- A block with what stands in front of it, the nearest first, and what stands behind it. -/
structure Focus where
  before : List Block
  here : Block
  behind : List Block

def keepInFront (lines : List String) (bs : List Block) : List Block :=
  match bs with
  | ⟨.kept, more⟩ :: bs => ⟨.kept, lines ++ more⟩ :: bs
  | bs => ⟨.kept, lines⟩ :: bs

def keepBehind (bs : List Block) (lines : List String) : List Block :=
  match bs with
  | ⟨.kept, more⟩ :: bs => ⟨.kept, more ++ lines⟩ :: bs
  | bs => ⟨.kept, lines⟩ :: bs

def endLength (s t : List String) : Nat := commonLength s.reverse t.reverse

def frontPart (s t : List String) : List String := s.take (s.length - endLength s t)

def endPart (s t : List String) : List String := s.drop (s.length - endLength s t)

theorem length_frontPart {s t : List String} (hs : s ≠ []) (h : endLength s t ≠ 0) :
    (frontPart s t).length < s.length := by
  have := List.length_pos_iff.2 hs
  simp only [frontPart, List.length_take]
  omega

theorem length_drop_commonLength {s t : List String} (hs : s ≠ []) (h : commonLength s t ≠ 0) :
    (s.drop (commonLength s t)).length < s.length := by
  have := List.length_pos_iff.2 hs
  simp only [List.length_drop]
  omega

def slideUp (before : List Block) (b : Block) (behind : List Block) : Focus :=
  match before with
  | [] => ⟨[], b, behind⟩
  | p :: before' =>
    if p.kind = .kept then
      if hp : p.lines = [] then slideUp before' b behind
      else if hn : b.kind ≠ .added ∨ endLength p.lines b.lines = 0 then ⟨p :: before', b, behind⟩
      else
        have := length_frontPart hp (not_or.1 hn).2
        slideUp (⟨.kept, frontPart p.lines b.lines⟩ :: before')
          ⟨b.kind, endPart p.lines b.lines ++ frontPart b.lines p.lines⟩
          (keepInFront (endPart p.lines b.lines) behind)
    else if p.kind = b.kind then slideUp before' ⟨b.kind, p.lines ++ b.lines⟩ behind
    else slideUp before' b (p :: behind)
termination_by weight before
decreasing_by all_goals simp only [weight]; omega

def slideDown (before : List Block) (b : Block) (behind : List Block) : Focus :=
  match behind with
  | [] => ⟨before, b, []⟩
  | p :: behind' =>
    if p.kind = .kept then
      if hp : p.lines = [] then slideDown before b behind'
      else if hn : b.kind ≠ .added ∨ commonLength p.lines b.lines = 0 then
        ⟨before, b, p :: behind'⟩
      else
        have := length_drop_commonLength hp (not_or.1 hn).2
        let shared := p.lines.take (commonLength p.lines b.lines)
        slideDown (keepBehind before shared) ⟨b.kind, b.lines.drop shared.length ++ shared⟩
          (⟨.kept, p.lines.drop (commonLength p.lines b.lines)⟩ :: behind')
    else if p.kind = b.kind then slideDown before ⟨b.kind, b.lines ++ p.lines⟩ behind'
    else slideDown (p :: before) b behind'
termination_by weight behind
decreasing_by all_goals simp only [weight]; omega

/-- Slides the blocks of one kind, the first one first. -/
def settle (kind : Kind) (moves : Nat) (before behind : List Block) : List Block :=
  match moves, behind with
  | _, [] => before.reverse
  | 0, behind => before.reverse ++ behind
  | moves + 1, b :: behind =>
    if b.kind = kind then
      let up := slideUp before b behind
      let down := slideDown up.before up.here up.behind
      settle kind moves (down.here :: down.before) down.behind
    else settle kind moves (b :: before) behind

def maxMoves (bs : List Block) : Nat := (weight bs + 1) * (weight bs + 1)

def settleAll (bs : List Block) : List Block :=
  let bs := settle .removed (maxMoves bs) [] bs
  settle .added (maxMoves bs) [] bs

def marked (bs : List Block) : List (Kind × String) :=
  go [] [] bs
where
  go (removed added : List String) : List Block → List (Kind × String)
    | [] => flush removed added
    | ⟨.removed, ls⟩ :: bs => go (removed ++ ls) added bs
    | ⟨.added, ls⟩ :: bs => go removed (added ++ ls) bs
    | ⟨.kept, ls⟩ :: bs => flush removed added ++ ls.map (Kind.kept, ·) ++ go [] [] bs
  flush (removed added : List String) : List (Kind × String) :=
    removed.map (Kind.removed, ·) ++ added.map (Kind.added, ·)

def compare (old new : String) : List (Kind × String) :=
  let old := lines old
  let new := lines new
  marked (settleAll (blocks (old.length + new.length) old new))

end MarkupSplice.Text.LineDiff
