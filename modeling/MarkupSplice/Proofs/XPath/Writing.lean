import MarkupSplice.XPath.Reader

/-!
# Writing path expressions

`Expr.written` writes a tree as tokens. Each kind of expression has a rank, the looser
the higher, and stands in parentheses where only lower ranks may stand; so does a path
that is nothing but the root where a step could be read behind it. `Expr.nesting`
counts how deep parentheses, predicates, arguments and negations nest in what is
written, and `Expr.WellFormed` tells the trees that can be written at all: those
without empty lists of steps and predicates.
-/
namespace MarkupSplice.XPath

def Comparison.token : Comparison → Token
  | .equal => .equal
  | .notEqual => .notEqual
  | .less => .less
  | .lessOrEqual => .lessOrEqual
  | .greater => .greater
  | .greaterOrEqual => .greaterOrEqual

def Arithmetic.token : Arithmetic → Token
  | .add => .plus
  | .subtract => .minus
  | .multiply => .star
  | .divide => .name "div"
  | .remainder => .name "mod"

/-- How loosely an operator binds; what closes an expression is looser than all operators, and
what goes on with a path has no rank. -/
def Token.rank : Token → Nat
  | .pipe => 3
  | .star => 5
  | .name "div" => 5
  | .name "mod" => 5
  | .plus => 6
  | .minus => 6
  | .less => 7
  | .lessOrEqual => 7
  | .greater => 7
  | .greaterOrEqual => 7
  | .equal => 8
  | .notEqual => 8
  | .name "and" => 9
  | .name "or" => 10
  | .rightParenthesis => 11
  | .rightBracket => 11
  | .comma => 11
  | _ => 0

def Expr.rank : Expr → Nat
  | .or _ _ => 10
  | .and _ _ => 9
  | .compare op _ _ => op.token.rank
  | .arithmetic op _ _ => op.token.rank
  | .negate _ => 4
  | .union _ _ => 3
  | .absolute _ => 2
  | .relative _ => 2
  | .path _ _ => 2
  | .filter _ _ => 1
  | .literal _ => 0
  | .number _ => 0
  | .call _ _ => 0

def Expr.isRoot : Expr → Bool
  | .absolute [] => true
  | _ => false

/-- Whether an expression needs parentheses where those up to rank `k` need none; `step` says
whether a step could be read behind it. -/
def Expr.encloses (e : Expr) (k : Nat) (step : Bool) : Bool := k < e.rank || (step && e.isRoot)

def NodeTest.written : NodeTest → List Token
  | .name n => [.name n]
  | .any => [.star]
  | .node => [.name "node", .leftParenthesis, .rightParenthesis]
  | .text => [.name "text", .leftParenthesis, .rightParenthesis]
  | .comment => [.name "comment", .leftParenthesis, .rightParenthesis]

def Expr.within (e : Expr) (bare : Bool → List Token) (k : Nat) (step : Bool) : List Token :=
  if e.encloses k step then .leftParenthesis :: (bare false ++ [.rightParenthesis]) else bare step

def joined (t : Token) (l r : Expr) (left right : Bool → List Token) (step : Bool) : List Token :=
  l.within left t.rank (startsStep [t]) ++ t :: r.within right (t.rank - 1) step

mutual

def Expr.bare : Expr → Bool → List Token
  | .or l r, step => joined (.name "or") l r l.bare r.bare step
  | .and l r, step => joined (.name "and") l r l.bare r.bare step
  | .compare op l r, step => joined op.token l r l.bare r.bare step
  | .arithmetic op l r, step => joined op.token l r l.bare r.bare step
  | .union l r, step => joined .pipe l r l.bare r.bare step
  | .negate e, step => .minus :: e.within e.bare 4 step
  | .absolute [], _ => [.slash]
  | .absolute (x :: xs), _ => .slash :: (x.written ++ writtenBehind xs)
  | .relative [], _ => []
  | .relative (x :: xs), _ => x.written ++ writtenBehind xs
  | .path start xs, _ => start.within start.bare 1 false ++ writtenBehind xs
  | .filter e ps, _ => e.within e.bare 0 false ++ writtenPredicates ps
  | .literal s, _ => [.literal s]
  | .number x, _ => [.number x]
  | .call f [], _ => [.name f.text, .leftParenthesis, .rightParenthesis]
  | .call f (a :: as), _ =>
    .name f.text :: .leftParenthesis :: (a.bare false ++ writtenArguments as)

def Step.written : Step → List Token
  | .mk a t ps => .name a.name :: .doubleColon :: (t.written ++ writtenPredicates ps)

def writtenBehind : List Step → List Token
  | [] => []
  | x :: xs => .slash :: (x.written ++ writtenBehind xs)

def writtenPredicates : List Expr → List Token
  | [] => []
  | p :: ps => .leftBracket :: (p.bare false ++ .rightBracket :: writtenPredicates ps)

def writtenArguments : List Expr → List Token
  | [] => [.rightParenthesis]
  | a :: as => .comma :: (a.bare false ++ writtenArguments as)

end

def Expr.written (e : Expr) : List Token := e.bare false

/-- The nesting of an expression with its parentheses, when it is `bare` without them. -/
def Expr.nestingWithin (e : Expr) (bare : Bool → Nat) (k : Nat) (step : Bool) : Nat :=
  if e.encloses k step then bare false + 1 else bare step

def joinedNesting (t : Token) (l r : Expr) (left right : Bool → Nat) (step : Bool) : Nat :=
  max (l.nestingWithin left t.rank (startsStep [t])) (r.nestingWithin right (t.rank - 1) step)

mutual

def Expr.nesting : Expr → Bool → Nat
  | .or l r, step => joinedNesting (.name "or") l r l.nesting r.nesting step
  | .and l r, step => joinedNesting (.name "and") l r l.nesting r.nesting step
  | .compare op l r, step => joinedNesting op.token l r l.nesting r.nesting step
  | .arithmetic op l r, step => joinedNesting op.token l r l.nesting r.nesting step
  | .union l r, step => joinedNesting .pipe l r l.nesting r.nesting step
  | .negate e, step => e.nestingWithin e.nesting 4 step + 1
  | .absolute xs, _ => nestingSteps xs
  | .relative xs, _ => nestingSteps xs
  | .path start xs, _ => max (start.nestingWithin start.nesting 1 false) (nestingSteps xs)
  | .filter e ps, _ => max (e.nestingWithin e.nesting 0 false) (nestingInside ps)
  | .literal _, _ => 0
  | .number _, _ => 0
  | .call _ as, _ => nestingInside as

def Step.nesting : Step → Nat
  | .mk _ _ ps => nestingInside ps

def nestingSteps : List Step → Nat
  | [] => 0
  | x :: xs => max x.nesting (nestingSteps xs)

def nestingInside : List Expr → Nat
  | [] => 0
  | e :: es => max (e.nesting false + 1) (nestingInside es)

end

mutual

def Expr.WellFormed : Expr → Prop
  | .or l r => l.WellFormed ∧ r.WellFormed
  | .and l r => l.WellFormed ∧ r.WellFormed
  | .compare _ l r => l.WellFormed ∧ r.WellFormed
  | .arithmetic _ l r => l.WellFormed ∧ r.WellFormed
  | .union l r => l.WellFormed ∧ r.WellFormed
  | .negate e => e.WellFormed
  | .absolute xs => wellFormedSteps xs
  | .relative xs => xs ≠ [] ∧ wellFormedSteps xs
  | .path start xs => start.WellFormed ∧ xs ≠ [] ∧ wellFormedSteps xs
  | .filter e ps => e.WellFormed ∧ ps ≠ [] ∧ wellFormedAll ps
  | .literal _ => True
  | .number _ => True
  | .call _ as => wellFormedAll as

def Step.WellFormed : Step → Prop
  | .mk _ _ ps => wellFormedAll ps

def wellFormedSteps : List Step → Prop
  | [] => True
  | x :: xs => x.WellFormed ∧ wellFormedSteps xs

def wellFormedAll : List Expr → Prop
  | [] => True
  | e :: es => e.WellFormed ∧ wellFormedAll es

end

end MarkupSplice.XPath
