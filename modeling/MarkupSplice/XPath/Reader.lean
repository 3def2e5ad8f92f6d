import MarkupSplice.XPath.Expression

/-!
# Reading path expressions

Operators bind in the order or, and, equality, relation, sum, product,
negation, union, path; those of two operands join to the left. Parentheses,
predicates, arguments and negations nest at most 64 levels deep: a reader of
expressions is built from the reader of one level less.
-/
namespace MarkupSplice.XPath
open Text

inductive Fault
  | malformed (m : Malformed)
  | unexpected (t : Token)
  | nestedTooDeep
  | unsupportedAxis (name : String)
  | expectedNodeTest
  | expectedBracket
  | expectedParenthesis
  | expectedCommaOrParenthesis
  | unknownFunction (name : String)
  | expectedExpression
deriving Repr

/-- `rest` is what was left at the fault. -/
structure Failure where
  fault : Fault
  rest : List Token
deriving Repr

abbrev Reader (α : Type) := (s : List Token) → Except Failure (α × Shorter s)

def maxNesting : Nat := 64

def Fault.message : Fault → String
  | .malformed m => m.message
  | .unexpected t => "unexpected " ++ t.describe
  | .nestedTooDeep => "expression nested deeper than " ++ toString maxNesting ++ " levels"
  | .unsupportedAxis name => "unsupported axis '" ++ name ++ "'"
  | .expectedNodeTest => "expected a node test"
  | .expectedBracket => "expected ']'"
  | .expectedParenthesis => "expected ')'"
  | .expectedCommaOrParenthesis => "expected ',' or ')'"
  | .unknownFunction name => "unknown function '" ++ name ++ "'"
  | .expectedExpression => "expected an expression"

def operands (one : Reader Expr) (operator? : Token → Option (Expr → Expr → Expr)) (left : Expr)
    (s : List Token) : Except Failure (Expr × NoLonger s) :=
  match s with
  | [] => .ok (left, ⟨[], Nat.le_refl _⟩)
  | t :: r =>
    match operator? t with
    | none => .ok (left, ⟨t :: r, Nat.le_refl _⟩)
    | some join => do
      let (right, ⟨r', h⟩) ← one r
      have := length_lt_cons_of_lt t h
      let (e, ⟨r'', h'⟩) ← operands one operator? (join left right) r'
      return (e, ⟨r'', by omega⟩)
termination_by s.length
decreasing_by exact this

def leftAssociative (one : Reader Expr) (operator? : Token → Option (Expr → Expr → Expr)) :
    Reader Expr := fun s => do
  let (left, ⟨r, h⟩) ← one s
  let (e, ⟨r', h'⟩) ← operands one operator? left r
  return (e, ⟨r', by omega⟩)

def orOperator? : Token → Option (Expr → Expr → Expr)
  | .name "or" => some .or
  | _ => none

def andOperator? : Token → Option (Expr → Expr → Expr)
  | .name "and" => some .and
  | _ => none

def equalityOperator? : Token → Option (Expr → Expr → Expr)
  | .equal => some (.compare .equal)
  | .notEqual => some (.compare .notEqual)
  | _ => none

def relationOperator? : Token → Option (Expr → Expr → Expr)
  | .less => some (.compare .less)
  | .lessOrEqual => some (.compare .lessOrEqual)
  | .greater => some (.compare .greater)
  | .greaterOrEqual => some (.compare .greaterOrEqual)
  | _ => none

def sumOperator? : Token → Option (Expr → Expr → Expr)
  | .plus => some (.arithmetic .add)
  | .minus => some (.arithmetic .subtract)
  | _ => none

def productOperator? : Token → Option (Expr → Expr → Expr)
  | .star => some (.arithmetic .multiply)
  | .name "div" => some (.arithmetic .divide)
  | .name "mod" => some (.arithmetic .remainder)
  | _ => none

def unionOperator? : Token → Option (Expr → Expr → Expr)
  | .pipe => some .union
  | _ => none

def expressionOver (negation : Reader Expr) : Reader Expr :=
  let product := leftAssociative negation productOperator?
  let sum := leftAssociative product sumOperator?
  let relation := leftAssociative sum relationOperator?
  let equality := leftAssociative relation equalityOperator?
  let conjunction := leftAssociative equality andOperator?
  leftAssociative conjunction orOperator?

-- in what follows `inner` reads an expression one level deeper, when there is one more level
def nested (inner : Option (Reader Expr)) : Reader Expr := fun s =>
  match inner with
  | none => .error ⟨.nestedTooDeep, s⟩
  | some read => read s

def predicates (inner : Option (Reader Expr)) (s : List Token) :
    Except Failure (List Expr × NoLonger s) :=
  match s with
  | .leftBracket :: r => do
    let (e, ⟨r', h⟩) ← nested inner r
    match r', h with
    | .rightBracket :: r'', h =>
      have : r''.length < (Token.leftBracket :: r).length := by
        simp only [List.length_cons] at h ⊢; omega
      let (es, ⟨rest, h'⟩) ← predicates inner r''
      return (e :: es, ⟨rest, by omega⟩)
    | r', _ => throw ⟨.expectedBracket, r'⟩
  | s => .ok ([], ⟨s, Nat.le_refl _⟩)
termination_by s.length
decreasing_by exact this

def nodeType? : String → Option NodeTest
  | "node" => some .node
  | "text" => some .text
  | "comment" => some .comment
  | _ => none

def nodeTest : Reader NodeTest := fun s =>
  match s with
  | .star :: r => .ok (.any, ⟨r, Nat.lt_succ_self _⟩)
  | .name n :: .leftParenthesis :: r =>
    match nodeType? n with
    | some t =>
      match r with
      | .rightParenthesis :: r' => .ok (t, ⟨r', by simp only [List.length_cons]; omega⟩)
      | r => .error ⟨.expectedParenthesis, r⟩
    | none => .ok (.name n, ⟨.leftParenthesis :: r, Nat.lt_succ_self _⟩)
  | .name n :: r => .ok (.name n, ⟨r, Nat.lt_succ_self _⟩)
  | s => .error ⟨.expectedNodeTest, s⟩

/-- An axis that is written out, or `@`; the child axis when neither is there. -/
def axis (s : List Token) : Except Failure (Axis × NoLonger s) :=
  match s with
  | .at :: r => .ok (.attribute, ⟨r, Nat.le_succ _⟩)
  | .name n :: .doubleColon :: r =>
    match Axis.ofName? n with
    | some a => .ok (a, ⟨r, by simp only [List.length_cons]; omega⟩)
    | none => .error ⟨.unsupportedAxis n, .name n :: .doubleColon :: r⟩
  | s => .ok (.child, ⟨s, Nat.le_refl _⟩)

def step (inner : Option (Reader Expr)) : Reader Step := fun s =>
  match s with
  | .dot :: r => .ok (.mk .self .node [], ⟨r, Nat.lt_succ_self _⟩)
  | .doubleDot :: r => .ok (.mk .parent .node [], ⟨r, Nat.lt_succ_self _⟩)
  | s => do
    let (a, ⟨r, h⟩) ← axis s
    let (t, ⟨r', h'⟩) ← nodeTest r
    let (ps, ⟨r'', h''⟩) ← predicates inner r'
    return (.mk a t ps, ⟨r'', by omega⟩)

def moreSteps (inner : Option (Reader Expr)) (s : List Token) :
    Except Failure (List Step × NoLonger s) :=
  match s with
  | .slash :: r => do
    let (x, ⟨r', h⟩) ← step inner r
    have : r'.length < (Token.slash :: r).length := by simp only [List.length_cons]; omega
    let (xs, ⟨r'', h'⟩) ← moreSteps inner r'
    return (x :: xs, ⟨r'', by omega⟩)
  | .doubleSlash :: r => do
    let (x, ⟨r', h⟩) ← step inner r
    have : r'.length < (Token.doubleSlash :: r).length := by simp only [List.length_cons]; omega
    let (xs, ⟨r'', h'⟩) ← moreSteps inner r'
    return (.anywhere :: x :: xs, ⟨r'', by omega⟩)
  | s => .ok ([], ⟨s, Nat.le_refl _⟩)
termination_by s.length
decreasing_by all_goals exact this

def steps (inner : Option (Reader Expr)) : Reader (List Step) := fun s => do
  let (x, ⟨r, h⟩) ← step inner s
  let (xs, ⟨r', h'⟩) ← moreSteps inner r
  return (x :: xs, ⟨r', by omega⟩)

def startsStep : List Token → Bool
  | .dot :: _ | .doubleDot :: _ | .at :: _ | .star :: _ | .name _ :: _ => true
  | _ => false

def someArguments (inner : Option (Reader Expr)) (s : List Token) :
    Except Failure (List Expr × Shorter s) := do
  let (e, ⟨r, h⟩) ← nested inner s
  match r, h with
  | .rightParenthesis :: r', h => return ([e], ⟨r', by simp only [List.length_cons] at h; omega⟩)
  | .comma :: r', h =>
    have : r'.length < s.length := by simp only [List.length_cons] at h; omega
    let (es, ⟨r'', h'⟩) ← someArguments inner r'
    return (e :: es, ⟨r'', by omega⟩)
  | r', _ => throw ⟨.expectedCommaOrParenthesis, r'⟩
termination_by s.length
decreasing_by exact this

def arguments (inner : Option (Reader Expr)) : Reader (List Expr) := fun s =>
  match s with
  | .rightParenthesis :: r => .ok ([], ⟨r, Nat.lt_succ_self _⟩)
  | s => someArguments inner s

def primary? (inner : Option (Reader Expr)) (s : List Token) :
    Option (Except Failure (Expr × Shorter s)) :=
  match s with
  | .literal text :: r => some (.ok (.literal text, ⟨r, Nat.lt_succ_self _⟩))
  | .number x :: r => some (.ok (.number x, ⟨r, Nat.lt_succ_self _⟩))
  | .leftParenthesis :: r => some do
    let (e, ⟨r', h⟩) ← nested inner r
    match r', h with
    | .rightParenthesis :: r'', h =>
      return (e, ⟨r'', by simp only [List.length_cons] at h ⊢; omega⟩)
    | r', _ => throw ⟨.expectedParenthesis, r'⟩
  | .name n :: .leftParenthesis :: r =>
    if (nodeType? n).isSome then none
    else some do
      match Function.ofText? n with
      | none => throw ⟨.unknownFunction n, .name n :: .leftParenthesis :: r⟩
      | some f =>
        let (es, ⟨r', h⟩) ← arguments inner r
        return (.call f es, ⟨r', by simp only [List.length_cons]; omega⟩)
  | _ => none

def filtered (inner : Option (Reader Expr)) {s : List Token} (e : Expr) (r : Shorter s) :
    Except Failure (Expr × Shorter s) := do
  let (ps, ⟨r', h'⟩) ← predicates inner r.val
  let e := if ps.isEmpty then e else .filter e ps
  let (xs, ⟨r'', h''⟩) ← moreSteps inner r'
  let h := r.property
  return (if xs.isEmpty then e else .path e xs, ⟨r'', by omega⟩)

def path (inner : Option (Reader Expr)) : Reader Expr := fun s =>
  match s with
  | .slash :: r =>
    if startsStep r then do
      let (xs, ⟨r', h⟩) ← steps inner r
      return (.absolute xs, ⟨r', by simp only [List.length_cons]; omega⟩)
    else .ok (.absolute [], ⟨r, Nat.lt_succ_self _⟩)
  | .doubleSlash :: r => do
    let (xs, ⟨r', h⟩) ← steps inner r
    return (.absolute (.anywhere :: xs), ⟨r', by simp only [List.length_cons]; omega⟩)
  | s =>
    match primary? inner s with
    | some read => do
      let (e, r) ← read
      filtered inner e r
    | none => do
      let (xs, r) ← steps inner s
      return (.relative xs, r)

/-- A negation reads its operand one level deeper, as the expressions in parentheses are. -/
def negationOver (inner : Option (Reader Expr)) : Reader Expr := fun s =>
  match s with
  | .minus :: r => do
    let (e, ⟨r', h⟩) ← nested inner r
    return (.negate e, ⟨r', by simp only [List.length_cons]; omega⟩)
  | s => leftAssociative (path (inner.map expressionOver)) unionOperator? s

def negation : Nat → Reader Expr
  | 0 => negationOver none
  | n + 1 => negationOver (some (negation n))

def expression (n : Nat) : Reader Expr := expressionOver (negation n)

def read (s : List Token) : Except Failure Expr := do
  let (e, ⟨r, _⟩) ← expression maxNesting s
  match r with
  | [] => return e
  | t :: r => throw ⟨.unexpected t, t :: r⟩

/-- The expression that a text writes, or the byte offset of what is wrong with it. -/
def parse (text : String) : Except (Nat × Fault) Expr :=
  match tokens 0 text.toList with
  | .error (offset, m) => .error (offset, .malformed m)
  | .ok ts =>
    match read (ts.map Prod.snd) with
    | .ok e => .ok e
    | .error ⟨fault, rest⟩ =>
      .error ((ts[ts.length - rest.length]?).elim text.utf8ByteSize Prod.fst, fault)

end MarkupSplice.XPath
