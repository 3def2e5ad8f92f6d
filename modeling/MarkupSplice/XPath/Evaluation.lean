import MarkupSplice.XPath.Axis
import MarkupSplice.Text.Blank

/-!
# The values of path expressions

An expression stands for a list of points, a truth value, a number or a text,
as seen from a point with a position among others. A value of one kind is
taken as another where an operator or a function asks for it; only lists of
points cannot be made from anything else.
-/
namespace MarkupSplice.XPath
open Text Markup

inductive Value
  | points (xs : List Point)
  | boolean (b : Bool)
  | number (n : Float)
  | text (s : String)
deriving Repr

inductive EvalError
  | expectedPoints (found : String)
  | returns (found : String)
  | arity (f : Function) (given : Nat)
deriving DecidableEq, Repr

structure Context where
  point : Point
  position : Nat
  size : Nat
deriving Repr

def Value.kind : Value → String
  | .points _ => "node-set"
  | .boolean _ => "boolean"
  | .number _ => "number"
  | .text _ => "string"

def arityText (f : Function) : String :=
  match f.arity with
  | (least, none) => "at least " ++ toString least
  | (least, some most) =>
    if least = most then toString least else toString least ++ " to " ++ toString most

def EvalError.message : EvalError → String
  | .expectedPoints found => "expected a node-set, found a " ++ found
  | .returns found => "expression returns a " ++ found ++ " instead of nodes"
  | .arity f given =>
    f.text ++ "() takes " ++ arityText f ++ " arguments, got " ++ toString given

def commentText (raw : List Char) : List Char :=
  let inner := (after? commentOpen raw).getD raw
  if commentClose.isSuffixOf inner then inner.take (inner.length - commentClose.length) else inner

def stringValue (d : Document) : Point → String
  | .root => String.join ((d.roots.filter fun id =>
      d.nodes[id]?.any fun n => n.isElement || n.isText).map d.textContent)
  | .node id =>
    match d.nodes[id]? with
    | none => ""
    | some n =>
      match n.kind with
      | .element _ | .text => d.textContent id
      | .comment => String.ofList (commentText n.source.toList)
      | .declaration => n.source
  | .attribute owner index => ((attributeAt d owner index).bind Attribute.value).getD ""

def nodeName (d : Document) : Point → String
  | .root => ""
  | .node id => (d.element? id).elim "" Element.name
  | .attribute owner index => (attributeAt d owner index).elim "" Attribute.name

def parseNumber (s : List Char) : Float :=
  let t := trim s
  let negative := t.head? == some '-'
  let digits := if negative then t.tail else t
  let whole := digits.takeWhile (· != '.')
  let fraction := (digits.dropWhile (· != '.')).tail
  if digits.any isDigit && whole.all isDigit && fraction.all isDigit then
    let x := decimalValue whole fraction
    if negative then -x else x
  else Decimal.nan

/-- A number as text, without an exponent; zero has no sign. -/
def formatNumber (n : Float) : String := if n == 0 then "0" else Decimal.plain.write n

def Value.toText (d : Document) : Value → String
  | .points xs => xs.head?.elim "" (stringValue d)
  | .boolean b => if b then "true" else "false"
  | .number n => formatNumber n
  | .text s => s

def Value.toNumber (d : Document) : Value → Float
  | .number n => n
  | .boolean b => if b then 1 else 0
  | v => parseNumber (v.toText d).toList

def Value.toBool : Value → Bool
  | .points xs => !xs.isEmpty
  | .boolean b => b
  | .number n => n != 0 && !n.isNaN
  | .text s => s != ""

def Value.toPoints : Value → Except EvalError (List Point)
  | .points xs => .ok xs
  | v => .error (.expectedPoints v.kind)

def isNumber : Value → Bool
  | .number _ => true
  | _ => false

def isBoolean : Value → Bool
  | .boolean _ => true
  | _ => false

/-- Equal as truth values if one is such, else as numbers if one is such, else as texts. -/
def sameValue (d : Document) (x y : Value) : Bool :=
  if isBoolean x || isBoolean y then x.toBool == y.toBool
  else if isNumber x || isNumber y then x.toNumber d == y.toNumber d
  else x.toText d == y.toText d

def Comparison.atoms (d : Document) (op : Comparison) (x y : Value) : Bool :=
  match op with
  | .equal => sameValue d x y
  | .notEqual => !sameValue d x y
  | .less => x.toNumber d < y.toNumber d
  | .lessOrEqual => x.toNumber d ≤ y.toNumber d
  | .greater => y.toNumber d < x.toNumber d
  | .greaterOrEqual => y.toNumber d ≤ x.toNumber d

def pointText (d : Document) (x : Point) : Value := .text (stringValue d x)

/-- Lists of points compare when one of their texts does. -/
def Comparison.holds (d : Document) (op : Comparison) : Value → Value → Bool
  | .points xs, .boolean b => op.atoms d (.boolean !xs.isEmpty) (.boolean b)
  | .boolean b, .points xs => op.atoms d (.boolean b) (.boolean !xs.isEmpty)
  | .points xs, .points ys => xs.any fun x => ys.any fun y => op.atoms d (pointText d x) (pointText d y)
  | .points xs, y => xs.any fun x => op.atoms d (pointText d x) y
  | x, .points ys => ys.any fun y => op.atoms d x (pointText d y)
  | x, y => op.atoms d x y

def Arithmetic.compute : Arithmetic → Float → Float → Float
  | .add, x, y => x + y
  | .subtract, x, y => x - y
  | .multiply, x, y => x * y
  | .divide, x, y => x / y
  | .remainder, x, y => Decimal.remainder x y

def Function.takes (f : Function) (n : Nat) : Bool :=
  f.arity.1 ≤ n && f.arity.2.all fun most => n ≤ most

def textArgument (d : Document) (c : Context) (args : List Value) : String :=
  (args.head?.map (·.toText d)).getD (stringValue d c.point)

def nameArgument (d : Document) (c : Context) (args : List Value) : Except EvalError String :=
  match args with
  | [] => .ok (nodeName d c.point)
  | v :: _ => do return (← v.toPoints).head?.elim "" (nodeName d)

def localPart (name : String) : String :=
  String.ofList (name.toList.reverse.takeWhile (· != ':')).reverse

def Function.apply (d : Document) (c : Context) (f : Function) (args : List Value) :
    Except EvalError Value :=
  let first := (args[0]?.getD (Value.text "")).toText d
  let second := (args[1]?.getD (Value.text "")).toText d
  match f with
  | .last => .ok (.number (Float.ofNat c.size))
  | .position => .ok (.number (Float.ofNat c.position))
  | .count => do return .number (Float.ofNat (← (args[0]?.getD (Value.text "")).toPoints).length)
  | .contains => .ok (.boolean (cutAt second.toList first.toList).isSome)
  | .startsWith => .ok (.boolean (second.toList.isPrefixOf first.toList))
  | .not => .ok (.boolean !(args.head?.any Value.toBool))
  | .string => .ok (.text (textArgument d c args))
  | .normalizeSpace =>
    .ok (.text (" ".intercalate ((words (textArgument d c args).toList).map String.ofList)))
  | .name => do return .text (← nameArgument d c args)
  | .localName => do return .text (localPart (← nameArgument d c args))
  | .concat => .ok (.text (String.join (args.map (·.toText d))))
  | .always => .ok (.boolean true)
  | .never => .ok (.boolean false)

/-- A number as a predicate asks for a position. -/
def Value.selects (position : Nat) : Value → Bool
  | .number n => n == Float.ofNat position
  | v => v.toBool

/-- Keeps the points for which the predicate holds, each with its position among them. -/
def keep (holds : Context → Except EvalError Value) (xs : List Point) :
    Except EvalError (List Point) :=
  xs.zipIdx.filterMapM fun (x, i) => do
    return if (← holds ⟨x, i + 1, xs.length⟩).selects (i + 1) then some x else none

mutual

def Expr.eval (d : Document) : Expr → Context → Except EvalError Value
  | .or l r, c => do
    if (← l.eval d c).toBool then return .boolean true
    return .boolean (← r.eval d c).toBool
  | .and l r, c => do
    if (← l.eval d c).toBool then return .boolean (← r.eval d c).toBool
    return .boolean false
  | .compare op l r, c => do
    let x ← l.eval d c
    let y ← r.eval d c
    return .boolean (op.holds d x y)
  | .arithmetic op l r, c => do
    let x ← l.eval d c
    let y ← r.eval d c
    return .number (op.compute (x.toNumber d) (y.toNumber d))
  | .negate e, c => do return .number (-(← e.eval d c).toNumber d)
  | .union l r, c => do
    let xs ← (← l.eval d c).toPoints
    let ys ← (← r.eval d c).toPoints
    return .points (documentOrder (xs ++ ys))
  | .absolute steps, _ => do return .points (← evalSteps d steps [.root])
  | .relative steps, c => do return .points (← evalSteps d steps [c.point])
  | .path start steps, c => do
    let xs ← (← start.eval d c).toPoints
    return .points (← evalSteps d steps xs)
  | .filter e predicates, c => do
    let xs ← (← e.eval d c).toPoints
    return .points (← keepAll d predicates (documentOrder xs))
  | .literal s, _ => .ok (.text s)
  | .number n, _ => .ok (.number n)
  | .call f args, c => do
    if f.takes args.length then f.apply d c (← evalAll d args c)
    else throw (.arity f args.length)

def Step.eval (d : Document) : Step → List Point → Except EvalError (List Point)
  | .mk axis test predicates, xs => do
    let found ← xs.mapM fun x => keepAll d predicates ((axis.points d x).filter (test.accepts d axis))
    return documentOrder found.flatten

def evalSteps (d : Document) : List Step → List Point → Except EvalError (List Point)
  | [], xs => .ok xs
  | s :: steps, xs => do evalSteps d steps (← s.eval d xs)

def keepAll (d : Document) : List Expr → List Point → Except EvalError (List Point)
  | [], xs => .ok xs
  | p :: predicates, xs => do keepAll d predicates (← keep (p.eval d) xs)

def evalAll (d : Document) : List Expr → Context → Except EvalError (List Value)
  | [], _ => .ok []
  | e :: es, c => do
    let v ← e.eval d c
    return v :: (← evalAll d es c)

end

def Expr.select (d : Document) (e : Expr) : Except EvalError (List Nat) := do
  match ← e.eval d ⟨.root, 1, 1⟩ with
  | .points xs => return xs.filterMap fun
    | .node id => if d.isElement id then some id else none
    | _ => none
  | v => throw (.returns v.kind)

end MarkupSplice.XPath
