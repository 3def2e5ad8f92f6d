import MarkupSplice.XPath.Token

/-!
# Path expressions

The syntax tree of an expression. A path starts at the root, at the context
node or at the nodes of another expression, and takes steps; a step goes along
an axis, tests the nodes it finds and filters them by predicates.
-/
namespace MarkupSplice.XPath

inductive Comparison
  | equal
  | notEqual
  | less
  | lessOrEqual
  | greater
  | greaterOrEqual
deriving DecidableEq, Repr

inductive Arithmetic
  | add
  | subtract
  | multiply
  | divide
  | remainder
deriving DecidableEq, Repr

inductive Axis
  | child
  | descendant
  | descendantOrSelf
  | self
  | parent
  | ancestor
  | ancestorOrSelf
  | followingSibling
  | precedingSibling
  | attribute
deriving DecidableEq, Repr

inductive NodeTest
  | name (name : String)
  | any
  | node
  | text
  | comment
deriving DecidableEq, Repr

inductive Function
  | last
  | position
  | count
  | contains
  | startsWith
  | not
  | string
  | normalizeSpace
  | name
  | localName
  | concat
  | always
  | never
deriving DecidableEq, Repr

mutual

inductive Expr
  | or (left right : Expr)
  | and (left right : Expr)
  | compare (op : Comparison) (left right : Expr)
  | arithmetic (op : Arithmetic) (left right : Expr)
  | negate (e : Expr)
  | union (left right : Expr)
  | absolute (steps : List Step)
  | relative (steps : List Step)
  | path (start : Expr) (steps : List Step)
  | filter (e : Expr) (predicates : List Expr)
  | literal (text : String)
  | number (value : Float)
  | call (f : Function) (arguments : List Expr)

inductive Step
  | mk (axis : Axis) (test : NodeTest) (predicates : List Expr)

end

instance : Inhabited Expr := ⟨.number 0⟩

def Axis.name : Axis → String
  | .child => "child"
  | .descendant => "descendant"
  | .descendantOrSelf => "descendant-or-self"
  | .self => "self"
  | .parent => "parent"
  | .ancestor => "ancestor"
  | .ancestorOrSelf => "ancestor-or-self"
  | .followingSibling => "following-sibling"
  | .precedingSibling => "preceding-sibling"
  | .attribute => "attribute"

def Axis.all : List Axis :=
  [.child, .descendant, .descendantOrSelf, .self, .parent, .ancestor, .ancestorOrSelf,
    .followingSibling, .precedingSibling, .attribute]

def Axis.ofName? (name : String) : Option Axis := Axis.all.find? fun a => a.name == name

def Function.text : Function → String
  | .last => "last"
  | .position => "position"
  | .count => "count"
  | .contains => "contains"
  | .startsWith => "starts-with"
  | .not => "not"
  | .string => "string"
  | .normalizeSpace => "normalize-space"
  | .name => "name"
  | .localName => "local-name"
  | .concat => "concat"
  | .always => "true"
  | .never => "false"

def Function.all : List Function :=
  [.last, .position, .count, .contains, .startsWith, .not, .string, .normalizeSpace, .name,
    .localName, .concat, .always, .never]

def Function.ofText? (text : String) : Option Function := Function.all.find? fun f => f.text == text

def Function.arity : Function → Nat × Option Nat
  | .last | .position | .always | .never => (0, some 0)
  | .count | .not => (1, some 1)
  | .contains | .startsWith => (2, some 2)
  | .string | .normalizeSpace | .name | .localName => (0, some 1)
  | .concat => (2, none)

/-- The step that a double slash stands for. -/
def Step.anywhere : Step := .mk .descendantOrSelf .node []

end MarkupSplice.XPath
