import MarkupSplice.XPath.Expression
import MarkupSplice.Markup.Document

/-!
# Axes

A path goes over the root of a document, its nodes and their attributes. An
axis lists what lies in its direction, nearest first; what several steps have
found is brought into document order, in which an attribute comes behind its
element and in front of its children.
-/
namespace MarkupSplice.XPath

inductive Point
  | root
  | node (id : Nat)
  | attribute (owner index : Nat)
deriving DecidableEq, Repr

namespace Point

def order : Point → Nat × Nat
  | .root => (0, 0)
  | .node id => (id + 1, 0)
  | .attribute owner index => (owner + 1, index + 1)

def precedes (x y : Point) : Bool :=
  x.order.1 < y.order.1 || (x.order.1 == y.order.1 && x.order.2 < y.order.2)

def place (x : Point) : List Point → List Point
  | [] => [x]
  | y :: ys => if x = y then y :: ys else if x.precedes y then x :: y :: ys else y :: place x ys

def children (d : Document) : Point → List Point
  | .root => d.roots.map .node
  | .node id => (d.children id).map .node
  | .attribute _ _ => []

def descendants (d : Document) : Point → List Point
  | .root => d.ids.map .node
  | .node id => (d.descendants id).map .node
  | .attribute _ _ => []

def parent? (d : Document) : Point → Option Point
  | .root => none
  | .node id => some ((d.parent? id).elim .root .node)
  | .attribute owner _ => some (.node owner)

def ancestors (d : Document) : Point → List Point
  | .root => []
  | .node id => (d.ancestors id).map .node ++ [.root]
  | .attribute owner _ => .node owner :: (d.ancestors owner).map .node ++ [.root]

def siblings (d : Document) (id : Nat) : List Nat := d.childrenOf (d.parent? id)

def followingSiblings (d : Document) : Point → List Point
  | .node id => ((siblings d id).dropWhile (· != id)).tail.map .node
  | _ => []

def precedingSiblings (d : Document) : Point → List Point
  | .node id => ((siblings d id).takeWhile (· != id)).reverse.map .node
  | _ => []

def attributes (d : Document) : Point → List Point
  | .node id =>
    match d.element? id with
    | some e => (List.range e.attributes.length).map (.attribute id)
    | none => []
  | _ => []

end Point

def documentOrder (xs : List Point) : List Point := xs.foldr Point.place []

def Axis.points (d : Document) (x : Point) : Axis → List Point
  | .child => x.children d
  | .descendant => x.descendants d
  | .descendantOrSelf => x :: x.descendants d
  | .self => [x]
  | .parent => (x.parent? d).toList
  | .ancestor => x.ancestors d
  | .ancestorOrSelf => x :: x.ancestors d
  | .followingSibling => x.followingSiblings d
  | .precedingSibling => x.precedingSiblings d
  | .attribute => x.attributes d

def attributeAt (d : Document) (owner index : Nat) : Option Attribute :=
  (d.element? owner).bind fun e => e.attributes[index]?

def NodeTest.accepts (d : Document) (axis : Axis) : NodeTest → Point → Bool
  | .node, _ => true
  | .text, .node id => d.nodes[id]?.any Node.isText
  | .comment, .node id => d.nodes[id]?.any fun n => n.kind == .comment
  | .any, .attribute _ _ => axis == .attribute
  | .any, .node id => d.isElement id
  | .name n, .attribute owner index =>
    (attributeAt d owner index).any fun a => d.flavor.namesMatch a.name n
  | .name n, .node id => (d.element? id).any fun e => d.flavor.namesMatch e.name n
  | _, _ => false

end MarkupSplice.XPath
