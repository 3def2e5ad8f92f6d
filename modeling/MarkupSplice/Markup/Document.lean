import MarkupSplice.Text.Position
import MarkupSplice.Text.Bytes
import MarkupSplice.Markup.Piece
import MarkupSplice.Markup.Reference

/-!
# Documents

A document is the forest of nodes that a text was read as, numbered in the
order of the text, each with the range it covers and the node it stands in.
All else about the forest, children, ancestors and descendants, is read off
the parents. An element covers its start tag only; its end tag has a range of
its own.
-/
namespace MarkupSplice
open Markup

structure Attribute where
  name : String
  nameRange : Range
  value : Option String
  /-- What stands between the quotes; right behind the name when nothing does. -/
  valueRange : Range
  quote : Option Char
  /-- Whether the quote stands behind the value too. -/
  closed : Bool
deriving DecidableEq, Repr, Inhabited

structure Element where
  name : String
  attributes : List Attribute
  closing : Closing
  endTag : Option Range
deriving DecidableEq, Repr

inductive NodeKind
  | element (e : Element)
  | text
  | comment
  | declaration
deriving DecidableEq, Repr

structure Node where
  kind : NodeKind
  range : Range
  source : String
  parent : Option Nat
deriving DecidableEq, Repr

inductive Fault
  | unterminatedComment
  | unterminatedCdata
  | unterminatedDeclaration
  | unterminatedStartTag (name : String)
  | unterminatedEndTag (name : String)
  | unterminatedValue
  | duplicateAttribute (name : String)
  | verbatimNotClosed (name : String)
  | notClosed (name : String)
  | unexpectedEndTag (name : String)
  | closedImplicitly (name outer : String)
deriving DecidableEq, Repr

structure Issue where
  position : Position
  fault : Fault
deriving DecidableEq, Repr

structure Document where
  flavor : Flavor
  /-- Whether the text began with a byte-order mark, which no offset counts. -/
  hasMark : Bool
  nodes : Array Node
  issues : List Issue
deriving Repr

def Fault.message : Fault → String
  | .unterminatedComment => "unterminated comment"
  | .unterminatedCdata => "unterminated CDATA section"
  | .unterminatedDeclaration => "unterminated declaration"
  | .unterminatedStartTag name => "unterminated start tag <" ++ name ++ ">"
  | .unterminatedEndTag name => "unterminated end tag </" ++ name ++ ">"
  | .unterminatedValue => "unterminated attribute value"
  | .duplicateAttribute name => "duplicate attribute '" ++ name ++ "'"
  | .verbatimNotClosed name => "<" ++ name ++ "> is never closed"
  | .notClosed name => "element <" ++ name ++ "> is never closed"
  | .unexpectedEndTag name => "unexpected end tag </" ++ name ++ ">"
  | .closedImplicitly name outer => "element <" ++ name ++ "> closed implicitly by </" ++ outer ++ ">"

namespace Element

def selfClosing (e : Element) : Bool := e.closing == .slash

def findAttribute (f : Flavor) (e : Element) (name : String) : Option (Nat × Attribute) :=
  (e.attributes.zipIdx.find? fun a => f.namesMatch a.1.name name).map fun a => (a.2, a.1)

def attribute? (e : Element) (name : String) : Option String :=
  (e.attributes.find? fun a => a.name == name).map fun a => a.value.getD ""

end Element

namespace Node

def element? (n : Node) : Option Element :=
  match n.kind with
  | .element e => some e
  | _ => none

def isElement (n : Node) : Bool := n.element?.isSome

def isText (n : Node) : Bool := n.kind == .text

def endRange (n : Node) (e : Element) : Option Range :=
  if e.selfClosing then some n.range else e.endTag

/-- Where the `>` or `/>` of the start tag stands, or would stand. -/
def delimiterOffset (n : Node) (e : Element) : Nat :=
  match e.closing with
  | .slash => n.range.stop.offset - 2
  | .bracket => n.range.stop.offset - 1
  | .cutOff => n.range.stop.offset

end Node

namespace Document

def size (d : Document) : Nat := d.nodes.size

def ids (d : Document) : List Nat := List.range d.size

def element? (d : Document) (id : Nat) : Option Element := d.nodes[id]?.bind Node.element?

def isElement (d : Document) (id : Nat) : Bool := (d.element? id).isSome

def parent? (d : Document) (id : Nat) : Option Nat := d.nodes[id]?.bind Node.parent

def childrenOf (d : Document) (parent : Option Nat) : List Nat :=
  d.ids.filter fun id => d.parent? id == parent

def roots (d : Document) : List Nat := d.childrenOf none

def children (d : Document) (id : Nat) : List Nat := d.childrenOf (some id)

/-- The nodes that `id` stands in, innermost first. -/
def ancestors (d : Document) (id : Nat) : List Nat :=
  match d.parent? id with
  | none => []
  | some p => if p < id then p :: d.ancestors p else []

def descendants (d : Document) (id : Nat) : List Nat :=
  d.ids.filter fun n => (d.ancestors n).contains id

def elements (d : Document) : List Nat := d.ids.filter d.isElement

def elementSiblings (d : Document) (id : Nat) : List Nat :=
  (d.childrenOf (d.parent? id)).filter d.isElement

def elementById (d : Document) (value : String) : Option Nat :=
  d.elements.find? fun id => (d.element? id).bind (·.attribute? "id") == some value

def elementsByTag (d : Document) (name : String) : List Nat :=
  d.elements.filter fun id =>
    (d.element? id).any fun e => Flavor.foldName e.name == Flavor.foldName name

/-- Where a node with its content and its end tag ends. -/
def outerEnd (d : Document) (id : Nat) : Position :=
  match d.nodes[id]? with
  | none => .origin
  | some n =>
    match n.element? with
    | none => n.range.stop
    | some e =>
      match n.endRange e with
      | some r => r.stop
      | none =>
        match (d.children id).getLast? with
        | none => n.range.stop
        | some last => if id < last ∧ last < d.size then d.outerEnd last else n.range.stop
termination_by d.size - id

def isCdata (raw : List Char) : Bool := cdataOpen.isPrefixOf raw

def cdataContent (raw : List Char) : List Char :=
  let inner := raw.drop cdataOpen.length
  if cdataClose.isSuffixOf inner then inner.dropLast.dropLast.dropLast else inner

/-- Whether the text of this node is a script or a style sheet, which refers to no characters. -/
def isVerbatimText (d : Document) (n : Node) : Bool :=
  d.flavor == .html &&
    (n.parent.bind d.element?).any fun e => e.name == "script" || e.name == "style"

def textValue (d : Document) (n : Node) : String :=
  let raw := n.source.toList
  if isCdata raw then String.ofList (cdataContent raw)
  else if d.isVerbatimText n then n.source
  else unescape n.source

def textContent (d : Document) (id : Nat) : String :=
  match d.nodes[id]? with
  | none => ""
  | some n =>
    if n.isText then d.textValue n
    else
      let below := (d.descendants id).filterMap fun i => d.nodes[i]?
      String.join ((below.filter Node.isText).map d.textValue)

end Document
end MarkupSplice
