import MarkupSplice.Css.Nth
import MarkupSplice.Markup.Document
import MarkupSplice.Text.LetterCase

/-!
# CSS selectors

A complex selector is read from its end: the last compound tests an element,
and the combinator in front of it says among which elements one has to satisfy
the rest.
-/
namespace MarkupSplice.Css
open Text

inductive Operator
  | exact
  | word
  | dash
  | start
  | finish
  | inside
deriving DecidableEq, Repr

structure AttributeTest where
  name : String
  matcher : Option (Operator × String)
  ignoreCase : Bool
deriving DecidableEq, Repr

inductive Place
  | first
  | last
  | only
  | nth (e : Nth)
  | nthLast (e : Nth)
deriving DecidableEq, Repr

inductive Component
  | universal
  | tag (name : String)
  | id (value : String)
  | hasClass (name : String)
  | attribute (test : AttributeTest)
  | root
  | empty
  | child (place : Place)
  | ofType (place : Place)
  | not (alternatives : List (List Component))
deriving Repr

abbrev Compound := List Component

inductive Combinator
  | descendant
  | child
  | next
  | subsequent
deriving DecidableEq, Repr

inductive Complex
  | compound (c : Compound)
  | join (left : Complex) (k : Combinator) (right : Compound)
deriving Repr

def Operator.compare (op : Operator) (expected value : List Char) : Bool :=
  match op with
  | .exact => value == expected
  | .word => !expected.isEmpty && !expected.any isBlank && (words value).contains expected
  | .dash => value == expected || (expected ++ ['-']).isPrefixOf value
  | .start => !expected.isEmpty && expected.isPrefixOf value
  | .finish => !expected.isEmpty && expected.isSuffixOf value
  | .inside => !expected.isEmpty && (cutAt expected value).isSome

def AttributeTest.fold (t : AttributeTest) (s : String) : List Char :=
  if t.ignoreCase then lower s.toList else s.toList

/-- An absent attribute satisfies no test, and any present one the test without an operator. -/
def AttributeTest.accepts (t : AttributeTest) : Option String → Bool
  | none => false
  | some value =>
    match t.matcher with
    | none => true
    | some (op, expected) => op.compare (t.fold expected) (t.fold value)

/-- `index` counts from one. -/
def Place.holds (p : Place) (index count : Nat) : Bool :=
  match p with
  | .first => index == 1
  | .last => index == count
  | .only => count == 1
  | .nth e => e.selects index
  | .nthLast e => e.selects (count - index + 1 : Int)

def Place.holdsIn (p : Place) (siblings : List Nat) (id : Nat) : Bool :=
  p.holds (siblings.idxOf id + 1) siblings.length

/-- The value that a test on an attribute sees, empty when it has none. -/
def attributeValue (d : Document) (e : Element) (name : String) : Option String :=
  (e.findAttribute d.flavor name).map fun (_, a) => a.value.getD ""

def sameType (d : Document) (id : Nat) (e : Element) : List Nat :=
  (d.elementSiblings id).filter fun s => (d.element? s).any fun e' => d.flavor.namesMatch e'.name e.name

def isEmptyElement (d : Document) (id : Nat) : Bool :=
  (d.children id).all fun c =>
    d.nodes[c]?.all fun n => n.kind == .comment || n.kind == .declaration

mutual

def Component.accepts (d : Document) (id : Nat) (e : Element) : Component → Bool
  | .universal => true
  | .tag name => d.flavor.namesMatch e.name name
  | .id value => attributeValue d e "id" == some value
  | .hasClass name => (attributeValue d e "class").any fun v => (words v.toList).contains name.toList
  | .attribute t => t.accepts (attributeValue d e t.name)
  | .root => (d.parent? id).isNone
  | .empty => isEmptyElement d id
  | .child p => p.holdsIn (d.elementSiblings id) id
  | .ofType p => p.holdsIn (sameType d id e) id
  | .not alternatives => !anyAccepts d id e alternatives

def allAccept (d : Document) (id : Nat) (e : Element) : List Component → Bool
  | [] => true
  | c :: cs => c.accepts d id e && allAccept d id e cs

def anyAccepts (d : Document) (id : Nat) (e : Element) : List (List Component) → Bool
  | [] => false
  | c :: cs => allAccept d id e c || anyAccepts d id e cs

end

def Compound.accepts (d : Document) (c : Compound) (id : Nat) : Bool :=
  (d.element? id).any fun e => allAccept d id e c

def precedingSiblings (d : Document) (id : Nat) : List Nat :=
  (d.elementSiblings id).takeWhile (· != id)

/-- The elements that may stand on the left of a combinator when `id` stands on its right. -/
def Combinator.candidates (d : Document) (id : Nat) : Combinator → List Nat
  | .descendant => d.ancestors id
  | .child => (d.parent? id).toList
  | .next => (precedingSiblings d id).getLast?.toList
  | .subsequent => precedingSiblings d id

def Complex.accepts (d : Document) : Complex → Nat → Bool
  | .compound c, id => Compound.accepts d c id
  | .join left k right, id =>
    Compound.accepts d right id && (k.candidates d id).any fun e => left.accepts d e

def select (d : Document) (selectors : List Complex) : List Nat :=
  d.elements.filter fun id => selectors.any fun c => c.accepts d id

end MarkupSplice.Css
