import MarkupSplice.Edit
import MarkupSplice.Markup.Escape
import MarkupSplice.Markup.Document
import MarkupSplice.Text.Blank

/-!
# Planning edits for an element

To plan is to say which bytes of a text have to change so that an element has
an attribute of a given value, or no content. Nothing is planned when it
already is so. An absent attribute is inserted in front of the delimiter of
the start tag, a bare one gets a value behind its name, an empty value is
written anew together with its equals sign up to the next attribute, and of any
other value only the characters are replaced, with its quotes when they have
to change.
-/
namespace MarkupSplice
open Markup Text

inductive QuoteStyle
  | preserve
  | double
deriving DecidableEq, Repr, Inhabited

structure PlanOptions where
  escaping : Flavor
  quotes : QuoteStyle
deriving DecidableEq, Repr

namespace Plan

def quoted (escaped : String) : String := "\"" ++ escaped ++ "\""

/-- Whether an escaped value cannot stand without quotes. -/
def needsQuotes (escaped : List Char) : Bool :=
  escaped.isEmpty || escaped.getLast? == some '/' ||
    escaped.any fun c => isBlank c || c == '=' || c == '`'

def replaceValue (o : PlanOptions) (a : Attribute) (escaped : String) : Edit :=
  let start := a.valueRange.start.offset
  let stop := a.valueRange.stop.offset
  match a.quote with
  | some q =>
    if o.quotes = .double ∧ q ≠ '"' ∧ a.closed then ⟨start - 1, stop + 1, quoted escaped⟩
    else ⟨start, stop, escaped⟩
  | none =>
    if o.quotes = .double ∨ needsQuotes escaped.toList then ⟨start, stop, quoted escaped⟩
    else ⟨start, stop, escaped⟩

/-- Replaces an empty value from the end of the name up to what follows. -/
def replaceEmpty (n : Node) (e : Element) (index : Nat) (a : Attribute) (escaped : String) : Edit :=
  match e.attributes[index + 1]? with
  | some next => ⟨a.nameRange.stop.offset, next.nameRange.start.offset, "=" ++ quoted escaped ++ " "⟩
  | none => ⟨a.nameRange.stop.offset, n.delimiterOffset e, "=" ++ quoted escaped⟩

/-- The edit that gives an element the attribute, unless it has it; a bare attribute is empty. -/
def setAttribute (f : Flavor) (o : PlanOptions) (n : Node) (e : Element) (name value : String) :
    Option Edit :=
  let escaped := escape o.escaping value
  match e.findAttribute f name with
  | none => some (.insert (n.delimiterOffset e) (" " ++ name ++ "=" ++ quoted escaped))
  | some (index, a) =>
    if a.value.getD "" = value then none
    else if a.value.isNone then some (.insert a.nameRange.stop.offset ("=" ++ quoted escaped))
    else if a.valueRange.start = a.nameRange.stop then some (replaceEmpty n e index a escaped)
    else some (replaceValue o a escaped)

def clearContent (d : Document) (id : Nat) : Option Edit := do
  let e ← d.element? id
  if e.selfClosing then none
  else
    let first ← (d.children id).head?
    let last ← (d.children id).getLast?
    let start := (← d.nodes[first]?).range.start.offset
    let stop := (d.outerEnd last).offset
    if stop > start then some (.delete start stop) else none

def attributes (o : PlanOptions) (d : Document) (id : Nat) (names : List String) (value : String) :
    List Edit :=
  match d.nodes[id]?, d.element? id with
  | some n, some e => names.filterMap fun name => setAttribute d.flavor o n e name value
  | _, _ => []

/-- The edits for one element: an attribute for each name, and then its content. -/
def element (o : PlanOptions) (d : Document) (id : Nat) (names : List String) (value : String) :
    Except EditError (List Edit) :=
  let boundary := (d.nodes[id]?).elim 0 fun n => n.range.stop.offset
  let edits := attributes o d id names value
  match edits.find? fun edit => edit.stop > boundary with
  | some stray => .error (.crossesStartTag stray.start stray.stop boundary)
  | none =>
    match clearContent d id with
    | none => .ok edits
    | some clear =>
      if clear.start < boundary then .error (.crossesStartTag clear.start clear.stop boundary)
      else .ok (edits ++ [clear])

end Plan
end MarkupSplice
