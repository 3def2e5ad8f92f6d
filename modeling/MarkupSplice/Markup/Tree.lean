import MarkupSplice.Markup.Document

/-!
# Reading documents

The pieces of a text, one after another, grow the forest of its document. An
element stays open until an end tag of its name; that end tag also closes all
that was opened behind it. An end tag without an open element is passed over.
Nothing is refused: what is wrong is noted as an issue, in the order in which
it is met.
-/
namespace MarkupSplice
open Markup

structure OpenElement where
  id : Nat
  name : String
  start : Position
deriving Repr

/-- A forest that is still growing, read up to `place`; `opened` begins with the innermost element. -/
structure Growth where
  flavor : Flavor
  place : Position
  nodes : Array Node
  opened : List OpenElement
  issues : List Issue
deriving Repr

namespace Growth

def attributeOf (f : Flavor) (p : Position) (a : WrittenAttribute) : Attribute :=
  let start := p.advance a.gap
  let stop := start.advance a.name
  { name := f.normalize (String.ofList a.name)
    nameRange := ⟨start, stop⟩
    value := a.assignment.map fun g => String.ofList (unescapeChars g.value.text)
    valueRange :=
      match a.assignment with
      | none => .at stop
      | some g =>
        if g.value.text.isEmpty then .at stop
        else
          let first := stop.advance (g.before ++ '=' :: g.after ++ g.value.quote?.toList)
          ⟨first, first.advance g.value.text⟩
    quote := a.assignment.bind fun g => g.value.quote?
    closed := a.assignment.any fun g => g.value.isClosed }

def attributesOf (f : Flavor) (p : Position) : List WrittenAttribute → List Attribute
  | [] => []
  | a :: rest => attributeOf f p a :: attributesOf f (p.advance a.source) rest

/-- A value that runs to the end of the text is met before the name is compared. -/
def attributeIssues (f : Flavor) (p : Position) (seen : List String) :
    List WrittenAttribute → List Issue
  | [] => []
  | a :: rest =>
    let name := f.normalize (String.ofList a.name)
    let start := p.advance a.gap
    let cut := match a.assignment.map Assignment.value with
      | some (.quoted _ _ false) => [⟨start, .unterminatedValue⟩]
      | _ => []
    let repeated := if seen.contains name then [⟨start, .duplicateAttribute name⟩] else []
    cut ++ repeated ++ attributeIssues f (p.advance a.source) (name :: seen) rest

def parent? (g : Growth) : Option Nat := g.opened.head?.map OpenElement.id

def note (g : Growth) (p : Position) (fault : Fault) : Growth :=
  { g with issues := g.issues ++ [⟨p, fault⟩] }

def noteUnless (ok : Bool) (g : Growth) (fault : Fault) : Growth :=
  if ok then g else g.note g.place fault

def add (g : Growth) (kind : NodeKind) (source : List Char) (parent : Option Nat) : Growth :=
  let stop := g.place.advance source
  { g with
    nodes := g.nodes.push ⟨kind, ⟨g.place, stop⟩, String.ofList source, parent⟩
    place := stop }

def leaf (g : Growth) (kind : NodeKind) (source : List Char) : Growth := g.add kind source g.parent?

def addStartTag (g : Growth) (t : StartTag) : Growth :=
  let name := g.flavor.normalize (String.ofList t.name)
  let first := g.place.advance ('<' :: t.name)
  let g := { g with issues := g.issues ++ attributeIssues g.flavor first [] t.attributes }
  let g := noteUnless (t.closing != .cutOff) g (.unterminatedStartTag name)
  g.leaf (.element ⟨name, attributesOf g.flavor first t.attributes, t.closing, none⟩) t.source

/-- Adds an element, and leaves it open when it can have content. -/
def addElement (g : Growth) (t : StartTag) : Growth :=
  let name := g.flavor.normalize (String.ofList t.name)
  let opened :=
    if t.closing = .bracket ∧ !g.flavor.isVoid name then ⟨g.nodes.size, name, g.place⟩ :: g.opened
    else g.opened
  { g.addStartTag t with opened }

def setEndTag (r : Range) (n : Node) : Node :=
  match n.kind with
  | .element e => { n with kind := .element { e with endTag := some r } }
  | _ => n

def passEndTag (g : Growth) (t : EndTag) : Growth × Range :=
  let g := noteUnless t.closed g (.unterminatedEndTag (g.flavor.normalize (String.ofList t.name)))
  let stop := g.place.advance t.source
  ({ g with place := stop }, ⟨g.place, stop⟩)

def closeNode (g : Growth) (id : Nat) (r : Range) : Growth :=
  { g with nodes := g.nodes.modify id (setEndTag r) }

def addVerbatim (g : Growth) (t : StartTag) (content : List Char) (close : Option EndTag) : Growth :=
  let name := g.flavor.normalize (String.ofList t.name)
  let id := g.nodes.size
  let g := g.addStartTag t
  let start := g.place
  let g := if content.isEmpty then g else g.add .text content (some id)
  match close with
  | none => g.note start (.verbatimNotClosed name)
  | some t =>
    let (g, r) := g.passEndTag t
    g.closeNode id r

/-- Closes the innermost open element of the name, and all that was opened in it. -/
def addEndTag (g : Growth) (t : EndTag) : Growth :=
  let name := g.flavor.normalize (String.ofList t.name)
  let (g, r) := g.passEndTag t
  match g.opened.dropWhile fun o => o.name != name with
  | [] => g.note r.start (.unexpectedEndTag name)
  | o :: rest =>
    let inner := (g.opened.takeWhile fun o => o.name != name).reverse
    let implied :=
      if g.flavor = .xml then inner.map fun i => ⟨r.start, .closedImplicitly i.name name⟩ else []
    { g with opened := rest, issues := g.issues ++ implied }.closeNode o.id r

def grow (g : Growth) (piece : Piece) : Growth :=
  match piece with
  | .text _ => g.leaf .text piece.source
  | .comment _ closed => (noteUnless closed g .unterminatedComment).leaf .comment piece.source
  | .cdata _ closed => (noteUnless closed g .unterminatedCdata).leaf .text piece.source
  | .declaration _ closed => (noteUnless closed g .unterminatedDeclaration).leaf .declaration piece.source
  | .instruction _ closed => (noteUnless closed g .unterminatedDeclaration).leaf .declaration piece.source
  | .startTag t => g.addElement t
  | .verbatim t content close => g.addVerbatim t content close
  | .endTag t => g.addEndTag t

def start (f : Flavor) : Growth := ⟨f, .origin, #[], [], []⟩

/-- The issues of elements still open at the end of the text, outermost first. -/
def unclosed (g : Growth) : List Issue :=
  if g.flavor = .xml then g.opened.reverse.map fun o => ⟨o.start, .notClosed o.name⟩ else []

end Growth

namespace Document

def ofPieces (f : Flavor) (hasMark : Bool) (ps : List Piece) : Document :=
  let g := ps.foldl Growth.grow (Growth.start f)
  ⟨f, hasMark, g.nodes, g.issues ++ g.unclosed⟩

def byteOrderMark : Char := '\ufeff'

def stripMark (s : List Char) : List Char × Bool :=
  match s with
  | c :: r => if c = byteOrderMark then (r, true) else (c :: r, false)
  | [] => ([], false)

def parse (f : Flavor) (text : String) : Document :=
  let (s, hasMark) := stripMark text.toList
  ofPieces f hasMark (pieces f s)

end Document
end MarkupSplice
