import MarkupSplice.Config.Basic
import MarkupSplice.Discovery
import MarkupSplice.Markup.Tree
import MarkupSplice.Selector
import MarkupSplice.Update.Report

/-!
# Revising a document

What a rule makes of one document, from its bytes alone: it is decoded, parsed
and searched for elements, and the edits that point each of them at the scripts
are applied. An element can refer to one script only, so all scripts have to
come out as the same reference (`references`); no others are edited then.
-/
namespace MarkupSplice
open Text

inductive UpdateError
  | read (path : Path) (error : FileError)
  | decode (path : Path) (error : Charset.CharsetError)
  | scan (dir : Path) (error : ScanError)
  | edits (path : Path) (error : EditError)
  | ambiguous (path : Path) (element first second : String)
  | write (path : Path) (error : FileError)
deriving DecidableEq, Repr

def UpdateError.message : UpdateError → String
  | .read p e => "failed to read " ++ p.text ++ ": " ++ e.message
  | .decode p e => "failed to decode " ++ p.text ++ ": " ++ e.message
  | .scan p e => "failed to scan " ++ p.text ++ ": " ++ e.message
  | .edits p e => "conflicting edits in " ++ p.text ++ ": " ++ e.message
  | .ambiguous p element first second =>
    "<" ++ element ++ "> in " ++ p.text ++ " would reference both " ++ first ++ " and " ++ second
  | .write p e => "failed to write " ++ p.text ++ ": File I/O error: " ++ e.message

structure Task where
  selectorText : String
  selector : Except SelectorError Selector
  attributes : List String
  layout : Layout
  quotes : QuoteStyle
  charset : Charset

def Rule.task (r : Rule) (defaults : Defaults) (base : Path) : Task where
  selectorText := r.selector
  selector := Selector.parse r.selector
  attributes := r.attributeNames
  layout := r.layout defaults base
  quotes := defaults.quotes
  charset := r.charset

/-- What there is to say, and either edits or the error that stands in their way and where. -/
structure Planned where
  diagnostics : List Diagnostic
  edits : Except (UpdateError × Position) (List Edit)

def startOf (d : Document) (id : Nat) : Position := (d.nodes[id]?).elim .origin fun n => n.range.start

def nameOf (d : Document) (id : Nat) : String := (d.element? id).elim "" fun e => e.name

namespace Task

def options (t : Task) (d : Document) : PlanOptions := ⟨d.flavor, t.quotes⟩

/-- The edits that point the elements at one reference, up to the first element that has none. -/
def pointAll (t : Task) (d : Document) (path : Path) (value : String) : List Nat → Planned
  | [] => ⟨[], .ok []⟩
  | id :: ids =>
    let note : Diagnostic := .located .debug path (startOf d id)
      ("updating <" ++ nameOf d id ++ "> to " ++ value)
    match Plan.element (t.options d) d id t.attributes value with
    | .error e => ⟨[note], .error (.edits path e, startOf d id)⟩
    | .ok es =>
      let rest := t.pointAll d path value ids
      ⟨note :: rest.diagnostics, rest.edits.map (es ++ ·)⟩

def references (t : Task) (path : Path) (scripts : List Path) : List String :=
  scripts.map (t.layout.reference path)

/-- The edits for some elements, of which there is at least one. -/
def planElements (t : Task) (d : Document) (path : Path) (scripts : List Path) (ids : List Nat) :
    Planned :=
  match t.references path scripts with
  | [] => ⟨[], .ok []⟩
  | value :: others =>
    let planned := t.pointAll d path value ids
    match planned.edits, others.find? (· ≠ value), ids with
    | .ok _, some other, id :: _ =>
      ⟨planned.diagnostics, .error (.ambiguous path (nameOf d id) value other, startOf d id)⟩
    | _, _, _ => planned

def plan (t : Task) (d : Document) (path : Path) (scripts : List Path) : Planned :=
  let found := t.selector >>= Selector.select d
  let complaint : List Diagnostic := match found with
    | .ok _ => []
    | .error e => [.general .warning path ("invalid selector: " ++ e.message)]
  match found.toOption.getD [] with
  | [] =>
    ⟨complaint ++ [.general .warning path
      ("did not find any script elements to update via selector <" ++ t.selectorText ++ ">")], .ok []⟩
  | ids => t.planElements d path scripts ids

end Task

inductive Revision
  | skip (error : UpdateError)
  | fail (diagnostics : List Diagnostic)
  | keep (diagnostics : List Diagnostic)
  | change (diagnostics : List Diagnostic) (change : Change)
deriving DecidableEq, Repr

namespace Task

def parseDiagnostics (d : Document) (path : Path) : List Diagnostic :=
  d.issues.map fun i => .located .error path i.position ("parse error: " ++ i.fault.message)

def reviseText (t : Task) (path : Path) (scripts : List Path) (text : String) : Revision :=
  let d := Document.parse (Flavor.ofPath path) text
  let planned := t.plan d path scripts
  let said := parseDiagnostics d path ++ planned.diagnostics
  match planned.edits with
  | .error (e, position) => .fail (said ++ [.located .error path position e.message])
  | .ok edits =>
    match applyEdits text (Edit.shiftPastMark text.toList edits) with
    | .error e => .fail (said ++ [.general .error path (UpdateError.edits path e).message])
    | .ok after => if after = text then .keep said else .change said ⟨text, after⟩

def revise (t : Task) (path : Path) (scripts : List Path) (content : Except FileError Bytes) :
    Revision :=
  match content with
  | .error e => .skip (.read path e)
  | .ok bytes =>
    match t.charset.decode bytes with
    | .error e => .skip (.decode path e)
    | .ok text => t.reviseText path scripts text

end Task
end MarkupSplice
