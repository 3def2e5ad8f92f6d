import MarkupSplice.Css.Reader
import MarkupSplice.XPath.Evaluation
import MarkupSplice.XPath.Reader
import MarkupSplice.Text.Distance

/-!
# Selecting elements

A selector is written as its type, a colon and its value: `id:` for the first
element with that attribute, `css:` and `xpath:` for all that the query finds.
The empty selector stands for the first script. What is selected comes in
document order.
-/
namespace MarkupSplice
open Text

inductive Selector
  | firstScript
  | id (value : String)
  | css (query : List Css.Complex)
  | xpath (text : String) (query : XPath.Expr)

inductive SelectorError
  | missingType (selector : String)
  | unknownType (kind : String) (suggestion : Option String)
  | invalidCss (query : String) (offset : Nat) (fault : Css.Fault)
  | invalidXPath (query : String) (offset : Nat) (fault : XPath.Fault)
  | evaluation (query : String) (error : XPath.EvalError)
deriving Repr

namespace SelectorError

def located (message : String) (offset : Nat) : String := message ++ " at offset " ++ toString offset

def message : SelectorError → String
  | .missingType s =>
    "selector '" ++ s ++ "' must have the form <type>:<value> with type id, css or xpath"
  | .unknownType kind suggestion =>
    "unknown selector type '" ++ kind ++ "'" ++
      suggestion.elim "" fun name => " (did you mean '" ++ name ++ "'?)"
  | .invalidCss query offset fault =>
    "invalid CSS query '" ++ query ++ "': " ++ located fault.message offset
  | .invalidXPath query offset fault =>
    "invalid XPath expression '" ++ query ++ "': " ++ located fault.message offset
  | .evaluation query error => "XPath expression '" ++ query ++ "' failed: " ++ error.message

end SelectorError

namespace Selector

def typeNames : List String := ["id", "css", "xpath"]

/-- The first of the nearest type names, if it is near enough for a typing error. -/
def suggest (kind : String) : Option String :=
  let near := typeNames.filterMap fun name =>
    let n := distance (kind.map Char.toLower).toList name.toList
    if n ≤ (name.length + 1) / 2 then some (name, n) else none
  near.foldl (fun best (name, n) =>
    match best with
    | some (_, m) => if n < m then some (name, n) else best
    | none => some (name, n)) none |>.map Prod.fst

def parseCss (query : String) : Except SelectorError Selector :=
  match Css.selectors query.toList with
  | .ok list => .ok (.css list)
  | .error ⟨fault, rest⟩ => .error (.invalidCss query (query.utf8ByteSize - byteLength rest) fault)

def parseXPath (query : String) : Except SelectorError Selector :=
  match XPath.parse query with
  | .ok e => .ok (.xpath query e)
  | .error (offset, fault) => .error (.invalidXPath query offset fault)

def parse (s : String) : Except SelectorError Selector :=
  if s.isEmpty then .ok .firstScript
  else
    match cutAt [':'] s.toList with
    | none | some ([], _) => .error (.missingType s)
    | some (kind, value) =>
      let value := String.ofList value
      match String.ofList kind with
      | "id" => .ok (.id value)
      | "css" => parseCss value
      | "xpath" => parseXPath value
      | kind => .error (.unknownType kind (suggest kind))

def select (d : Document) : Selector → Except SelectorError (List Nat)
  | .firstScript => .ok ((d.elementsByTag "script").take 1)
  | .id value => .ok (d.elementById value).toList
  | .css query => .ok (Css.select d query)
  | .xpath text query => (query.select d).mapError (.evaluation text)

end Selector
end MarkupSplice
