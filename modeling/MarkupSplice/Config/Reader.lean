import MarkupSplice.Config.Basic
import MarkupSplice.FileTree.Basic
import MarkupSplice.Toml.Reader

/-!
# Reading configurations

A configuration is a TOML document. Its records are tables, or arrays of their
members in order; keys that no record has are skipped, members that are not
there have defaults, and a member of a wrong kind is an error.
-/
namespace MarkupSplice

namespace Toml

inductive Members
  | named (t : Table)
  | listed (vs : List Value)

def Members.get? (m : Members) (name : String) (index : Nat) : Option Value :=
  match m with
  | .named t => t.get? name
  | .listed vs => vs[index]?

namespace Value

def list? : Value → Option (List Value)
  | .array vs => some vs
  | .tables earlier last => some ((earlier ++ [last]).map (.table .header ·))
  | _ => none

/-- A date is a record without any of the members that are asked for. -/
def members? : Value → Option Members
  | .table _ t => some (.named t)
  | .moment => some (.named [])
  | v => v.list?.map .listed

def text? : Value → Option String
  | .text s => some s
  | _ => none

def flag? : Value → Option Bool
  | .flag b => some b
  | _ => none

def listOf? {α : Type} (read? : Value → Option α) (v : Value) : Option (List α) :=
  v.list?.bind (·.mapM read?)

def isEmpty (v : Value) : Bool :=
  match v with
  | .array vs => vs.isEmpty
  | .table _ t => t.isEmpty
  | _ => false

/-- A word, or a table with the word as its only key and nothing in it. -/
def word? : Value → Option String
  | .text s => some s
  | .table _ [(key, v)] => if v.isEmpty then some key else none
  | _ => none

end Value

namespace Members

def optional? {α : Type} (m : Members) (name : String) (index : Nat) (read? : Value → Option α) :
    Option (Option α) :=
  match m.get? name index with
  | none => some none
  | some v => (read? v).map some

def orElse? {α : Type} (m : Members) (name : String) (index : Nat) (read? : Value → Option α)
    (missing : α) : Option α :=
  (m.optional? name index read?).map (·.getD missing)

end Members
end Toml

open Toml

def QuoteStyle.ofValue? (v : Value) : Option QuoteStyle :=
  match v.word? with
  | some "preserve" => some .preserve
  | some "double" => some .double
  | _ => none

def FileSet.ofValue? (v : Value) : Option FileSet := do
  let m ← v.members?
  return {
    includes := ← m.orElse? "includes" 0 (·.listOf? Value.text?) []
    excludes := ← m.orElse? "excludes" 1 (·.listOf? Value.text?) [] }

def Defaults.ofValue? (v : Value) : Option Defaults := do
  let m ← v.members?
  return {
    dir := ← m.optional? "dir" 0 Value.text?
    root := ← m.optional? "root" 1 Value.text?
    scriptRoot := ← m.optional? "script_root" 2 Value.text?
    template := ← m.optional? "source_path" 3 Value.text?
    physical := ← m.optional? "use_physical_root" 4 Value.flag?
    quotes := ← m.orElse? "quote_style" 5 QuoteStyle.ofValue? .preserve }

def Rule.ofValue? (v : Value) : Option Rule := do
  let m ← v.members?
  return {
    dir := ← m.optional? "dir" 0 Value.text?
    files := ← m.orElse? "files" 1 FileSet.ofValue? ⟨[], []⟩
    selector := ← m.orElse? "scripts" 2 Value.text? ""
    attributes := ← m.orElse? "attributes" 3 (·.listOf? Value.text?) []
    template := ← m.optional? "source_path" 4 Value.text?
    root := ← m.optional? "root" 5 Value.text?
    scriptRoot := ← m.optional? "script_root" 6 Value.text?
    physical := ← m.optional? "use_physical_root" 7 Value.flag?
    encoding := ← m.optional? "encoding" 8 Value.text? }

def Config.ofTable? (t : Table) : Option Config := do
  let m := Members.named t
  return {
    defaults := ← m.orElse? "html" 0 Defaults.ofValue? default
    rules := ← m.orElse? "updates" 1 (·.listOf? Rule.ofValue?) [] }

inductive ConfigError
  | unreadable (path : Path) (error : FileError)
  | malformed (path : Option Path)
  | invalid (path : Option Path) (issues : List ConfigIssue)
deriving DecidableEq, Repr

namespace ConfigError

def issuesText (issues : List ConfigIssue) : String :=
  "\n".intercalate (issues.map ConfigIssue.message)

def inFile (path : Option Path) : String := path.elim "" fun p => " (" ++ p.text ++ ")"

def cause : ConfigError → String
  | .unreadable _ e => e.message
  | .malformed _ => "not a TOML document of the expected form"
  | .invalid _ issues => issuesText issues

def message (e : ConfigError) : String :=
  match e with
  | .unreadable p _ => "failed to read update config from " ++ p.text ++ ": " ++ e.cause
  | .malformed p => "failed to parse update config TOML" ++ inFile p ++ ": " ++ e.cause
  | .invalid p _ => "invalid update config" ++ inFile p ++ ": " ++ e.cause

end ConfigError

namespace Config

def readFrom (path : Option Path) (text : String) : Except ConfigError Config :=
  match (Toml.read? text).bind ofTable? with
  | none => .error (.malformed path)
  | some c => if c.issues.isEmpty then .ok c else .error (.invalid path c.issues)

def read (text : String) : Except ConfigError Config := readFrom none text

def load (t : FileTree) (p : Path) : Except ConfigError Config :=
  match t.readFile p with
  | .error e => .error (.unreadable p e)
  | .ok bytes =>
    match Charset.utf8.decode bytes with
    | .error _ => .error (.unreadable p .notText)
    | .ok text => readFrom (some p) text

end Config
end MarkupSplice
