import MarkupSplice.Charset.Codec
import MarkupSplice.FileSet
import MarkupSplice.Layout
import MarkupSplice.Plan

/-!
# Update rules

A rule says which documents refer to scripts, by which elements and attributes,
and how the references come about. What a rule leaves open, the defaults that
all rules share may say; a blank text says nothing. `Config.issues` lists what
is wrong with a configuration apart from its form.
-/
namespace MarkupSplice

structure Defaults where
  dir : Option String
  root : Option String
  scriptRoot : Option String
  template : Option String
  physical : Option Bool
  quotes : QuoteStyle
deriving DecidableEq, Repr, Inhabited

structure Rule where
  dir : Option String
  files : FileSet
  selector : String
  attributes : List String
  template : Option String
  root : Option String
  scriptRoot : Option String
  physical : Option Bool
  encoding : Option String
deriving DecidableEq, Repr, Inhabited

structure Config where
  defaults : Defaults
  rules : List Rule
deriving DecidableEq, Repr, Inhabited

def saidText (o : Option String) : Option String := o.filter fun s => !Path.isBlankText s

namespace Rule

def defaultAttribute : String := "src"

def attributeNames (r : Rule) : List String :=
  if r.attributes.isEmpty then [defaultAttribute] else r.attributes

def charset (r : Rule) : Charset := (r.encoding.bind Charset.ofLabel?).getD .utf8

def directory (r : Rule) (defaults : Defaults) (base : Path) : Path :=
  base.joinAll (defaults.dir.toList ++ r.dir.toList)

/-- How documents refer to scripts; roots that nothing is said about are the base directory. -/
def layout (r : Rule) (defaults : Defaults) (base : Path) : Layout where
  template := (saidText r.template).or (saidText defaults.template)
  root := base.joinAll ((saidText r.root).or (saidText defaults.root)).toList
  scriptRoot := base.joinAll ((saidText r.scriptRoot).or (saidText defaults.scriptRoot)).toList
  physical := (r.physical.or defaults.physical).getD false

end Rule

/-- Rules are numbered from zero. -/
inductive ConfigIssue
  | noRules
  | emptyAttribute (rule : Nat)
  | unknownEncoding (rule : Nat) (label : String)
  | invalidPattern (rule : Nat) (pattern : String) (fault : Glob.Fault)
deriving DecidableEq, Repr

def ConfigIssue.message : ConfigIssue → String
  | .noRules => "update config contains no [[updates]]"
  | .emptyAttribute n => "update #" ++ toString n ++ " lists an empty attribute name"
  | .unknownEncoding n label =>
    "update #" ++ toString n ++ " uses unsupported encoding '" ++ label ++
      "' (expected a WHATWG encoding label such as UTF-8, UTF-16LE or ISO-8859-1)"
  | .invalidPattern n pattern fault =>
    "update #" ++ toString n ++ " has invalid pattern '" ++ pattern ++ "': " ++ fault.message

namespace Rule

def attributeIssues (r : Rule) (n : Nat) : List ConfigIssue :=
  if r.attributes.any Path.isBlankText then [.emptyAttribute n] else []

def encodingIssues (r : Rule) (n : Nat) : List ConfigIssue :=
  r.encoding.toList.filterMap fun label =>
    if (Charset.ofLabel? label).isNone then some (.unknownEncoding n label) else none

def patternIssues (r : Rule) (n : Nat) : List ConfigIssue :=
  (r.files.patterns ++ r.files.excludes).filterMap fun pattern =>
    match Glob.pieces pattern with
    | .ok _ => none
    | .error fault => some (.invalidPattern n pattern fault)

def issues (r : Rule) (n : Nat) : List ConfigIssue :=
  r.attributeIssues n ++ r.encodingIssues n ++ r.patternIssues n

end Rule

def Config.issues (c : Config) : List ConfigIssue :=
  (if c.rules.isEmpty then [.noRules] else []) ++
    c.rules.zipIdx.flatMap fun (r, n) => r.issues n

end MarkupSplice
