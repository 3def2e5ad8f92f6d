import MarkupSplice.Path.Basic

/-!
# Arguments of the command line

What the arguments ask for. Options stand in any order among the scripts, short
ones also in groups, a value in the same argument or the next one; after `--`
all is a script. An option that is given twice, or together with one that rules
it out, is a misuse, and so is an empty path.
-/
namespace MarkupSplice.Command

inductive Action
  | update (dryRun : Bool)
  | check
deriving DecidableEq, Repr

structure Request where
  action : Action
  verbose : Bool
  config : Path
  baseDir : Option Path
  differences : Bool
  json : Bool
  scripts : List Path
deriving DecidableEq, Repr

inductive Stop
  | version
  | help
  | misuse
deriving DecidableEq, Repr

inductive OptionName
  | verbose
  | help
  | version
  | config
  | baseDir
  | differences
  | json
  | dryRun
deriving DecidableEq, Repr

namespace OptionName

def ofLong? : String → Option OptionName
  | "verbose" => some .verbose
  | "help" => some .help
  | "version" => some .version
  | "config" => some .config
  | "base-dir" => some .baseDir
  | "diff" => some .differences
  | "json" => some .json
  | "dry-run" => some .dryRun
  | _ => none

def ofShort? : Char → Option OptionName
  | 'v' => some .verbose
  | 'h' => some .help
  | 'V' => some .version
  | 'c' => some .config
  | 'b' => some .baseDir
  | 'd' => some .differences
  | 'n' => some .dryRun
  | _ => none

def takesValue (n : OptionName) : Bool := n == .config || n == .baseDir

def common : List OptionName := [.verbose, .help]

def ofProgram : List OptionName := .version :: common

def ofCheck : List OptionName := [.config, .baseDir, .differences, .json] ++ common

def ofUpdate : List OptionName := .dryRun :: ofCheck

end OptionName

/-- What arguments have said so far, each option with its value. -/
structure Given where
  allowed : List OptionName
  options : List (OptionName × String)
  scripts : List String
deriving DecidableEq, Repr

namespace Given

def has (g : Given) (n : OptionName) : Bool := (g.options.lookup n).isSome

def set (g : Given) (n : OptionName) (value : String) : Except Stop Given :=
  if !g.allowed.contains n || g.has n then .error .misuse
  else if n = .help then .error .help
  else if n = .version then .error .version
  else if n.takesValue && value.isEmpty then .error .misuse
  else .ok { g with options := g.options ++ [(n, value)] }

def script (g : Given) (s : String) : Except Stop Given :=
  if s.isEmpty then .error .misuse else .ok { g with scripts := g.scripts ++ [s] }

/-- A group of short options; the name is that of an option whose value is still to come. -/
def group (g : Given) : List Char → Except Stop (Given × Option OptionName)
  | [] => .ok (g, none)
  | c :: cs =>
    match OptionName.ofShort? c with
    | none => .error .misuse
    | some n =>
      if !g.allowed.contains n then .error .misuse
      else if n.takesValue then
        match cs with
        | [] => .ok (g, some n)
        | '=' :: cs => do return (← g.set n (String.ofList cs), none)
        | cs => do return (← g.set n (String.ofList cs), none)
      else do group (← g.set n "") cs

def long (g : Given) (s : List Char) : Except Stop (Given × Option OptionName) :=
  let name := s.takeWhile (· ≠ '=')
  match OptionName.ofLong? (String.ofList name), s.drop name.length with
  | none, _ => .error .misuse
  | some n, [] =>
    if n.takesValue then if g.allowed.contains n then .ok (g, some n) else .error .misuse
    else do return (← g.set n "", none)
  | some n, _ :: value =>
    if n.takesValue then do return (← g.set n (String.ofList value), none) else .error .misuse

def option? (g : Given) (s : String) : Option (Except Stop (Given × Option OptionName)) :=
  match s.toList with
  | '-' :: '-' :: cs => some (g.long cs)
  | '-' :: c :: cs => some (g.group (c :: cs))
  | _ => none

def read (g : Given) : List String → Except Stop Given
  | [] => .ok g
  | arg :: args =>
    if arg = "--" then args.foldlM script g
    else
      match g.option? arg with
      | none => do read (← g.script arg) args
      | some (.error e) => .error e
      | some (.ok (g, none)) => read g args
      | some (.ok (g, some n)) =>
        match args with
        | [] => .error .misuse
        | value :: args =>
          if (g.option? value).isSome then .error .misuse else do read (← g.set n value) args

def request (g : Given) (action : Action) (verbose : Bool) : Except Stop Request :=
  match g.options.lookup .config with
  | none => .error .misuse
  | some config =>
    if g.scripts.isEmpty || (g.has .json && g.has .differences) then .error .misuse
    else .ok {
      action := action
      verbose := verbose || g.has .verbose
      config := ⟨config⟩
      baseDir := (g.options.lookup .baseDir).map (⟨·⟩)
      differences := g.has .differences
      json := g.has .json
      scripts := g.scripts.map (⟨·⟩) }

end Given

def subcommands : List String := ["update", "check", "help"]

def parse (g : Given) : List String → Except Stop Request
  | [] => .error .misuse
  | arg :: args =>
    if arg = "update" then do
      let s ← Given.read ⟨OptionName.ofUpdate, [], []⟩ args
      s.request (.update (s.has .dryRun)) (g.has .verbose)
    else if arg = "check" then do
      (← Given.read ⟨OptionName.ofCheck, [], []⟩ args).request .check (g.has .verbose)
    else if arg = "help" then
      .error (if args.all subcommands.contains then .help else .misuse)
    else
      match g.option? arg with
      | some (.ok (g, none)) => parse g args
      | some (.error e) => .error e
      | _ => .error .misuse

def parseArguments (args : List String) : Except Stop Request := parse ⟨OptionName.ofProgram, [], []⟩ args

end MarkupSplice.Command
