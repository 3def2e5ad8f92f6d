import MarkupSplice.Command.Execution

/-!
# The program

Reads what a command has to know of the files into a file tree, executes the
command on it, and writes the files back that have come out different. Links
are taken to lead straight to where they end.
-/
namespace MarkupSplice.Program

structure Snapshot where
  tree : FileTree
  complete : List Place

def textOf (place : Place) : String := "/" ++ "/".intercalate place

def nowhere : String := "/\x00"

def entryAt (place : Place) : IO (Option Entry) := do
  let path := (← IO.currentDir) / textOf place
  try
    match (← path.symlinkMetadata).type with
    | .dir => return some .directory
    | .file => return some (.file (← IO.FS.readBinFile path).toList)
    | .symlink =>
      let target ← try pure (← IO.FS.realPath path).toString catch _ => pure nowhere
      return some (.link ⟨target⟩)
    | .other => return none
  catch _ => return none

def Snapshot.add (s : Snapshot) (place : Place) (e : Entry) : Snapshot :=
  if (s.tree.get? place).isSome then s
  else { s with tree := { s.tree with entries := (place, e) :: s.tree.entries } }

/-- Adds what some steps lead through, and says where they end. -/
partial def approach (s : Snapshot) (place : Place) (names : List String) :
    IO (Snapshot × Option Place) := do
  match names with
  | [] => return (s, some place)
  | "." :: rest => approach s place rest
  | ".." :: rest => approach s place.dropLast rest
  | name :: rest =>
    match ← entryAt (place ++ [name]) with
    | none => return (s, none)
    | some (.link target) =>
      approach (s.add (place ++ [name]) (.link target)) [] (FileTree.steps target ++ rest)
    | some e => approach (s.add (place ++ [name]) e) (place ++ [name]) rest

partial def gather (s : Snapshot) (place : Place) : IO Snapshot := do
  if s.complete.any (·.isPrefixOf place) then return s
  descend { s with complete := place :: s.complete } place
where
  descend (s : Snapshot) (place : Place) : IO Snapshot := do
    let mut s := s
    for entry in ← ((← IO.currentDir) / textOf place).readDir do
      let below := place ++ [entry.fileName]
      match ← entryAt below with
      | none => pure ()
      | some e =>
        s := s.add below e
        match e with
        | .directory => s ← descend s below
        | .link target => s ← enter s [] (FileTree.steps target)
        | .file _ => pure ()
    return s
  enter (s : Snapshot) (place : Place) (names : List String) : IO Snapshot := do
    match ← approach s place names with
    | (s, some found) => if s.tree.isDirectoryAt found then gather s found else return s
    | (s, none) => return s

/-- All that the command may look at. -/
def snapshot (args : List String) : IO Snapshot := do
  let place := FileTree.steps ⟨(← IO.currentDir).toString⟩
  let (start, _) ← approach ⟨⟨[], place⟩, []⟩ [] place
  match Command.parseArguments args with
  | .error _ => return start
  | .ok request =>
    let follow (s : Snapshot) (p : Path) : IO (Snapshot × Option Place) :=
      approach s (FileTree.start p place) (FileTree.steps p)
    let (s, _) ← follow start request.config
    (request.directories s.tree).foldlM (fun s dir => do
      match ← follow s dir with
      | (s, some found) => if s.tree.isDirectoryAt found then gather s found else return s
      | (s, none) => return s) s

/-- Writes a file under another name first, so that it is replaced at once. -/
def replace (place : Place) (content : Text.Bytes) : IO Unit := do
  let path := textOf place
  IO.FS.writeBinFile (path ++ ".new") ⟨content.toArray⟩
  IO.FS.rename (path ++ ".new") path

def writeBack (before after : FileTree) : IO Unit :=
  after.entries.forM fun (place, e) => do
    match e with
    | .file content => unless before.get? place == some e do replace place content
    | _ => pure ()

end MarkupSplice.Program

open MarkupSplice in
def main (args : List String) : IO UInt32 := do
  let s ← Program.snapshot args
  let result := Command.execute args s.tree
  Program.writeBack s.tree result.tree
  IO.print result.output
  IO.eprint result.errors
  return result.exitCode.toUInt32
