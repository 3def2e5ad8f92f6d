/-!
# TOML documents

The values of a document, and how its lines build its tables. A table comes
about in four ways, and in which of them decides what later lines may add to
it: a table that only led to another one can still get a header of its own,
dotted keys add to what dotted keys have made, and an inline table is
complete. No key is set twice. Numbers and dates are kept without their values.
-/
namespace MarkupSplice.Toml

inductive Origin
  | implied
  | dotted
  | header
  | inline
deriving DecidableEq, Repr

/-- The tables of an array of tables are kept with the last one apart, as lines add to it. -/
inductive Value
  | text (s : String)
  | flag (b : Bool)
  | number
  | moment
  | array (items : List Value)
  | table (origin : Origin) (entries : List (String × Value))
  | tables (earlier : List (List (String × Value))) (last : List (String × Value))
deriving Repr, Inhabited

abbrev Table := List (String × Value)

namespace Table

def get? (t : Table) (key : String) : Option Value := t.lookup key

def add? (t : Table) (key : String) (v : Value) : Option Table :=
  if (t.get? key).isSome then none else some (t ++ [(key, v)])

def replace (t : Table) (key : String) (v : Value) : Table :=
  t.map fun (k, w) => if k = key then (k, v) else (k, w)

def set? (t : Table) (key : String) (keys : List String) (v : Value) : Option Table :=
  match keys with
  | [] => t.add? key v
  | key' :: keys =>
    match t.get? key with
    | none => do return t ++ [(key, .table .dotted (← set? [] key' keys v))]
    | some (.table .dotted below) => do return t.replace key (.table .dotted (← set? below key' keys v))
    | some (.table .implied below) =>
      if keys.isEmpty then none
      else do return t.replace key (.table .implied (← set? below key' keys v))
    | _ => none

/-- Changes the table that the keys lead to; tables that are not there yet are implied. -/
def change? (t : Table) (keys : List String) (f : Table → Option Table) : Option Table :=
  match keys with
  | [] => f t
  | key :: keys =>
    match t.get? key with
    | none => do return t ++ [(key, .table .implied (← change? [] keys f))]
    | some (.table .inline _) => none
    | some (.table origin below) => do return t.replace key (.table origin (← change? below keys f))
    | some (.tables earlier last) => do return t.replace key (.tables earlier (← change? last keys f))
    | _ => none

/-- What the header of a table does to the table around it. -/
def openTable? (key : String) (t : Table) : Option Table :=
  match t.get? key with
  | none => some (t ++ [(key, .table .header [])])
  | some (.table .implied below) => some (t.replace key (.table .header below))
  | _ => none

/-- What the header of one more table of an array does to the table around it. -/
def openElement? (key : String) (t : Table) : Option Table :=
  match t.get? key with
  | none => some (t ++ [(key, .tables [] [])])
  | some (.tables earlier last) => some (t.replace key (.tables (earlier ++ [last]) []))
  | _ => none

end Table

inductive Line
  | table (keys : List String) (key : String)
  | element (keys : List String) (key : String)
  | entry (key : String) (keys : List String) (v : Value)
deriving Repr

structure Growth where
  root : Table
  current : List String
deriving Repr

def Growth.step? (g : Growth) : Line → Option Growth
  | .table keys key => do
    return ⟨← g.root.change? keys (Table.openTable? key), keys ++ [key]⟩
  | .element keys key => do
    return ⟨← g.root.change? keys (Table.openElement? key), keys ++ [key]⟩
  | .entry key keys v => do
    return { g with root := ← g.root.change? g.current fun t => t.set? key keys v }

def Table.ofLines? (lines : List Line) : Option Table := do
  return (← lines.foldlM Growth.step? ⟨[], []⟩).root

end MarkupSplice.Toml
