/-!
# JSON

Values as they are written for other programs to read: members in the order
given, two spaces for each level, and in strings escapes for what cannot stand
in them. Empty lists and records take no line of their own.
-/
namespace MarkupSplice.Json

inductive Value
  | null
  | number (n : Nat)
  | text (s : String)
  | list (items : List Value)
  | record (members : List (String × Value))
deriving Repr, Inhabited

def hexText (n : Nat) : List Char := [Nat.digitChar (n / 16), Nat.digitChar (n % 16)]

def escapeChar (c : Char) : List Char :=
  if c = '"' ∨ c = '\\' then ['\\', c]
  else if c = '\x08' then ['\\', 'b']
  else if c = '\x0c' then ['\\', 'f']
  else if c = '\n' then ['\\', 'n']
  else if c = '\r' then ['\\', 'r']
  else if c = '\t' then ['\\', 't']
  else if c.toNat < 0x20 then ['\\', 'u', '0', '0'] ++ hexText c.toNat
  else [c]

def quoted (s : String) : String := String.ofList ('"' :: s.toList.flatMap escapeChar ++ ['"'])

def indent (depth : Nat) : String := String.ofList (List.replicate (2 * depth) ' ')

def enclosed (opening closing : String) (depth : Nat) (items : List String) : String :=
  if items.isEmpty then opening ++ closing
  else
    opening ++ ",".intercalate (items.map fun s => "\n" ++ indent (depth + 1) ++ s) ++
      "\n" ++ indent depth ++ closing

mutual

def Value.pretty (depth : Nat) : Value → String
  | .null => "null"
  | .number n => toString n
  | .text s => quoted s
  | .list items => enclosed "[" "]" depth (prettyItems (depth + 1) items)
  | .record members => enclosed "\x7b" "\x7d" depth (prettyMembers (depth + 1) members)

def prettyItems (depth : Nat) : List Value → List String
  | [] => []
  | v :: vs => v.pretty depth :: prettyItems depth vs

def prettyMembers (depth : Nat) : List (String × Value) → List String
  | [] => []
  | (key, v) :: ms => (quoted key ++ ": " ++ v.pretty depth) :: prettyMembers depth ms

end

def Value.toText (v : Value) : String := v.pretty 0

end MarkupSplice.Json
