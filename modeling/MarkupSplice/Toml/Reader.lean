import MarkupSplice.Text.Shorter
import MarkupSplice.Toml.Scalar

/-!
# Reading TOML

A reader takes something off the front of a text and answers with the shorter
rest. Lines may be blank or end in a comment; between the elements of arrays
and inline tables stand blank lines and comments too. Arrays and inline tables
nest at most 80 levels deep, and a dotted key has at most 80 parts.
-/
namespace MarkupSplice.Toml
open Text

abbrev Reader (α : Type) := (s : List Char) → Option (α × Shorter s)

def maxNesting : Nat := 80

def isSpace (c : Char) : Bool := c == ' ' || c == '\t'

def isPrinted (c : Char) : Bool := c == '\t' || (c.toNat ≥ 0x20 && c.toNat != 0x7F)

def skipSpace (s : List Char) : NoLonger s := .dropWhile isSpace s

/-- Skips space and the ends of lines, and comments where they may stand. -/
def skipBlank (comments : Bool) (s : List Char) : NoLonger s :=
  match s with
  | '\r' :: '\n' :: r => (skipBlank comments r).behind _ |>.behind _ |>.noLonger
  | c :: r =>
    if isSpace c || c == '\n' then (skipBlank comments r).behind c |>.noLonger
    else if comments && c == '#' then
      let ⟨r', h⟩ := (NoLonger.dropWhile isPrinted r).behind c
      (Shorter.noLonger ⟨r', h⟩).trans (skipBlank comments r')
    else .all _
  | [] => .all _
termination_by s.length
decreasing_by
  · exact Nat.lt_succ_of_le (Nat.le_succ _)
  · exact Nat.lt_succ_self _
  · exact h

def skipComment (s : List Char) : NoLonger s :=
  match s with
  | '#' :: r => (NoLonger.dropWhile isPrinted r).behind _ |>.noLonger
  | r => .all r

def skipBreak? (s : List Char) : Option (NoLonger s) :=
  match s with
  | [] => some (.all _)
  | '\n' :: _ => some (.drop 1 _)
  | '\r' :: '\n' :: _ => some (.drop 2 _)
  | _ => none

def endOfLine? (s : List Char) : Option (NoLonger s) :=
  let r := (skipSpace s).trans (skipComment _)
  (skipBreak? r.val).map r.trans

def hexChar? (count : Nat) : Reader Char := fun s =>
  if h : 0 < count ∧ count ≤ s.length then do
    let n ← number? hexDigit? 16 (s.take count)
    if n.isValidChar then
      return (Char.ofNat n, ⟨s.drop count, by simp only [List.length_drop]; omega⟩)
    else none
  else none

def escaped? : Reader Char
  | [] => none
  | c :: r =>
    let one (c' : Char) : Option (Char × Shorter (c :: r)) := some (c', .tail c r)
    let coded (count : Nat) : Option (Char × Shorter (c :: r)) := do
      let (c', r') ← hexChar? count r
      return (c', r'.behind c)
    match c with
    | 'b' => one '\x08'
    | 't' => one '\t'
    | 'n' => one '\n'
    | 'f' => one '\x0c'
    | 'r' => one '\r'
    | 'e' => one '\x1b'
    | '"' => one '"'
    | '\\' => one '\\'
    | 'x' => coded 2
    | 'u' => coded 4
    | 'U' => coded 8
    | _ => none

def lineChars? (escapes : Bool) (quote : Char) (s : List Char) : Option (List Char × Shorter s) :=
  match s with
  | [] => none
  | c :: r =>
    if c = quote then some ([], .tail c r)
    else if escapes && c == '\\' then do
      let (c', ⟨r', h⟩) ← escaped? r
      let (text, rest) ← lineChars? escapes quote r'
      return (c' :: text, (Shorter.next ⟨r', h⟩ rest).behind c)
    else if isPrinted c then do
      let (text, rest) ← lineChars? escapes quote r
      return (c :: text, rest.behind c)
    else none
termination_by s.length
decreasing_by
  · exact length_lt_cons_of_lt c h
  · exact Nat.lt_succ_self _

def startsWithBreak (s : List Char) : Bool :=
  s.head? == some '\n' || (s.head? == some '\r' && s.tail.head? == some '\n')

/-- Skips the white space in front of the next line's text; there has to be an end of line. -/
def joinedLine? (s : List Char) : Option (NoLonger s) :=
  let r := skipSpace s
  if startsWithBreak r.val then some (r.trans (skipBlank false r.val)) else none

/-- Three quotes close a block; of up to five in a row the first ones are text. -/
def closing? (quote : Char) (s : List Char) : Option (List Char × Shorter s) :=
  match s with
  | a :: b :: c :: r =>
    if a = quote ∧ b = quote ∧ c = quote then
      let more := ((r.take 2).takeWhile (· == quote)).length
      some (List.replicate more quote, (NoLonger.drop (2 + more) (b :: c :: r)).behind a)
    else none
  | _ => none

def blockChars? (escapes : Bool) (quote : Char) (s : List Char) : Option (List Char × Shorter s) :=
  match closing? quote s with
  | some closed => some closed
  | none =>
    match s with
    | [] => none
    | c :: r =>
      if escapes && c == '\\' then
        match joinedLine? r with
        | some ⟨r', h⟩ => do
          let (text, rest) ← blockChars? escapes quote r'
          return (text, (NoLonger.next ⟨r', h⟩ rest).behind c)
        | none => do
          let (c', ⟨r', h⟩) ← escaped? r
          let (text, rest) ← blockChars? escapes quote r'
          return (c' :: text, (Shorter.next ⟨r', h⟩ rest).behind c)
      else if isPrinted c || startsWithBreak (c :: r) then do
        let (text, rest) ← blockChars? escapes quote r
        return (c :: text, rest.behind c)
      else none
termination_by s.length
decreasing_by
  · exact length_lt_cons_of_le c h
  · exact length_lt_cons_of_lt c h
  · exact Nat.lt_succ_self _

/-- A line break right behind the opening quotes is not text. -/
def skipFirstBreak (s : List Char) : NoLonger s :=
  match s with
  | '\n' :: _ => .drop 1 _
  | '\r' :: '\n' :: _ => .drop 2 _
  | r => .all r

def isQuote (c : Char) : Bool := c == '"' || c == '\''

/-- A string on one line; only double quotes know escapes. -/
def lineText? : Reader String
  | [] => none
  | c :: r =>
    if isQuote c then do
      let (text, rest) ← lineChars? (c == '"') c r
      return (String.ofList text, rest.behind c)
    else none

def text? : Reader String := fun s =>
  match s with
  | a :: b :: c :: r =>
    if isQuote a ∧ a = b ∧ b = c then do
      let first := skipFirstBreak r
      let (text, rest) ← blockChars? (a == '"') a first.val
      return (String.ofList text, (first.next rest).behind c |>.behind b |>.behind a)
    else lineText? (a :: b :: c :: r)
  | s => lineText? s

def char? (c : Char) (s : List Char) : Option (Shorter s) :=
  match s with
  | [] => none
  | c' :: r => if c' = c then some (.tail c' r) else none

def isBareChar (c : Char) : Bool := c.isAlphanum || c == '_' || c == '-'

def key? : Reader String
  | [] => none
  | c :: r =>
    if isBareChar c then
      some (String.ofList (c :: r.takeWhile isBareChar), (NoLonger.dropWhile isBareChar r).behind c)
    else lineText? (c :: r)

def furtherKeys? (s : List Char) : Option (List String × NoLonger s) :=
  let r := skipSpace s
  match char? '.' r.val with
  | none => some ([], r)
  | some dot => do
    let behind := dot.trans (skipSpace dot.val)
    let (key, r₁) ← key? behind.val
    let ⟨r₂, h⟩ := r.next (behind.next r₁)
    let (keys, r₃) ← furtherKeys? r₂
    return (key :: keys, (Shorter.trans ⟨r₂, h⟩ r₃).noLonger)
termination_by s.length
decreasing_by exact h

def dottedKey? : Reader (String × List String) := fun s => do
  let r := skipSpace s
  let (key, r₁) ← key? r.val
  let (keys, r₂) ← furtherKeys? r₁.val
  if keys.length < maxNesting then return ((key, keys), r.next (r₁.trans r₂)) else none

def isWordChar (c : Char) : Bool := isBareChar c || c == '+' || c == '.' || c == ':'

/-- A value that is not quoted; a time may stand behind a date and a space. -/
def word? : Reader Value
  | [] => none
  | c :: r =>
    if isWordChar c then
      let word := c :: r.takeWhile isWordChar
      let rest := (NoLonger.dropWhile isWordChar r).behind c
      let time := NoLonger.drop 1 rest.val
      if rest.val.head? == some ' ' && date? word == some [] && time.val.head?.any isDigit then
        (scalar? (word ++ ' ' :: time.val.takeWhile isWordChar)).map
          (·, rest.trans (time.trans (.dropWhile isWordChar _)))
      else (scalar? word).map (·, rest)
    else none

/-- What stands behind an element: whether another one may follow, and the rest. -/
def separator? (close : Char) (s : List Char) : Option (Bool × Shorter s) :=
  let r := skipBlank true s
  match char? ',' r.val with
  | some r' => some (true, r.next r')
  | none => (char? close r.val).map fun r' => (false, r.next r')

def elements? {α : Type} (close : Char) (read : Reader α) (s : List Char) :
    Option (List α × Shorter s) :=
  let r := skipBlank true s
  match char? close r.val with
  | some r' => some ([], r.next r')
  | none => do
    let (x, r₁) ← read r.val
    let (more, r₂) ← separator? close r₁.val
    let ⟨r₃, h⟩ := r.next (r₁.next r₂)
    if more then do
      let (xs, r₄) ← elements? close read r₃
      return (x :: xs, Shorter.next ⟨r₃, h⟩ r₄)
    else return ([x], ⟨r₃, h⟩)
termination_by s.length
decreasing_by exact h

def assignment? (value : Reader Value) : Reader (String × List String × Value) := fun s => do
  let ((key, keys), r) ← dottedKey? s
  let r₁ ← char? '=' r.val
  let r₂ := r₁.trans (skipSpace r₁.val)
  let (v, r₃) ← value r₂.val
  return ((key, keys, v), r.next (r₂.next r₃))

def inlineTable? (entries : List (String × List String × Value)) : Option Value := do
  return .table .inline (← entries.foldlM (fun t (key, keys, v) => Table.set? t key keys v) [])

def value? (levels : Nat) : Reader Value := fun s =>
  match s with
  | [] => none
  | c :: r =>
    if isQuote c then do
      let (text, r') ← text? (c :: r)
      return (.text text, r')
    else if c = '[' then
      match levels with
      | 0 => none
      | levels + 1 => do
        let (items, rest) ← elements? ']' (value? levels) r
        return (.array items, rest.behind c)
    else if c = '\x7b' then
      match levels with
      | 0 => none
      | levels + 1 => do
        let (entries, rest) ← elements? '\x7d' (assignment? (value? levels)) r
        return (← inlineTable? entries, rest.behind c)
    else word? (c :: r)

def splitLast (key : String) : List String → List String × String
  | [] => ([], key)
  | key' :: keys =>
    let (front, last) := splitLast key' keys
    (key :: front, last)

def line? : Reader Line := fun s =>
  match s with
  | '[' :: '[' :: r => do
    let ((key, keys), r₁) ← dottedKey? r
    let r₂ ← char? ']' r₁.val
    let r₃ ← char? ']' r₂.val
    let (front, last) := splitLast key keys
    return (.element front last, ((r₁.next r₂).next r₃).behind _ |>.behind _)
  | '[' :: r => do
    let ((key, keys), r₁) ← dottedKey? r
    let r₂ ← char? ']' r₁.val
    let (front, last) := splitLast key keys
    return (.table front last, (r₁.next r₂).behind _)
  | s => do
    let ((key, keys, v), r) ← assignment? (value? maxNesting) s
    return (.entry key keys v, r)

def lines? (s : List Char) : Option (List Line) :=
  let r := skipBlank true s
  if r.val.isEmpty then some []
  else do
    let (line, r₁) ← line? r.val
    let r₂ ← endOfLine? r₁.val
    let r₃ := r.next (r₁.trans r₂)
    return line :: (← lines? r₃.val)
termination_by s.length
decreasing_by exact (NoLonger.next _ _).property

/-- The table that a document is; a byte-order mark in front of it does not count. -/
def read? (text : String) : Option Table :=
  let s := text.toList
  (lines? (if s.head? = some '\ufeff' then s.drop 1 else s)).bind Table.ofLines?

end MarkupSplice.Toml
