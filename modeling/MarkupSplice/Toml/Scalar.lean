import MarkupSplice.Text.Digits
import MarkupSplice.Toml.Value

/-!
# Numbers and dates of TOML

A word that is not quoted is a truth value, a number or a date. Underscores may
stand between two digits, whole numbers have no zero in front and fit 64 bits,
and decimal fractions stay below infinity. Dates exist in the calendar; the
seconds of a time may be left out.
-/
namespace MarkupSplice.Toml
open Text

def isGrouped (p : Char → Bool) : List Char → Bool
  | [] => false
  | [c] => p c
  | c :: '_' :: s => p c && isGrouped p s
  | c :: s => p c && isGrouped p s

def ungrouped (s : List Char) : List Char := s.filter (· ≠ '_')

def isWhole (s : List Char) : Bool := s == ['0'] || (isGrouped isDigit s && s.head? != some '0')

def signed (s : List Char) : Bool × List Char :=
  match s with
  | '-' :: s => (true, s)
  | '+' :: s => (false, s)
  | s => (false, s)

/-- How many natural numbers fit 64 bits with a sign. -/
def wordLimit : Nat := 0x8000000000000000

def isInteger (s : List Char) : Bool :=
  let (negative, s) := signed s
  isWhole s && (decimal? (ungrouped s)).any fun n => n < wordLimit || (negative && n == wordLimit)

/-- A number in base 16, 8 or 2; it has no sign. -/
def isBased : List Char → Bool
  | '0' :: 'x' :: s => digits hexDigit? 16 s
  | '0' :: 'o' :: s => digits octalDigit? 8 s
  | '0' :: 'b' :: s => digits binaryDigit? 2 s
  | _ => false
where
  octalDigit? (c : Char) : Option Nat := (decimalDigit? c).filter (· < 8)
  binaryDigit? (c : Char) : Option Nat := (decimalDigit? c).filter (· < 2)
  digits (digit? : Char → Option Nat) (base : Nat) (s : List Char) : Bool :=
    isGrouped (fun c => (digit? c).isSome) s &&
      (number? digit? base (ungrouped s)).any fun n => n < wordLimit

/-- Whether `m * 10 ^ e` is nearer to a binary fraction of 64 bits than to infinity. -/
def isFinite (m : Nat) (e : Int) : Bool :=
  let digits := (Nat.toDigits 10 m).length
  if m = 0 ∨ digits + e < 300 then true
  else if digits + e > 310 then false
  else m * Nat.pow 10 e.toNat < (Nat.pow 2 1024 - Nat.pow 2 970) * Nat.pow 10 (-e).toNat

def exponent? (s : List Char) : Option Int :=
  match s with
  | [] => some 0
  | c :: s =>
    if c = 'e' ∨ c = 'E' then
      let (negative, s) := signed s
      if isGrouped isDigit s then
        (decimal? (ungrouped s)).map fun n => if negative then -(n : Int) else n
      else none
    else none

def isDecimal (s : List Char) : Bool :=
  let s := (signed s).2
  if s == "inf".toList || s == "nan".toList then true
  else
    let isPart (c : Char) : Bool := isDigit c || c == '_'
    let (whole, s) := s.span isPart
    match s with
    | '.' :: s =>
      let (fraction, s) := s.span isPart
      isWhole whole && isGrouped isDigit fraction && (exponent? s).any fun e =>
        let fraction := ungrouped fraction
        (decimal? (ungrouped whole ++ fraction)).any (isFinite · (e - fraction.length))
    | [] => false
    | s => isWhole whole && (exponent? s).any fun e =>
        (decimal? (ungrouped whole)).any (isFinite · e)

def digits? (count : Nat) (s : List Char) : Option (Nat × List Char) :=
  if s.length < count then none
  else (decimal? (s.take count)).map fun n => (n, s.drop count)

def isLeap (year : Nat) : Bool := year % 4 == 0 && (year % 100 != 0 || year % 400 == 0)

def daysIn (year month : Nat) : Nat :=
  if month = 2 then (if isLeap year then 29 else 28)
  else if [4, 6, 9, 11].contains month then 30
  else 31

def behind? (c : Char) : List Char → Option (List Char)
  | [] => none
  | c' :: s => if c = c' then some s else none

def date? (s : List Char) : Option (List Char) := do
  let (year, s) ← digits? 4 s
  let (month, s) ← digits? 2 (← behind? '-' s)
  let (day, s) ← digits? 2 (← behind? '-' s)
  if 1 ≤ month ∧ month ≤ 12 ∧ 1 ≤ day ∧ day ≤ daysIn year month then some s else none

def fraction? (s : List Char) : Option (List Char) :=
  match s with
  | '.' :: s => if s.head?.any isDigit then some (s.dropWhile isDigit) else none
  | s => some s

def time? (s : List Char) : Option (List Char) := do
  let (hour, s) ← digits? 2 s
  let (minute, s) ← digits? 2 (← behind? ':' s)
  if hour > 23 ∨ minute > 59 then none
  else match s with
    | ':' :: s =>
      let (second, s) ← digits? 2 s
      if second > 60 then none else fraction? s
    | s => some s

def isOffset (s : List Char) : Bool :=
  match s with
  | [] | ['Z'] | ['z'] => true
  | c :: s => (c == '+' || c == '-') && (do
      let (hour, s) ← digits? 2 s
      let (minute, s) ← digits? 2 (← behind? ':' s)
      return hour ≤ 23 && minute ≤ 59 && s.isEmpty).getD false

def isMoment (s : List Char) : Bool :=
  match date? s with
  | some [] => true
  | some (c :: s) => (c == 'T' || c == 't' || c == ' ') && (time? s).any isOffset
  | none => time? s == some []

/-- The value of a word that is not quoted. -/
def scalar? (s : List Char) : Option Value :=
  if s == "true".toList then some (.flag true)
  else if s == "false".toList then some (.flag false)
  else if isInteger s || isBased s || isDecimal s then some .number
  else if isMoment s then some .moment
  else none

end MarkupSplice.Toml
