/-!
# Digits and numbers

Reading the numbers that digits write, and the words of 32 bits among them.
-/
namespace MarkupSplice.Text

def decimalDigit? (c : Char) : Option Nat :=
  if '0' ≤ c ∧ c ≤ '9' then some (c.toNat - '0'.toNat) else none

def hexDigit? (c : Char) : Option Nat :=
  if 'a' ≤ c ∧ c ≤ 'f' then some (c.toNat - 'a'.toNat + 10)
  else if 'A' ≤ c ∧ c ≤ 'F' then some (c.toNat - 'A'.toNat + 10)
  else decimalDigit? c

def isDigit (c : Char) : Bool := (decimalDigit? c).isSome

def number? (digit? : Char → Option Nat) (base : Nat) (s : List Char) : Option Nat :=
  if s.isEmpty then none
  else s.foldlM (fun n c => (digit? c).map (n * base + ·)) 0

def decimal? (s : List Char) : Option Nat := number? decimalDigit? 10 s

def integer? : List Char → Option Int
  | '-' :: s => (decimal? s).map fun n => -(n : Int)
  | '+' :: s => (decimal? s).map fun n => (n : Int)
  | s => (decimal? s).map fun n => (n : Int)

def int32? (s : List Char) : Option Int32 :=
  match integer? s with
  | some n => if -2147483648 ≤ n ∧ n ≤ 2147483647 then some (Int32.ofInt n) else none
  | none => none

end MarkupSplice.Text
