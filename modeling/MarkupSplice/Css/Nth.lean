import MarkupSplice.Text.Blank
import MarkupSplice.Text.Digits

/-!
# Expressions `An+B`

An expression of a step and an offset stands for the numbers `step * k + offset`,
`k` counting from zero. Its text may have white space anywhere.
-/
namespace MarkupSplice.Css
open Text

structure Nth where
  step : Int32
  offset : Int32
deriving DecidableEq, Repr

namespace Nth

def step? : List Char → Option Int32
  | [] => some 1
  | ['+'] => some 1
  | ['-'] => some (-1)
  | s => int32? s

def offset? : List Char → Option Int32
  | [] => some 0
  | '+' :: s => int32? ('+' :: s)
  | '-' :: s => int32? ('-' :: s)
  | _ => none

def parse? (text : List Char) : Option Nth :=
  let s := (text.filter fun c => !isBlank c).map Char.toLower
  if s = ['o', 'd', 'd'] then some ⟨2, 1⟩
  else if s = ['e', 'v', 'e', 'n'] then some ⟨2, 0⟩
  else
    match int32? s with
    | some n => some ⟨0, n⟩
    | none =>
      match s.dropWhile (· != 'n') with
      | [] => none
      | _ :: behind => do return ⟨← step? (s.takeWhile (· != 'n')), ← offset? behind⟩

def selects (e : Nth) (n : Int) : Bool :=
  let a := e.step.toInt
  let d := n - e.offset.toInt
  if a = 0 then d = 0
  else if a > 0 then 0 ≤ d ∧ d.tmod a = 0
  else d ≤ 0 ∧ d.tmod a = 0

end Nth
end MarkupSplice.Css
