import MarkupSplice.Text.Blank
import MarkupSplice.Text.CaseTable

/-!
# Lower case

`lower` writes a text in lower case. Each character has its own lower case
form, but for the capital sigma, which has two: the final one behind a letter
and in front of none.
-/
namespace MarkupSplice.Text

def lowerPoint (n : Nat) : Nat :=
  match lowercaseRuns.find? fun (first, last, gap, _) => first ≤ n && n ≤ last && (n - first) % gap == 0 with
  | some (_, _, _, distance) => (n + distance).toNat
  | none => n

/-- The dotted capital I is the one character with two in lower case. -/
def lowerChar (c : Char) : List Char :=
  if c.toNat = 0x130 then ['i', '\u0307'] else [Char.ofNat (lowerPoint c.toNat)]

/-- Whether the first character that is not passed over has a case. -/
def meetsCased : List Char → Bool
  | [] => false
  | c :: s =>
    if inRanges caseIgnorable c.toNat then meetsCased s else inRanges cased c.toNat

def lowerFrom (front : List Char) : List Char → List Char
  | [] => []
  | c :: s =>
    if c = 'Σ' then
      (if meetsCased front && !meetsCased s then 'ς' else 'σ') :: lowerFrom (c :: front) s
    else lowerChar c ++ lowerFrom (c :: front) s

def lower (s : List Char) : List Char := lowerFrom [] s

end MarkupSplice.Text
