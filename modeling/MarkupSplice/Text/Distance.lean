/-!
# Edit distance

The least number of insertions, deletions and replacements of a character that
turn one word into another.
-/
namespace MarkupSplice.Text

/-- From the distances of `a` to the beginnings of a word, those of `a` and one more character. -/
def nextDistances (c : Char) (left : Nat) : List Nat → List Char → List Nat
  | d :: d' :: row, x :: b =>
    let n := min (min (left + 1) (d' + 1)) (if c = x then d else d + 1)
    n :: nextDistances c n (d' :: row) b
  | _, _ => []

def distance (a b : List Char) : Nat :=
  let row := a.foldl (fun row c =>
    let first := row.headD 0 + 1
    first :: nextDistances c first row b) (List.range (b.length + 1))
  row.getLastD 0

end MarkupSplice.Text
