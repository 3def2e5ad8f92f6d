/-!
# White space

The characters with the Unicode property `White_Space`, and texts cut at them.
-/
namespace MarkupSplice.Text

def blankRanges : List (Nat × Nat) :=
  [(0x9, 0xD), (0x20, 0x20), (0x85, 0x85), (0xA0, 0xA0), (0x1680, 0x1680), (0x2000, 0x200A),
    (0x2028, 0x2029), (0x202F, 0x202F), (0x205F, 0x205F), (0x3000, 0x3000)]

def inRanges (ranges : List (Nat × Nat)) (n : Nat) : Bool :=
  ranges.any fun (a, b) => a ≤ n && n ≤ b

def isBlank (c : Char) : Bool := inRanges blankRanges c.toNat

def trimStart (s : List Char) : List Char := s.dropWhile isBlank

def trimEnd (s : List Char) : List Char := (s.reverse.dropWhile isBlank).reverse

def trim (s : List Char) : List Char := trimEnd (trimStart s)

/-- The runs of characters between those that satisfy `p`, empty ones left out. -/
def wordsBy (p : Char → Bool) (s : List Char) : List (List Char) :=
  s.foldr (fun c words =>
    if p c then [] :: words
    else match words with
      | [] => [[c]]
      | w :: ws => (c :: w) :: ws) [[]] |>.filter fun w => !w.isEmpty

def words (s : List Char) : List (List Char) := wordsBy isBlank s

end MarkupSplice.Text
