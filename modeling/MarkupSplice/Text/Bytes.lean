/-!
# Byte widths of texts

Offsets count UTF-8 bytes, texts are lists of characters. `byteLength` is the
distance a text spans, and `cutBytes` cuts a text at an offset: it answers only
on a character boundary inside the text, and what it answers joins to the text
it was given (`append_of_cutBytes`).
-/
namespace MarkupSplice.Text

abbrev Bytes := List UInt8

def byteLength (s : List Char) : Nat := s.foldr (fun c n => c.utf8Size + n) 0

@[simp] theorem byteLength_nil : byteLength [] = 0 := rfl

@[simp] theorem byteLength_cons (c : Char) (s : List Char) :
    byteLength (c :: s) = c.utf8Size + byteLength s := rfl

@[simp] theorem byteLength_append (s t : List Char) :
    byteLength (s ++ t) = byteLength s + byteLength t := by
  induction s with
  | nil => simp
  | cons c s ih => rw [List.cons_append, byteLength_cons, byteLength_cons, ih, Nat.add_assoc]

def cutBytes : List Char → Nat → Option (List Char × List Char)
  | s, 0 => some ([], s)
  | [], _ + 1 => none
  | c :: s, n + 1 =>
    if c.utf8Size ≤ n + 1 then (cutBytes s (n + 1 - c.utf8Size)).map fun (a, b) => (c :: a, b)
    else none

/-- Whether an offset falls between two characters of the text, its ends included. -/
def isBoundary (s : List Char) (n : Nat) : Bool := (cutBytes s n).isSome

theorem append_of_cutBytes {s a b : List Char} {n : Nat} (h : cutBytes s n = some (a, b)) :
    a ++ b = s ∧ byteLength a = n := by
  induction s generalizing n a with
  | nil => cases n <;> simp_all [cutBytes]
  | cons c s ih =>
    cases n with
    | zero => simp_all [cutBytes]
    | succ n =>
      simp only [cutBytes] at h
      split at h
      · obtain ⟨⟨a', b'⟩, hc, he⟩ := Option.map_eq_some_iff.1 h
        obtain ⟨rfl, rfl⟩ := Prod.mk.inj he
        obtain ⟨h1, h2⟩ := ih hc
        exact ⟨by simp [h1], by simp [h2]; omega⟩
      · cases h

theorem cutBytes_byteLength (a b : List Char) :
    cutBytes (a ++ b) (byteLength a) = some (a, b) := by
  induction a with
  | nil => cases b <;> rfl
  | cons c a ih =>
    have hc := c.utf8Size_pos
    obtain ⟨n, hn⟩ : ∃ n, c.utf8Size + byteLength a = n + 1 := ⟨c.utf8Size + byteLength a - 1, by omega⟩
    simp only [List.cons_append, byteLength_cons, hn, cutBytes]
    rw [if_pos (by omega), show n + 1 - c.utf8Size = byteLength a by omega, ih]
    rfl

end MarkupSplice.Text
