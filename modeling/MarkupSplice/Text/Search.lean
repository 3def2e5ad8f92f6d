/-!
# Cutting a text at a word

`cutAt` splits a text around the first occurrence of a word: the two parts with
the word between them are the text again (`append_of_cutAt`).
-/
namespace MarkupSplice.Text

def after? (word : List Char) (s : List Char) : Option (List Char) :=
  if word.isPrefixOf s then some (s.drop word.length) else none

theorem append_of_after? {word s r : List Char} (h : after? word s = some r) : word ++ r = s := by
  unfold after? at h
  split at h
  · rename_i hp
    cases h
    exact List.prefix_iff_eq_append.1 (List.isPrefixOf_iff_prefix.1 hp)
  · cases h

/-- The text in front of the first occurrence of `word`, and the text behind it. -/
def cutAt (word : List Char) : List Char → Option (List Char × List Char)
  | [] => if word.isEmpty then some ([], []) else none
  | c :: s =>
    match after? word (c :: s) with
    | some r => some ([], r)
    | none => (cutAt word s).map fun (a, b) => (c :: a, b)

theorem append_of_cutAt {word s a b : List Char} (h : cutAt word s = some (a, b)) :
    a ++ word ++ b = s := by
  induction s generalizing a with
  | nil =>
    simp only [cutAt] at h
    split at h
    · rename_i hw
      cases h
      simp [List.isEmpty_iff.1 hw]
    · cases h
  | cons c s ih =>
    simp only [cutAt] at h
    split at h
    · rename_i r hr
      cases h
      simpa using append_of_after? hr
    · obtain ⟨⟨a', b'⟩, hc, he⟩ := Option.map_eq_some_iff.1 h
      obtain ⟨rfl, rfl⟩ := Prod.mk.inj he
      simp [← ih hc]

theorem length_of_cutAt {word s a b : List Char} (h : cutAt word s = some (a, b)) :
    b.length ≤ s.length := by
  have := congrArg List.length (append_of_cutAt h)
  simp only [List.length_append] at this
  omega

end MarkupSplice.Text
