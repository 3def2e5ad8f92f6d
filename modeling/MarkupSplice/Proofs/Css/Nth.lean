import MarkupSplice.Css.Nth
import MarkupSplice.Proofs.Markup.StartTag
import MarkupSplice.Proofs.Text.Digits

/-!
# Writing `An+B`

An expression of a step and an offset can be written in several ways: each number behind a
sign or without one, a step of one without its digit, an offset of nothing not at all. White
space may stand anywhere, and no letter depends on its case. The expression is read again from
any of its texts, whatever the step and the offset are (`Nth.parse_of_writes`).
-/
namespace MarkupSplice.Css.Nth
open Markup Text

variable {c : Char} {e : Nth} {a b : Int32} {s t text : List Char}

def written (e : Nth) : List Char := writtenInt e.step.toInt ++ 'n' :: signed e.offset.toInt

def IsWritten (c : Char) : Prop := c.isDigit = true ∨ c = '-' ∨ c = '+' ∨ c = 'n'

theorem isWritten_writtenInt {n : Int} (h : c ∈ writtenInt n) : c.isDigit = true ∨ c = '-' := by
  unfold writtenInt at h
  split at h
  · exact (List.mem_cons.1 h).elim Or.inr fun hc => Or.inl (isDigit_of_mem_digits hc)
  · exact Or.inl (isDigit_of_mem_digits h)

theorem isWritten_of_mem {e : Nth} (h : c ∈ e.written) : IsWritten c := by
  rcases List.mem_append.1 h with hstep | hrest
  · exact (isWritten_writtenInt hstep).imp_right Or.inl
  · rcases List.mem_cons.1 hrest with rfl | hoffset
    · exact Or.inr (Or.inr (Or.inr rfl))
    · rcases List.mem_cons.1 hoffset with rfl | hdigit
      · split
        · exact Or.inr (Or.inl rfl)
        · exact Or.inr (Or.inr (Or.inl rfl))
      · exact Or.inl (isDigit_of_mem_digits hdigit)

theorem IsWritten.not_blank (h : IsWritten c) : isBlank c = false := by
  rcases h with hdigit | rfl | rfl | rfl
  · obtain ⟨hlower, hupper⟩ := Char.isDigit_iff_toNat.1 hdigit
    refine Bool.eq_false_iff.2 fun hblank => ?_
    simp [isBlank, inRanges, blankRanges] at hblank hlower hupper
    omega
  · decide
  · decide
  · decide

theorem IsWritten.toLower (h : IsWritten c) : c.toLower = c := by
  rcases h with hdigit | rfl | rfl | rfl
  · obtain ⟨-, hupper⟩ := Char.isDigit_iff_toNat.1 hdigit
    have hcase : ¬(c.val ≥ 'A'.val ∧ c.val ≤ 'Z'.val) := fun hcase =>
      absurd ((UInt32.le_iff_toNat_le.1 hcase.1).trans hupper) (by decide)
    exact dif_neg hcase
  · decide
  · decide
  · decide

def compact (text : List Char) : List Char :=
  (text.filter fun c => !isBlank c).map Char.toLower

theorem compact_written (e : Nth) : compact e.written = e.written := by
  have hfilter : e.written.filter (fun c => !isBlank c) = e.written :=
    List.filter_eq_self.2 fun c hc => by rw [(isWritten_of_mem hc).not_blank]; rfl
  rw [compact, hfilter]
  exact (List.map_congr_left fun c hc => (isWritten_of_mem hc).toLower).trans (List.map_id _)

theorem int32_writtenInt (n : Int32) : int32? (writtenInt n.toInt) = some n :=
  int32_of_integer (integer_writtenInt _)

theorem int32_signed (n : Int32) : int32? (signed n.toInt) = some n :=
  int32_of_integer (integer_signed _)

theorem int32_eq_none (hs : 'n' ∈ s) : int32? s = none := by
  rw [int32?, integer_eq_none hs (by decide) (by decide) (by decide)]

theorem step_of_int32 (hs : int32? s = some a) : step? s = some a := by
  unfold step?
  split
  · cases hs
  · cases hs
  · cases hs
  · exact hs

theorem step_eq_none (hs : 'n' ∈ s) : step? s = none := by
  unfold step?
  split
  · cases hs
  · simp at hs
  · simp at hs
  · exact int32_eq_none hs

theorem offset_signed (n : Int32) : offset? (signed n.toInt) = some n := by
  have hread := int32_signed n
  unfold signed at hread ⊢
  split
  all_goals
    rename_i hsign
    simp only [hsign, if_true, if_false] at hread
    exact hread

inductive WritesStep (a : Int32) : List Char → Prop
  | number : WritesStep a (writtenInt a.toInt)
  | signed : WritesStep a (signed a.toInt)
  | one (ha : a = 1) : WritesStep a []
  | plus (ha : a = 1) : WritesStep a ['+']
  | minus (ha : a = -1) : WritesStep a ['-']

inductive WritesOffset (b : Int32) : List Char → Prop
  | signed : WritesOffset b (signed b.toInt)
  | nothing (hb : b = 0) : WritesOffset b []

theorem WritesStep.step_eq (h : WritesStep a s) : step? s = some a := by
  cases h with
  | number => exact step_of_int32 (int32_writtenInt a)
  | signed => exact step_of_int32 (int32_signed a)
  | one ha => rw [ha]; rfl
  | plus ha => rw [ha]; rfl
  | minus ha => rw [ha]; rfl

theorem WritesOffset.offset_eq (h : WritesOffset b t) : offset? t = some b := by
  cases h with
  | signed => exact offset_signed b
  | nothing hb => rw [hb]; rfl

theorem parse_of_parts (htext : compact text = s ++ 'n' :: t) (hs : step? s = some a)
    (ht : offset? t = some b) : parse? text = some ⟨a, b⟩ := by
  have hstep : ∀ c ∈ s, (c != 'n') = true := by
    intro c hc
    rw [bne_iff_ne]
    rintro rfl
    rw [step_eq_none hc] at hs
    cases hs
  have hfront : (s ++ 'n' :: t).takeWhile (· != 'n') = s :=
    takeWhile_append_of_stop hstep (by simp)
  have hbehind : (s ++ 'n' :: t).dropWhile (· != 'n') = 'n' :: t :=
    dropWhile_append_of_stop hstep (by simp)
  have hn : 'n' ∈ s ++ 'n' :: t := List.mem_append_right _ List.mem_cons_self
  have hodd : s ++ 'n' :: t ≠ ['o', 'd', 'd'] := by
    intro heq
    rw [heq] at hn
    simp at hn
  -- the letters in front of the `n` of `even` are no step
  have heven : s ++ 'n' :: t ≠ ['e', 'v', 'e', 'n'] := by
    intro heq
    rw [heq] at hfront
    rw [← hfront] at hs
    cases hs
  rw [compact] at htext
  unfold parse?
  rw [htext, if_neg hodd, if_neg heven, int32_eq_none hn]
  simp only [hfront, hbehind, hs, ht]
  rfl

theorem parse_of_number (htext : int32? (compact text) = some b) : parse? text = some ⟨0, b⟩ := by
  have hne : ∀ {word}, int32? word = none → compact text ≠ word := by
    rintro word hword heq
    rw [heq, hword] at htext
    cases htext
  have hodd : compact text ≠ ['o', 'd', 'd'] := hne (by decide)
  have heven : compact text ≠ ['e', 'v', 'e', 'n'] := hne (by decide)
  rw [compact] at htext hodd heven
  unfold parse?
  rw [if_neg hodd, if_neg heven, htext]

inductive Writes (e : Nth) : List Char → Prop
  | parts {s t : List Char} (hs : WritesStep e.step s) (ht : WritesOffset e.offset t) :
    Writes e (s ++ 'n' :: t)
  | number (ha : e.step = 0) : Writes e (writtenInt e.offset.toInt)
  | signed (ha : e.step = 0) : Writes e (signed e.offset.toInt)
  | odd (he : e = ⟨2, 1⟩) : Writes e ['o', 'd', 'd']
  | even (he : e = ⟨2, 0⟩) : Writes e ['e', 'v', 'e', 'n']

theorem parse_of_writes (h : e.Writes (compact text)) : parse? text = some e := by
  have hoffset : e.step = 0 → e = ⟨0, e.offset⟩ := fun ha => by rw [← ha]
  generalize htext : compact text = r at h
  cases h with
  | parts hs ht => exact parse_of_parts htext hs.step_eq ht.offset_eq
  | number ha => rw [parse_of_number (htext ▸ int32_writtenInt _), ← hoffset ha]
  | signed ha => rw [parse_of_number (htext ▸ int32_signed _), ← hoffset ha]
  | odd he => rw [he]; exact if_pos htext
  | even he =>
    rw [compact] at htext
    unfold parse?
    rw [he, htext]
    rfl

theorem writes_written (e : Nth) : e.Writes e.written := .parts .number .signed

theorem parse_written (e : Nth) : parse? e.written = some e := by
  apply parse_of_writes
  rw [compact_written]
  exact writes_written e

end MarkupSplice.Css.Nth
