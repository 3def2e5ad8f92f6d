import Mathlib.Data.List.DropRight
import Mathlib.Data.Prod.Lex
import MarkupSplice.Proofs.Edit.Copying
import MarkupSplice.Proofs.Markup.Placement

/-!
# Lines and columns

A walk from the beginning of a text counts the line feeds that it passes, and the
characters behind the last of them (`Position.advance_origin`). Every step leads to a
later line or to a later column of the same line, so the places of a text come in the
same order by their offsets and by their lines and columns (`Position.Inside.lt_iff`).
-/
namespace MarkupSplice
open Text

def Text.lastLine (s : List Char) : List Char := s.rtakeWhile (· != '\n')

def Text.earlierLines (s : List Char) : List Char := s.rdropWhile (· != '\n')

theorem Text.earlierLines_append_lastLine (s : List Char) : earlierLines s ++ lastLine s = s :=
  List.rdropWhile_append_rtakeWhile

namespace Position

variable {p q : Position} {c : Char} {s : List Char}

theorem advance_concat (p : Position) (s : List Char) (c : Char) :
    p.advance (s ++ [c]) = (p.advance s).step c := advance_append p s [c]

theorem line_advance_origin (s : List Char) :
    (origin.advance s).line = s.count '\n' + 1 := by
  induction s using List.reverseRecOn with
  | nil => rfl
  | append_singleton s c ih =>
    rw [advance_concat, step, List.count_append, List.count_singleton]
    by_cases hc : c = '\n'
    · simp [hc, ih]
    · simp [hc, ih]

theorem column_advance_origin (s : List Char) :
    (origin.advance s).column = (lastLine s).length + 1 := by
  induction s using List.reverseRecOn with
  | nil => rfl
  | append_singleton s c ih =>
    rw [advance_concat, step, lastLine, List.rtakeWhile_concat]
    by_cases hc : c = '\n'
    · simp [hc]
    · simp [hc, ih, lastLine]

theorem advance_origin (s : List Char) :
    origin.advance s = ⟨byteLength s, s.count '\n' + 1, (lastLine s).length + 1⟩ := by
  rw [← offset_advance_origin, ← line_advance_origin, ← column_advance_origin]

def lineColumn (p : Position) : ℕ ×ₗ ℕ := toLex (p.line, p.column)

theorem lineColumn_lt_step (p : Position) (c : Char) : p.lineColumn < (p.step c).lineColumn := by
  rw [lineColumn, lineColumn, Prod.Lex.toLex_lt_toLex, step]
  split
  · exact Or.inl (Nat.lt_succ_self _)
  · exact Or.inr ⟨rfl, Nat.lt_succ_self _⟩

theorem lineColumn_lt_advance (p : Position) (hs : s ≠ []) :
    p.lineColumn < (p.advance s).lineColumn := by
  induction s generalizing p with
  | nil => exact absurd rfl hs
  | cons c s ih =>
    have hstep := lineColumn_lt_step p c
    rw [advance_cons]
    cases s with
    | nil => exact hstep
    | cons d s => exact hstep.trans (ih (p.step c) (List.cons_ne_nil d s))

namespace Inside

theorem lineColumn_lt (hp : p.Inside s) (hq : q.Inside s) (h : p.offset < q.offset) :
    p.lineColumn < q.lineColumn := by
  obtain ⟨u, hu, rfl⟩ := hp
  obtain ⟨v, hv, rfl⟩ := hq
  rw [offset_advance_origin, offset_advance_origin] at h
  obtain ⟨w, rfl⟩ := prefix_of_byteLength_le hu hv (Nat.le_of_lt h)
  rw [advance_append]
  apply lineColumn_lt_advance
  rintro rfl
  simp at h

theorem eq_of_offset_eq (hp : p.Inside s) (hq : q.Inside s) (h : p.offset = q.offset) :
    p = q := by
  obtain ⟨u, hu, rfl⟩ := hp
  obtain ⟨v, hv, rfl⟩ := hq
  rw [offset_advance_origin, offset_advance_origin] at h
  obtain ⟨w, rfl⟩ := prefix_of_byteLength_le hu hv (Nat.le_of_eq h)
  have hw : w = [] := byteLength_eq_zero.1 (by rw [byteLength_append] at h; omega)
  rw [hw, List.append_nil]

theorem lt_iff (hp : p.Inside s) (hq : q.Inside s) :
    p.offset < q.offset ↔ p.lineColumn < q.lineColumn := by
  refine ⟨hp.lineColumn_lt hq, fun h => ?_⟩
  rcases Nat.lt_trichotomy p.offset q.offset with hlt | heq | hgt
  · exact hlt
  · exact absurd h (hp.eq_of_offset_eq hq heq ▸ lt_irrefl _)
  · exact absurd h (hq.lineColumn_lt hp hgt).asymm

end Inside
end Position
end MarkupSplice
