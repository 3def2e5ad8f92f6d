import MarkupSplice.FileSet

/-!
# What patterns match

Which characters of a path each piece of a pattern stands for, told without
the search for them (`Matches`). A path is matched if and only if its
characters can be dealt out to the pieces so (`accepts_iff`).
-/
namespace MarkupSplice

namespace Glob

variable {s r : List Char} {ps : List Piece}

/-- Dealing a path out to pieces: `**` takes whole names, the slash behind each included. -/
inductive Matches : List Piece → List Char → Prop
  | nil : Matches [] []
  | one {p : Piece} {c : Char} {ps : List Piece} {s : List Char} :
      p.accepts c = true → Matches ps s → Matches (p :: ps) (c :: s)
  | run {w : List Char} {ps : List Piece} {s : List Char} :
      '/' ∉ w → Matches ps s → Matches (.run :: ps) (w ++ s)
  | deep {w : List Char} {ps : List Piece} {s : List Char} :
      w = [] ∨ w.getLast? = some '/' ∨ s = [] → Matches ps s → Matches (.deep :: ps) (w ++ s)

theorem mem_withinName : r ∈ withinName s ↔ ∃ w, '/' ∉ w ∧ s = w ++ r := by
  induction s with
  | nil =>
    rw [withinName, List.mem_singleton]
    constructor
    · rintro rfl
      exact ⟨[], List.not_mem_nil, rfl⟩
    · rintro ⟨w, -, hw⟩
      exact (List.append_eq_nil_iff.1 hw.symm).2
  | cons c s ih =>
    rw [withinName, List.mem_cons]
    constructor
    · rintro (rfl | hr)
      · exact ⟨[], List.not_mem_nil, rfl⟩
      · split at hr
        · cases hr
        · rename_i hc
          obtain ⟨w, hw, rfl⟩ := ih.1 hr
          exact ⟨c :: w, by simp [hw, Ne.symm hc], rfl⟩
    · rintro ⟨w, hw, hs⟩
      cases w with
      | nil => exact Or.inl hs.symm
      | cons a w =>
        obtain ⟨rfl, htail⟩ := List.cons.inj hs
        rw [List.mem_cons, not_or] at hw
        rw [if_neg (Ne.symm hw.1)]
        exact Or.inr (ih.2 ⟨w, hw.2, htail⟩)

theorem mem_behindSlashes : r ∈ behindSlashes s ↔ ∃ w, s = w ++ '/' :: r := by
  induction s with
  | nil => simp [behindSlashes]
  | cons c s ih =>
    rw [behindSlashes]
    constructor
    · intro hr
      have hbehind : (c = '/' ∧ r = s) ∨ r ∈ behindSlashes s := by
        split at hr
        · rename_i hc
          exact (List.mem_cons.1 hr).imp_left fun hr => ⟨hc, hr⟩
        · exact Or.inr hr
      rcases hbehind with ⟨rfl, rfl⟩ | hr
      · exact ⟨[], rfl⟩
      · obtain ⟨w, rfl⟩ := ih.1 hr
        exact ⟨c :: w, rfl⟩
    · rintro ⟨w, hs⟩
      cases w with
      | nil =>
        obtain ⟨rfl, rfl⟩ := List.cons.inj hs
        rw [if_pos rfl]
        exact List.mem_cons_self
      | cons a w =>
        have hr := ih.2 ⟨w, (List.cons.inj hs).2⟩
        split
        · exact List.mem_cons_of_mem _ hr
        · exact hr

theorem mem_rests_deep :
    r ∈ Piece.rests .deep s ↔ ∃ w, (w = [] ∨ w.getLast? = some '/' ∨ r = []) ∧ s = w ++ r := by
  rw [Piece.rests, List.mem_cons, List.mem_append, mem_behindSlashes, List.mem_singleton]
  constructor
  · rintro (rfl | ⟨w, rfl⟩ | rfl)
    · exact ⟨[], Or.inl rfl, rfl⟩
    · exact ⟨w ++ ['/'], by simp, by simp⟩
    · exact ⟨s, by simp, by simp⟩
  · rintro ⟨w, rfl | hlast | rfl, rfl⟩
    · exact Or.inl rfl
    · obtain ⟨v, rfl⟩ := List.getLast?_eq_some_iff.1 hlast
      exact Or.inr (Or.inl ⟨v, by simp⟩)
    · exact Or.inr (Or.inr rfl)

theorem matchPieces_iff : matchPieces ps s = true ↔ Matches ps s := by
  induction ps generalizing s with
  | nil =>
    rw [matchPieces, List.isEmpty_iff]
    constructor
    · rintro rfl
      exact .nil
    · rintro ⟨⟩
      rfl
  | cons p ps ih =>
    rw [matchPieces, List.any_eq_true]
    constructor
    · rintro ⟨r, hr, hmatch⟩
      rw [ih] at hmatch
      unfold Piece.rests at hr
      split at hr
      case h_1 =>
        obtain ⟨w, hw, rfl⟩ := mem_withinName.1 hr
        exact .run hw hmatch
      case h_2 =>
        obtain ⟨w, hw, rfl⟩ := mem_rests_deep.1 hr
        exact .deep hw hmatch
      case h_3 =>
        split at hr
        · cases hr
        · rename_i c rest
          split at hr
          · rename_i haccepts
            rw [List.mem_singleton] at hr
            exact .one haccepts (hr ▸ hmatch)
          · cases hr
    · intro h
      cases h with
      | one haccepts h =>
        rename_i c s
        have hrests : s ∈ p.rests (c :: s) := by
          cases p with
          | run => cases haccepts
          | deep => cases haccepts
          | char _ | any | within _ | outside _ =>
            dsimp only [Piece.rests]
            rw [if_pos haccepts]
            exact List.mem_singleton_self s
        exact ⟨s, hrests, ih.2 h⟩
      | run hw h => exact ⟨_, mem_withinName.2 ⟨_, hw, rfl⟩, ih.2 h⟩
      | deep hw h => exact ⟨_, mem_rests_deep.2 ⟨_, hw, rfl⟩, ih.2 h⟩

theorem accepts_iff {pattern path : String} : accepts pattern path = true ↔
    ∃ ps, pieces pattern = .ok ps ∧ Matches ps path.toList := by
  rw [accepts]
  cases pieces pattern with
  | ok ps => simp [matchPieces_iff]
  | error e => simp

end Glob

namespace FileSet

def MatchedBy (path pattern : String) : Prop :=
  ∃ ps, Glob.pieces pattern = .ok ps ∧ Glob.Matches ps path.toList

theorem accepts_iff {s : FileSet} {path : String} : s.accepts path = true ↔
    (∃ p ∈ s.patterns, MatchedBy path p) ∧ ¬∃ p ∈ s.excludes, MatchedBy path p := by
  simp [accepts, MatchedBy, Glob.accepts_iff]

end FileSet
end MarkupSplice
