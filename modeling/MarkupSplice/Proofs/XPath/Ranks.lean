import MarkupSplice.Proofs.XPath.Reading
import MarkupSplice.Proofs.XPath.Writing

/-!
# Reading by ranks

The readers of expressions, one for each rank of what they read (`readerAt`), and the
operators of each rank. A reader of one rank goes on from what the reader of the rank
below has read (`readerAt_succ`), and stops in front of a looser token.
-/
namespace MarkupSplice.XPath
open Text

variable {k n : Nat} {t : Token} {join : Expr → Expr → Expr} {e e' l r : Expr} {step : Bool}
  {s rest rest' : List Token}

def operator? : Nat → Token → Option (Expr → Expr → Expr)
  | 3 => unionOperator?
  | 5 => productOperator?
  | 6 => sumOperator?
  | 7 => relationOperator?
  | 8 => equalityOperator?
  | 9 => andOperator?
  | 10 => orOperator?
  | _ => fun _ => none

/-- The tokens between two operands, with what they make of these. -/
inductive Joins : Token → (Expr → Expr → Expr) → Prop
  | or : Joins (.name "or") .or
  | and : Joins (.name "and") .and
  | compare (op : Comparison) : Joins op.token (.compare op)
  | arithmetic (op : Arithmetic) : Joins op.token (.arithmetic op)
  | union : Joins .pipe .union

theorem operator_of_joins (h : Joins t join) : operator? t.rank t = some join := by
  cases h with
  | or => rfl
  | and => rfl
  | compare op => cases op <;> rfl
  | arithmetic op => cases op <;> rfl
  | union => rfl

theorem joins_of_operator (h : operator? k t = some join) : Joins t join ∧ t.rank = k := by
  unfold operator? at h
  split at h
  · unfold unionOperator? at h
    split at h <;> cases h
    exact ⟨.union, rfl⟩
  · unfold productOperator? at h
    split at h <;> cases h
    · exact ⟨.arithmetic .multiply, rfl⟩
    · exact ⟨.arithmetic .divide, rfl⟩
    · exact ⟨.arithmetic .remainder, rfl⟩
  · unfold sumOperator? at h
    split at h <;> cases h
    · exact ⟨.arithmetic .add, rfl⟩
    · exact ⟨.arithmetic .subtract, rfl⟩
  · unfold relationOperator? at h
    split at h <;> cases h
    · exact ⟨.compare .less, rfl⟩
    · exact ⟨.compare .lessOrEqual, rfl⟩
    · exact ⟨.compare .greater, rfl⟩
    · exact ⟨.compare .greaterOrEqual, rfl⟩
  · unfold equalityOperator? at h
    split at h <;> cases h
    · exact ⟨.compare .equal, rfl⟩
    · exact ⟨.compare .notEqual, rfl⟩
  · unfold andOperator? at h
    split at h <;> cases h
    exact ⟨.and, rfl⟩
  · unfold orOperator? at h
    split at h <;> cases h
    exact ⟨.or, rfl⟩
  · cases h

namespace Joins

variable (h : Joins t join)
include h

theorem rank_bounds : 3 ≤ t.rank ∧ t.rank ≠ 4 ∧ t.rank ≤ 10 := by
  cases h with
  | or => decide
  | and => decide
  | compare op => cases op <;> decide
  | arithmetic op => cases op <;> decide
  | union => decide

theorem rank_join (l r : Expr) : (join l r).rank = t.rank := by cases h <;> rfl

theorem isRoot_join (l r : Expr) : (join l r).isRoot = false := by cases h <;> rfl

theorem bare_join (l r : Expr) (step : Bool) :
    (join l r).bare step = joined t l r l.bare r.bare step := by cases h <;> rfl

theorem nesting_join (l r : Expr) (step : Bool) :
    (join l r).nesting step = joinedNesting t l r l.nesting r.nesting step := by cases h <;> rfl

theorem wellFormed_join (l r : Expr) :
    (join l r).WellFormed ↔ l.WellFormed ∧ r.WellFormed := by cases h <;> rfl

end Joins

def inner : Nat → Option (Reader Expr)
  | 0 => none
  | n + 1 => some (expression n)

def readerAt (n : Nat) : Nat → Reader Expr
  | 0 => path (inner n)
  | 1 => path (inner n)
  | 2 => path (inner n)
  | 3 => leftAssociative (path (inner n)) unionOperator?
  | 4 => negation n
  | k + 5 => leftAssociative (readerAt n (k + 4)) (operator? (k + 5))

/-- Whether a reader up to rank `k` stops in front of a list of tokens. -/
def Stops (k : Nat) (s : List Token) : Prop := ∀ t ∈ s.head?, k < t.rank

theorem Stops.mono {k' : Nat} (h : Stops k s) (hk : k' ≤ k) : Stops k' s :=
  fun t ht => Nat.lt_of_le_of_lt hk (h t ht)

theorem operator_eq_none (h : t.rank ≠ k) : operator? k t = none := by
  cases hop : operator? k t with
  | none => rfl
  | some join => exact absurd (joins_of_operator hop).2 h

theorem Stops.operator_eq_none (h : Stops k s) : ∀ t ∈ s.head?, operator? k t = none :=
  fun t ht => XPath.operator_eq_none (Nat.ne_of_gt (h t ht))

section Cases

variable {one : Reader Expr} {op : Token → Option (Expr → Expr → Expr)} {left : Expr}

theorem leftAssociative_cases (h : Yields (leftAssociative one op s) e rest) :
    ∃ left rest', Yields (one s) left rest' ∧ Yields (operands one op left rest') e rest := by
  obtain ⟨left, rest', hlt, hone, h⟩ := yields_bind.1 h
  obtain ⟨e', r, hle, hoperands, h⟩ := yields_bind.1 h
  obtain ⟨rfl, rfl⟩ := yields_ok.1 h
  exact ⟨left, rest', ⟨hlt, hone⟩, hle, hoperands⟩

theorem operands_cases (h : Yields (operands one op left s) e rest) :
    (e = left ∧ rest = s) ∨ ∃ t s' join right rest', s = t :: s' ∧ op t = some join ∧
      rest'.length < s'.length ∧ Yields (one s') right rest' ∧
      Yields (operands one op (join left right) rest') e rest := by
  rw [operands.eq_def] at h
  split at h
  · obtain ⟨rfl, rfl⟩ := yields_ok.1 h
    exact Or.inl ⟨rfl, rfl⟩
  · rename_i t s'
    split at h
    · obtain ⟨rfl, rfl⟩ := yields_ok.1 h
      exact Or.inl ⟨rfl, rfl⟩
    · rename_i join hjoin
      obtain ⟨right, rest', hlt, hone, h⟩ := yields_bind.1 h
      obtain ⟨e', r, hle, hoperands, h⟩ := yields_bind.1 h
      obtain ⟨rfl, rfl⟩ := yields_ok.1 h
      exact Or.inr ⟨t, s', join, right, rest', rfl, hjoin, hlt, ⟨hlt, hone⟩, hle, hoperands⟩

end Cases

theorem negation_cases (h : Yields (negation n s) e rest) :
    (∃ m s' e', n = m + 1 ∧ s = .minus :: s' ∧ e = .negate e' ∧ Yields (negation m s') e' rest) ∨
      Yields (readerAt n 3 s) e rest := by
  have hover : negation n = negationOver (n.casesOn none fun m => some (negation m)) := by
    cases n <;> rfl
  rw [hover, negationOver.eq_def] at h
  split at h
  · obtain ⟨e', r, hlt, hnested, h⟩ := yields_bind.1 h
    obtain ⟨rfl, rfl⟩ := yields_ok.1 h
    cases n with
    | zero => cases hnested
    | succ m => exact Or.inl ⟨m, _, e', rfl, rfl, rfl, hlt, hnested⟩
  · right
    cases n <;> exact h

theorem not_yields_path {reader : Option (Reader Expr)}
    (ht : t = .minus ∨ t = .rightParenthesis) : ¬Yields (path reader (t :: s)) e rest := by
  rintro ⟨hlt, h⟩
  rcases ht with rfl | rfl <;>
    simp [path, primary?, steps, XPath.step, axis, nodeTest, bind, Except.bind] at h

theorem not_yields_rightParenthesis :
    ∀ (k : Nat) (e : Expr) (rest : List Token),
      ¬Yields (readerAt n k (.rightParenthesis :: s)) e rest
  | 0, _, _ => not_yields_path (Or.inr rfl)
  | 1, _, _ => not_yields_path (Or.inr rfl)
  | 2, _, _ => not_yields_path (Or.inr rfl)
  | 3, _, _ => fun h =>
    have ⟨_, _, hpath, _⟩ := leftAssociative_cases h
    not_yields_path (Or.inr rfl) hpath
  | 4, _, _ => fun h => by
    rcases negation_cases h with ⟨_, _, _, _, hs, _⟩ | h
    · cases hs
    · exact not_yields_rightParenthesis 3 _ _ h
  | k + 5, _, _ => fun h =>
    have ⟨_, _, hone, _⟩ := leftAssociative_cases h
    not_yields_rightParenthesis (k + 4) _ _ hone

theorem negation_minus (h : Yields (negation n s) e rest) :
    Yields (negation (n + 1) (.minus :: s)) (.negate e) rest := by
  obtain ⟨hlt, h⟩ := h
  rw [negation, negationOver]
  simp only [nested, bind, Except.bind, h]
  exact ⟨_, rfl⟩

theorem negation_of_union
    (h : Yields (leftAssociative (path (inner n)) unionOperator? s) e rest) :
    Yields (negation n s) e rest := by
  have hminus : s.head? ≠ some .minus := by
    intro hs
    obtain ⟨s, rfl⟩ := List.head?_eq_some_iff.1 hs
    obtain ⟨left, rest', hpath, -⟩ := leftAssociative_cases h
    exact not_yields_path (Or.inl rfl) hpath
  cases n <;> cases s with
  | nil => exact h
  | cons t s =>
    cases t with
    | minus => exact absurd rfl hminus
    | _ => exact h

/-- A reader goes on with operators of its rank from what the reader below has read. -/
theorem readerAt_succ (hk : 2 ≤ k) (h : Yields (readerAt n k s) e rest)
    (hgo : Yields (operands (readerAt n k) (operator? (k + 1)) e rest) e' rest') :
    Yields (readerAt n (k + 1) s) e' rest' := by
  match k, hk with
  | 2, _ => exact leftAssociative_append h hgo
  | 3, _ =>
    have hstay : Yields (operands (readerAt n 3) (operator? 4) e rest) e rest :=
      operands_nil fun _ _ => rfl
    obtain ⟨rfl, rfl⟩ := hstay.unique hgo
    exact negation_of_union h
  | k + 4, _ => exact leftAssociative_append h hgo

end MarkupSplice.XPath
