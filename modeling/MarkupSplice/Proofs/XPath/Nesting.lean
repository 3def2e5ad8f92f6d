import MarkupSplice.Proofs.XPath.Rereading

/-!
# Trees that are read

Every tree that a reader makes of tokens is well formed, and what is written for it nests
no deeper than the levels of that reader (`readerAt_sound`). So a tree that is read is read
again from what is written for it, and these are all trees of at most 64 levels
(`exists_read_iff`).
-/
namespace MarkupSplice.XPath
open Text

variable {n k : Nat} {t : Token} {e l r p : Expr} {ps es : List Expr} {x : Step}
  {xs : List Step} {step : Bool} {s rest : List Token}

theorem nestingWithin_le {nesting : Bool → Nat} (h : nesting step ≤ nesting false + 1) :
    e.nestingWithin nesting k step ≤ nesting false + 1 := by
  unfold Expr.nestingWithin
  split
  · exact Nat.le_refl _
  · exact h

theorem nestingWithin_mono {nesting : Bool → Nat} (h : nesting step ≤ nesting false + 1)
    {k' : Nat} (hk : k ≤ k') :
    e.nestingWithin nesting k' step ≤ e.nestingWithin nesting k step := by
  by_cases henclosed : e.encloses k step = true
  · rw [Expr.nestingWithin.eq_def e nesting k, if_pos henclosed]
    exact nestingWithin_le h
  · have hnot : ¬e.encloses k' step = true := by
      intro h'
      simp only [Expr.encloses, Bool.or_eq_true, decide_eq_true_eq] at henclosed h'
      exact henclosed (h'.imp_left fun hlt => Nat.lt_of_le_of_lt hk hlt)
    rw [Expr.nestingWithin, Expr.nestingWithin, if_neg henclosed, if_neg hnot]

theorem nestingWithin_step {nesting : Bool → Nat} (h : nesting step ≤ nesting false + 1) :
    e.nestingWithin nesting k step ≤ e.nestingWithin nesting k false + 1 := by
  by_cases henclosed : e.encloses k false = true
  · rw [Expr.nestingWithin.eq_def e nesting k false, if_pos henclosed]
    exact Nat.le_succ_of_le (nestingWithin_le h)
  · rw [Expr.nestingWithin.eq_def e nesting k false, if_neg henclosed]
    exact nestingWithin_le h

theorem joinedNesting_step {left right : Bool → Nat}
    (h : right step ≤ right false + 1) :
    joinedNesting t l r left right step ≤ joinedNesting t l r left right false + 1 := by
  have hright : r.nestingWithin right (t.rank - 1) step ≤
      r.nestingWithin right (t.rank - 1) false + 1 := nestingWithin_step h
  unfold joinedNesting
  omega

theorem nesting_step (step : Bool) : (e : Expr) → e.nesting step ≤ e.nesting false + 1
  | .or _ r => joinedNesting_step (nesting_step step r)
  | .and _ r => joinedNesting_step (nesting_step step r)
  | .compare _ _ r => joinedNesting_step (nesting_step step r)
  | .arithmetic _ _ r => joinedNesting_step (nesting_step step r)
  | .union _ r => joinedNesting_step (nesting_step step r)
  | .negate e => Nat.succ_le_succ (nestingWithin_step (nesting_step step e))
  | .absolute _ => Nat.le_succ _
  | .relative _ => Nat.le_succ _
  | .path _ _ => Nat.le_succ _
  | .filter _ _ => Nat.le_succ _
  | .literal _ => Nat.le_succ _
  | .number _ => Nat.le_succ _
  | .call _ _ => Nat.le_succ _

/-- Whether an expression can be written where parentheses are not needed up to rank `k`, within
`n` levels. -/
def Expr.Fits (e : Expr) (n k : Nat) (step : Bool) : Prop :=
  e.WellFormed ∧ e.nestingWithin e.nesting k step ≤ n

namespace Expr.Fits

theorem mono (h : e.Fits n k step) {k' : Nat} (hk : k ≤ k') : e.Fits n k' step :=
  ⟨h.1, (nestingWithin_mono (nesting_step step e) hk).trans h.2⟩

theorem of_bare (hwf : e.WellFormed) (hn : e.nesting step ≤ n) (hrank : e.rank ≤ k)
    (hroot : step = true → e.isRoot = false) : e.Fits n k step := by
  refine ⟨hwf, ?_⟩
  have hencloses : ¬e.encloses k step = true := by
    simp only [Expr.encloses, Bool.or_eq_true, decide_eq_true_eq, Bool.and_eq_true, not_or,
      not_and, Bool.not_eq_true]
    exact ⟨Nat.not_lt.2 hrank, hroot⟩
  rw [Expr.nestingWithin, if_neg hencloses]
  exact hn

theorem join {join : Expr → Expr → Expr} (ht : Joins t join)
    (hl : l.Fits n t.rank (startsStep [t])) (hr : r.Fits n (t.rank - 1) step) :
    (join l r).Fits n t.rank step := by
  have hn : (join l r).nesting step ≤ n := by
    rw [ht.nesting_join, joinedNesting]
    exact Nat.max_le.2 ⟨hl.2, hr.2⟩
  exact of_bare ((ht.wellFormed_join l r).2 ⟨hl.1, hr.1⟩) hn (Nat.le_of_eq (ht.rank_join l r))
    fun _ => ht.isRoot_join l r

theorem negate (h : e.Fits n 4 step) : (Expr.negate e).Fits (n + 1) 4 step :=
  of_bare h.1 (Nat.succ_le_succ h.2) (Nat.le_refl 4) fun _ => rfl

end Expr.Fits

section Cases

variable {reader : Option (Reader Expr)} {rest' : List Token}

theorem predicates_cases (h : Yields (predicates reader s) ps rest) :
    (ps = [] ∧ rest = s) ∨ ∃ r e r' es, s = .leftBracket :: r ∧ r'.length < r.length ∧
      Yields (nested reader r) e (.rightBracket :: r') ∧ Yields (predicates reader r') es rest ∧
      ps = e :: es := by
  rw [predicates.eq_def] at h
  split at h
  · rename_i r
    obtain ⟨e, r', hlt, he, h⟩ := yields_bind.1 h
    dsimp only at h
    split at h
    · rename_i r' hlt
      obtain ⟨es, r'', hle, hes, h⟩ := yields_bind.1 h
      obtain ⟨rfl, rfl⟩ := yields_ok.1 h
      exact Or.inr ⟨r, e, r', es, rfl, Nat.lt_of_succ_lt hlt, ⟨_, he⟩, ⟨hle, hes⟩, rfl⟩
    · exact absurd h not_yields_error
  · obtain ⟨rfl, rfl⟩ := yields_ok.1 h
    exact Or.inl ⟨rfl, rfl⟩

theorem someArguments_cases (h : Yields (someArguments reader s) es rest) :
    ∃ e r, r.length < s.length ∧ Yields (nested reader s) e r ∧
      ((r = .rightParenthesis :: rest ∧ es = [e]) ∨
        ∃ r' es', r = .comma :: r' ∧ Yields (someArguments reader r') es' rest ∧
          es = e :: es') := by
  rw [someArguments] at h
  obtain ⟨e, r, hlt, he, h⟩ := yields_bind.1 h
  refine ⟨e, r, hlt, ⟨hlt, he⟩, ?_⟩
  dsimp only at h
  split at h
  · obtain ⟨rfl, rfl⟩ := yields_ok.1 h
    exact Or.inl ⟨rfl, rfl⟩
  · obtain ⟨es', r'', hlt', hes, h⟩ := yields_bind.1 h
    obtain ⟨rfl, rfl⟩ := yields_ok.1 h
    exact Or.inr ⟨_, es', rfl, ⟨hlt', hes⟩, rfl⟩
  · exact absurd h not_yields_error

theorem arguments_cases (h : Yields (arguments reader s) es rest) :
    es = [] ∨ Yields (someArguments reader s) es rest := by
  unfold arguments at h
  split at h
  · exact Or.inl (yields_ok.1 h).1.symm
  · exact Or.inr h

theorem step_cases (h : Yields (XPath.step reader s) x rest) :
    ∃ a t ps, x = .mk a t ps ∧ (ps = [] ∨ ∃ r, Yields (predicates reader r) ps rest) := by
  unfold XPath.step at h
  split at h
  · exact ⟨_, _, [], (yields_ok.1 h).1.symm, Or.inl rfl⟩
  · exact ⟨_, _, [], (yields_ok.1 h).1.symm, Or.inl rfl⟩
  · obtain ⟨a, r, hle, -, h⟩ := yields_bind.1 h
    obtain ⟨t, r', hlt, -, h⟩ := yields_bind.1 h
    obtain ⟨ps, r'', hle', hps, h⟩ := yields_bind.1 h
    obtain ⟨rfl, rfl⟩ := yields_ok.1 h
    exact ⟨a, t, ps, rfl, Or.inr ⟨r', hle', hps⟩⟩

theorem moreSteps_cases (h : Yields (moreSteps reader s) xs rest) :
    xs = [] ∨ ∃ r x r' ys, r'.length < s.length ∧ Yields (XPath.step reader r) x r' ∧
      Yields (moreSteps reader r') ys rest ∧ (xs = x :: ys ∨ xs = .anywhere :: x :: ys) := by
  rw [moreSteps.eq_def] at h
  split at h
  · obtain ⟨x, r', hlt, hx, h⟩ := yields_bind.1 h
    obtain ⟨ys, r'', hle, hys, h⟩ := yields_bind.1 h
    obtain ⟨rfl, rfl⟩ := yields_ok.1 h
    exact Or.inr ⟨_, x, r', ys, Nat.lt_succ_of_lt hlt, ⟨hlt, hx⟩, ⟨hle, hys⟩, Or.inl rfl⟩
  · obtain ⟨x, r', hlt, hx, h⟩ := yields_bind.1 h
    obtain ⟨ys, r'', hle, hys, h⟩ := yields_bind.1 h
    obtain ⟨rfl, rfl⟩ := yields_ok.1 h
    exact Or.inr ⟨_, x, r', ys, Nat.lt_succ_of_lt hlt, ⟨hlt, hx⟩, ⟨hle, hys⟩, Or.inr rfl⟩
  · exact Or.inl (yields_ok.1 h).1.symm

theorem steps_cases (h : Yields (steps reader s) xs rest) :
    ∃ x r ys, Yields (XPath.step reader s) x r ∧ Yields (moreSteps reader r) ys rest ∧
      xs = x :: ys := by
  obtain ⟨x, r, hlt, hx, h⟩ := yields_bind.1 h
  obtain ⟨ys, r', hle, hys, h⟩ := yields_bind.1 h
  obtain ⟨rfl, rfl⟩ := yields_ok.1 h
  exact ⟨x, r, ys, ⟨hlt, hx⟩, ⟨hle, hys⟩, rfl⟩

theorem primary_cases {read : Except Failure (Expr × Shorter s)}
    (hprimary : primary? reader s = some read) (h : Yields read e rest) :
    (∃ text, e = .literal text) ∨ (∃ value, e = .number value) ∨
      (∃ r, Yields (nested reader r) e (.rightParenthesis :: rest)) ∨
      ∃ f es r, Yields (arguments reader r) es rest ∧ e = .call f es := by
  unfold primary? at hprimary
  split at hprimary
  · obtain rfl := Option.some.inj hprimary
    exact Or.inl ⟨_, (yields_ok.1 h).1.symm⟩
  · obtain rfl := Option.some.inj hprimary
    exact Or.inr (Or.inl ⟨_, (yields_ok.1 h).1.symm⟩)
  · obtain rfl := Option.some.inj hprimary
    obtain ⟨e', r, hlt, he, h⟩ := yields_bind.1 h
    dsimp only at h
    split at h
    · obtain ⟨rfl, rfl⟩ := yields_ok.1 h
      exact Or.inr (Or.inr (Or.inl ⟨_, _, he⟩))
    · exact absurd h not_yields_error
  · split at hprimary
    · cases hprimary
    · obtain rfl := Option.some.inj hprimary
      split at h
      · exact absurd h not_yields_error
      · rename_i f _
        obtain ⟨es, r, hlt, hes, h⟩ := yields_bind.1 h
        obtain ⟨rfl, rfl⟩ := yields_ok.1 h
        exact Or.inr (Or.inr (Or.inr ⟨f, es, _, ⟨hlt, hes⟩, rfl⟩))
  · cases hprimary

theorem path_cases (h : Yields (path reader s) e rest) :
    (startsStep rest = false ∧ e = .absolute []) ∨
      (∃ r xs, Yields (steps reader r) xs rest ∧
        (e = .absolute xs ∨ e = .absolute (.anywhere :: xs) ∨ e = .relative xs)) ∨
      ∃ s read p r ps r' xs, primary? reader s = some read ∧ Yields read p r ∧
        Yields (predicates reader r) ps r' ∧ Yields (moreSteps reader r') xs rest ∧
        e = if xs.isEmpty then filteredBy p ps else .path (filteredBy p ps) xs := by
  unfold path at h
  split at h
  · split at h
    · obtain ⟨xs, r, hlt, hxs, h⟩ := yields_bind.1 h
      obtain ⟨rfl, rfl⟩ := yields_ok.1 h
      exact Or.inr (Or.inl ⟨_, xs, ⟨hlt, hxs⟩, Or.inl rfl⟩)
    · rename_i hstarts
      obtain ⟨rfl, rfl⟩ := yields_ok.1 h
      exact Or.inl ⟨Bool.eq_false_iff.2 hstarts, rfl⟩
  · obtain ⟨xs, r, hlt, hxs, h⟩ := yields_bind.1 h
    obtain ⟨rfl, rfl⟩ := yields_ok.1 h
    exact Or.inr (Or.inl ⟨_, xs, ⟨hlt, hxs⟩, Or.inr (Or.inl rfl)⟩)
  · split at h
    · rename_i read hprimary
      obtain ⟨p, r, hlt, hp, h⟩ := yields_bind.1 h
      obtain ⟨ps, r', hle, hps, h⟩ := yields_bind.1 h
      obtain ⟨xs, r'', hle', hxs, h⟩ := yields_bind.1 h
      obtain ⟨rfl, rfl⟩ := yields_ok.1 h
      exact Or.inr (Or.inr ⟨_, read, p, r, ps, r', xs, hprimary, ⟨hlt, hp⟩, ⟨hle, hps⟩,
        ⟨hle', hxs⟩, rfl⟩)
    · obtain ⟨xs, r, hlt, hxs, h⟩ := yields_bind.1 h
      obtain ⟨rfl, rfl⟩ := yields_ok.1 h
      exact Or.inr (Or.inl ⟨_, xs, ⟨hlt, hxs⟩, Or.inr (Or.inr rfl)⟩)

end Cases

theorem filteredBy_fit (he : ∀ step, e.Fits n 0 step)
    (hps : wellFormedAll ps ∧ nestingInside ps ≤ n) (step : Bool) :
    (filteredBy e ps).Fits n 1 step := by
  cases ps with
  | nil => exact (he step).mono (Nat.zero_le 1)
  | cons p ps =>
    have hwf : (Expr.filter e (p :: ps)).WellFormed :=
      ⟨(he false).1, List.cons_ne_nil p ps, hps.1⟩
    exact .of_bare hwf (Nat.max_le.2 ⟨(he false).2, hps.2⟩) (Nat.le_refl 1) fun _ => rfl

def InnerFits (n : Nat) : Prop :=
  ∀ s e rest, startsStep rest = false → Yields (nested (inner n) s) e rest →
    e.WellFormed ∧ e.nesting false + 1 ≤ n

section Paths

variable (hinner : InnerFits n)
include hinner

theorem predicates_fit {s : List Token} {ps : List Expr}
    (h : Yields (predicates (inner n) s) ps rest) : wellFormedAll ps ∧ nestingInside ps ≤ n := by
  rcases predicates_cases h with ⟨rfl, -⟩ | ⟨r, e, r', es, hs, hlt, he, hes, rfl⟩
  · exact ⟨trivial, Nat.zero_le n⟩
  · obtain ⟨hwf, hn⟩ := hinner r e _ rfl he
    obtain ⟨hwf', hn'⟩ := predicates_fit hes
    exact ⟨⟨hwf, hwf'⟩, Nat.max_le.2 ⟨hn, hn'⟩⟩
termination_by s.length
decreasing_by
  rw [hs, List.length_cons]
  omega

theorem someArguments_fit {s : List Token} {es : List Expr}
    (h : Yields (someArguments (inner n) s) es rest) : wellFormedAll es ∧ nestingInside es ≤ n := by
  obtain ⟨e, r, hlt, he, ⟨rfl, rfl⟩ | ⟨r', es', hr, hes, rfl⟩⟩ := someArguments_cases h
  · obtain ⟨hwf, hn⟩ := hinner s e _ rfl he
    exact ⟨⟨hwf, trivial⟩, Nat.max_le.2 ⟨hn, Nat.zero_le n⟩⟩
  · obtain ⟨hwf, hn⟩ := hinner s e _ (by rw [hr]; rfl) he
    obtain ⟨hwf', hn'⟩ := someArguments_fit hes
    exact ⟨⟨hwf, hwf'⟩, Nat.max_le.2 ⟨hn, hn'⟩⟩
termination_by s.length
decreasing_by
  rw [hr, List.length_cons] at hlt
  omega

theorem step_fit (h : Yields (XPath.step (inner n) s) x rest) : x.WellFormed ∧ x.nesting ≤ n := by
  obtain ⟨a, t, ps, rfl, rfl | ⟨r, hps⟩⟩ := step_cases h
  · exact ⟨trivial, Nat.zero_le n⟩
  · exact predicates_fit hinner hps

theorem moreSteps_fit {s : List Token} {xs : List Step}
    (h : Yields (moreSteps (inner n) s) xs rest) : wellFormedSteps xs ∧ nestingSteps xs ≤ n := by
  rcases moreSteps_cases h with rfl | ⟨r, x, r', ys, hlt, hx, hys, hxs⟩
  · exact ⟨trivial, Nat.zero_le n⟩
  · obtain ⟨hwf, hn⟩ := step_fit hinner hx
    obtain ⟨hwf', hn'⟩ := moreSteps_fit hys
    rcases hxs with rfl | rfl
    · exact ⟨⟨hwf, hwf'⟩, Nat.max_le.2 ⟨hn, hn'⟩⟩
    · exact ⟨⟨trivial, hwf, hwf'⟩, Nat.max_le.2 ⟨Nat.zero_le n, Nat.max_le.2 ⟨hn, hn'⟩⟩⟩
termination_by s.length

theorem steps_fit (h : Yields (steps (inner n) s) xs rest) :
    xs ≠ [] ∧ wellFormedSteps xs ∧ nestingSteps xs ≤ n := by
  obtain ⟨x, r, ys, hx, hys, rfl⟩ := steps_cases h
  obtain ⟨hwf, hn⟩ := step_fit hinner hx
  obtain ⟨hwf', hn'⟩ := moreSteps_fit hinner hys
  exact ⟨List.cons_ne_nil x ys, ⟨hwf, hwf'⟩, Nat.max_le.2 ⟨hn, hn'⟩⟩

theorem primary_fit {read : Except Failure (Expr × Shorter s)}
    (hprimary : primary? (inner n) s = some read) (h : Yields read e rest) (step : Bool) :
    e.Fits n 0 step := by
  rcases primary_cases hprimary h with ⟨text, rfl⟩ | ⟨value, rfl⟩ | ⟨r, he⟩ | ⟨f, es, r, hes, rfl⟩
  · exact .of_bare trivial (Nat.zero_le n) (Nat.le_refl 0) fun _ => rfl
  · exact .of_bare trivial (Nat.zero_le n) (Nat.le_refl 0) fun _ => rfl
  · obtain ⟨hwf, hn⟩ := hinner r e _ rfl he
    exact ⟨hwf, (nestingWithin_le (nesting_step step e)).trans hn⟩
  · rcases arguments_cases hes with rfl | hes
    · exact .of_bare trivial (Nat.zero_le n) (Nat.le_refl 0) fun _ => rfl
    · obtain ⟨hwf, hn⟩ := someArguments_fit hinner hes
      exact .of_bare hwf hn (Nat.le_refl 0) fun _ => rfl

theorem path_fit (h : Yields (path (inner n) s) e rest) : e.Fits n 2 (startsStep rest) := by
  rcases path_cases h with ⟨hstarts, rfl⟩ | ⟨r, xs, hxs, he⟩ |
    ⟨s, read, p, r, ps, r', xs, hprimary, hp, hps, hxs, rfl⟩
  · exact .of_bare trivial (Nat.zero_le n) (Nat.le_refl 2) fun hstep => by
      cases hstarts.symm.trans hstep
  · obtain ⟨hne, hfit⟩ := steps_fit hinner hxs
    rcases he with rfl | rfl | rfl
    · obtain ⟨x, xs, rfl⟩ := List.exists_cons_of_ne_nil hne
      exact .of_bare hfit.1 hfit.2 (Nat.le_refl 2) fun _ => rfl
    · exact .of_bare ⟨trivial, hfit.1⟩ (Nat.max_le.2 ⟨Nat.zero_le n, hfit.2⟩) (Nat.le_refl 2)
        fun _ => rfl
    · exact .of_bare ⟨hne, hfit.1⟩ hfit.2 (Nat.le_refl 2) fun _ => rfl
  · have hfiltered := filteredBy_fit (primary_fit hinner hprimary hp)
      (predicates_fit hinner hps)
    obtain ⟨hwf, hn⟩ := moreSteps_fit hinner hxs
    split
    · exact (hfiltered _).mono (Nat.le_succ 1)
    · rename_i hne
      have hne : xs ≠ [] := fun heq => hne (List.isEmpty_iff.2 heq)
      exact .of_bare ⟨(hfiltered false).1, hne, hwf⟩ (Nat.max_le.2 ⟨(hfiltered false).2, hn⟩)
        (Nat.le_refl 2) fun _ => rfl

end Paths

theorem operands_fit {s : List Token} {left e : Expr}
    (hone : ∀ s e rest, Yields (readerAt n k s) e rest → e.Fits n k (startsStep rest))
    (hleft : left.Fits n (k + 1) (startsStep s))
    (h : Yields (operands (readerAt n k) (operator? (k + 1)) left s) e rest) :
    e.Fits n (k + 1) (startsStep rest) := by
  rcases operands_cases h with ⟨rfl, rfl⟩ | ⟨t, s', join, right, r, hs, hjoin, hlt, hright, h⟩
  · exact hleft
  · obtain ⟨ht, hrank⟩ := joins_of_operator hjoin
    have hright := hone s' right r hright
    have hjoined : (join left right).Fits n t.rank (startsStep r) := by
      rw [hs, startsStep_cons, ← hrank] at hleft
      apply Expr.Fits.join ht hleft
      rw [hrank, Nat.add_sub_cancel]
      exact hright
    rw [hrank] at hjoined
    exact operands_fit hone hjoined h
termination_by s.length
decreasing_by
  rw [hs, List.length_cons]
  omega

theorem leftAssociative_fit
    (hone : ∀ s e rest, Yields (readerAt n k s) e rest → e.Fits n k (startsStep rest))
    (h : Yields (leftAssociative (readerAt n k) (operator? (k + 1)) s) e rest) :
    e.Fits n (k + 1) (startsStep rest) := by
  obtain ⟨left, r, hleft, h⟩ := leftAssociative_cases h
  exact operands_fit hone ((hone s left r hleft).mono (Nat.le_succ k)) h

/-- What the readers of one level read, when those of the levels below keep to their levels. -/
theorem readerAt_fit (hinner : InnerFits n)
    (hbelow : ∀ m < n, ∀ s e rest, Yields (negation m s) e rest → e.Fits m 4 (startsStep rest)) :
    ∀ k s e rest, Yields (readerAt n (k + 2) s) e rest → e.Fits n (k + 2) (startsStep rest)
  | 0, _, _, _, h => path_fit hinner h
  | 1, _, _, _, h => leftAssociative_fit (readerAt_fit hinner hbelow 0) h
  | 2, s, e, rest, h => by
    rcases negation_cases h with ⟨m, s', e', rfl, -, rfl, hoperand⟩ | hunion
    · exact (hbelow m (Nat.lt_succ_self m) s' e' rest hoperand).negate
    · exact (readerAt_fit hinner hbelow 1 s e rest hunion).mono (Nat.le_succ 3)
  | k + 3, _, _, _, h => leftAssociative_fit (readerAt_fit hinner hbelow (k + 2)) h

theorem nestingWithin_whole (e : Expr) : e.nestingWithin e.nesting 10 false = e.nesting false := by
  apply if_neg
  simp only [Expr.encloses, Bool.false_and, Bool.or_false, decide_eq_true_eq, Nat.not_lt]
  exact rank_le e

theorem readerAt_sound (n : Nat) :
    ∀ k s e rest, Yields (readerAt n (k + 2) s) e rest → e.Fits n (k + 2) (startsStep rest) := by
  induction n using Nat.strong_induction_on with
  | _ n ih =>
    apply readerAt_fit
    · intro s e rest hstarts h
      cases n with
      | zero => exact absurd h not_yields_error
      | succ m =>
        have hfit : e.Fits m 10 (startsStep rest) := ih m (Nat.lt_succ_self m) 8 s e rest h
        rw [hstarts, Expr.Fits, nestingWithin_whole] at hfit
        exact ⟨hfit.1, Nat.succ_le_succ hfit.2⟩
    · exact fun m hm => ih m hm 2

theorem read_sound (h : XPath.read s = .ok e) : e.WellFormed ∧ e.nesting false ≤ maxNesting := by
  obtain ⟨⟨e', r, hlt⟩, hread, h⟩ := bind_eq_ok.1 h
  have hfit : e'.Fits maxNesting 10 (startsStep r) := readerAt_sound maxNesting 8 s e' r ⟨hlt, hread⟩
  dsimp only at h
  split at h
  · obtain rfl := Except.ok.inj h
    exact ⟨hfit.1, nestingWithin_whole e' ▸ hfit.2⟩
  · cases h

/-- The trees that are read are those of no empty list of steps or predicates that nest at most 64
levels deep. -/
theorem exists_read_iff :
    (∃ s, XPath.read s = .ok e) ↔ e.WellFormed ∧ e.nesting false ≤ maxNesting :=
  ⟨fun ⟨_, h⟩ => read_sound h, fun ⟨hwf, hn⟩ => ⟨e.written, read_written hwf hn⟩⟩

theorem read_of_parse {text : String} (h : parse text = .ok e) : ∃ s, XPath.read s = .ok e := by
  unfold parse at h
  split at h
  · cases h
  · split at h
    · rename_i hread
      obtain rfl := Except.ok.inj h
      exact ⟨_, hread⟩
    · cases h

/-- A parsed expression is parsed again from what is written for it, which keeps to the levels
there are. -/
theorem read_written_of_parse {text : String} (h : parse text = .ok e) :
    e.nesting false ≤ maxNesting ∧ XPath.read e.written = .ok e := by
  obtain ⟨s, hread⟩ := read_of_parse h
  obtain ⟨hwf, hn⟩ := read_sound hread
  exact ⟨hn, read_written hwf hn⟩

def isRootOrStep (name : String) : Expr → Bool
  | .or (.absolute []) (.relative [.mk .child (.name n) []]) => n == name
  | _ => false

theorem eq_of_isRootOrStep {name : String} (h : isRootOrStep name e = true) :
    e = .or (.absolute []) (.relative [.mk .child (.name name) []]) := by
  unfold isRootOrStep at h
  split at h
  · rw [beq_iff_eq.1 h]
  · cases h

/-- A lone root in front of an operator whose name could be a step, and a step of that name. -/
theorem read_written_of_parse_or :
    parse "(/)or or" = .ok (.or (.absolute []) (.relative [.mk .child (.name "or") []])) ∧
      (Expr.or (.absolute []) (.relative [.mk .child (.name "or") []])).nesting false ≤ maxNesting ∧
      XPath.read (Expr.or (.absolute []) (.relative [.mk .child (.name "or") []])).written =
        .ok (.or (.absolute []) (.relative [.mk .child (.name "or") []])) := by
  have hshape : (parse "(/)or or").toOption.any (isRootOrStep "or") = true := by decide +kernel
  obtain ⟨e, he, hshape⟩ := (Option.any_eq_true _ _).1 hshape
  have h := toOption_eq_some.1 he
  rw [eq_of_isRootOrStep hshape] at h
  exact ⟨h, read_written_of_parse h⟩

end MarkupSplice.XPath
