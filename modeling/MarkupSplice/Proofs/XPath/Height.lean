import MarkupSplice.Proofs.XPath.Nesting

/-!
# Heights of trees

How high the tree of a parsed expression is. The levels of parentheses, predicates,
arguments and negations bound it when operators of one rank that stand one behind another
count once (`height_le_of_parse`); the height itself has no bound, as such operators join
to the left without a level of their own (`height_unbounded`).
-/
namespace MarkupSplice.XPath
open Text

variable {c k n : Nat} {t : Token} {e l r : Expr} {step : Bool}

def joinedHeight (c : Nat) (t : Token) (l : Expr) (left right : Nat) : Nat :=
  max (left + if l.rank = t.rank then c else 1) (right + 1)

mutual

/-- How many operators, filters, predicates and calls stand one within another, a left operand of
an operator's own rank being `c` of them lower than the operator. -/
def Expr.height (c : Nat) : Expr → Nat
  | .or l r => joinedHeight c (.name "or") l (l.height c) (r.height c)
  | .and l r => joinedHeight c (.name "and") l (l.height c) (r.height c)
  | .compare op l r => joinedHeight c op.token l (l.height c) (r.height c)
  | .arithmetic op l r => joinedHeight c op.token l (l.height c) (r.height c)
  | .union l r => joinedHeight c .pipe l (l.height c) (r.height c)
  | .negate e => e.height c + 1
  | .absolute xs => heightSteps c xs
  | .relative xs => heightSteps c xs
  | .path start xs => max (start.height c + 1) (heightSteps c xs)
  | .filter e ps => max (e.height c + 1) (heightInside c ps)
  | .literal _ => 0
  | .number _ => 0
  | .call _ as => heightInside c as

def Step.height (c : Nat) : Step → Nat
  | .mk _ _ ps => heightInside c ps

def heightSteps (c : Nat) : List Step → Nat
  | [] => 0
  | x :: xs => max (x.height c) (heightSteps c xs)

def heightInside (c : Nat) : List Expr → Nat
  | [] => 0
  | e :: es => max (e.height c + 1) (heightInside c es)

end

theorem nestingWithin_cases {nesting : Bool → Nat} :
    e.nestingWithin nesting k step = nesting false + 1 ∨
      e.rank ≤ k ∧ e.nestingWithin nesting k step = nesting step := by
  unfold Expr.nestingWithin
  split
  · exact Or.inl rfl
  · rename_i hencloses
    simp only [Expr.encloses, Bool.or_eq_true, decide_eq_true_eq, not_or, Nat.not_lt] at hencloses
    exact Or.inr ⟨hencloses.1, rfl⟩

def Expr.Low (e : Expr) : Prop := ∀ step, e.height 0 ≤ 11 * e.nesting step + e.rank

theorem Expr.Low.within (h : e.Low) (k : Nat) (step : Bool) :
    e.height 0 + (if e.rank = k then 0 else 1) ≤ 11 * e.nestingWithin e.nesting k step + k := by
  have hrank := rank_le e
  have hcases : e.nestingWithin e.nesting k step = e.nesting false + 1 ∨
      e.rank ≤ k ∧ e.nestingWithin e.nesting k step = e.nesting step := nestingWithin_cases
  rcases hcases with heq | ⟨hle, heq⟩
  · have hlow := h false
    split <;> omega
  · have hlow := h step
    split <;> omega

theorem low_join {join : Expr → Expr → Expr} (ht : Joins t join)
    (hheight : (join l r).height 0 = joinedHeight 0 t l (l.height 0) (r.height 0)) (hl : l.Low)
    (hr : r.Low) : (join l r).Low := by
  intro step
  have hbounds := ht.rank_bounds
  have hleft := hl.within t.rank (startsStep [t])
  have hright : r.height 0 + 1 ≤ 11 * r.nestingWithin r.nesting (t.rank - 1) step + t.rank := by
    have h := hr.within (t.rank - 1) step
    split at h <;> omega
  rw [hheight, ht.nesting_join, ht.rank_join, joinedHeight, joinedNesting]
  omega

mutual

theorem low : (e : Expr) → e.Low
  | .or l r => low_join .or rfl (low l) (low r)
  | .and l r => low_join .and rfl (low l) (low r)
  | .compare op l r => low_join (.compare op) rfl (low l) (low r)
  | .arithmetic op l r => low_join (.arithmetic op) rfl (low l) (low r)
  | .union l r => low_join .union rfl (low l) (low r)
  | .negate e => fun step => by
    have h := (low e).within 4 step
    rw [Expr.height, Expr.nesting, Expr.rank]
    omega
  | .absolute xs => fun _ => Nat.le_add_right_of_le (lowSteps xs)
  | .relative xs => fun _ => Nat.le_add_right_of_le (lowSteps xs)
  | .path start xs => fun step => by
    have h := (low start).within 1 false
    have hsteps := lowSteps xs
    rw [Expr.height, Expr.nesting, Expr.rank]
    split at h <;> omega
  | .filter e ps => fun step => by
    have h := (low e).within 0 false
    have hinside := lowInside ps
    rw [Expr.height, Expr.nesting, Expr.rank]
    split at h <;> omega
  | .literal _ => fun _ => Nat.zero_le _
  | .number _ => fun _ => Nat.zero_le _
  | .call _ as => fun _ => lowInside as

theorem lowStep : (x : Step) → x.height 0 ≤ 11 * x.nesting
  | .mk _ _ ps => lowInside ps

theorem lowSteps : (xs : List Step) → heightSteps 0 xs ≤ 11 * nestingSteps xs
  | [] => Nat.zero_le _
  | x :: xs => by
    have h := lowStep x
    have hrest := lowSteps xs
    rw [heightSteps, nestingSteps]
    omega

theorem lowInside : (es : List Expr) → heightInside 0 es ≤ 11 * nestingInside es
  | [] => Nat.zero_le _
  | e :: es => by
    have h := low e false
    have hrank := rank_le e
    have hrest := lowInside es
    rw [heightInside, nestingInside]
    omega

end

def chain : Nat → Expr
  | 0 => .relative [.mk .child .any []]
  | n + 1 => .union (chain n) (.relative [.mk .child .any []])

def chainText (n : Nat) : List Char := '*' :: (List.replicate n ['|', '*']).flatten

def chainTokens (n : Nat) : List Token := .star :: (List.replicate n [.pipe, .star]).flatten

theorem height_chain (n : Nat) : (chain n).height 1 = n := by
  induction n with
  | zero => rfl
  | succ n ih =>
    rw [chain, Expr.height, joinedHeight, ih, ite_self]
    simp [Expr.height, heightSteps, Step.height, heightInside]

theorem tokenized_chain (n : Nat) : Tokenized (chainText n) (chainTokens n) := by
  have hrest : Tokenized (List.replicate n ['|', '*']).flatten
      (List.replicate n [Token.pipe, .star]).flatten := by
    induction n with
    | zero => exact tokenized_nil
    | succ n ih =>
      rw [List.replicate_succ, List.replicate_succ, List.flatten_cons, List.flatten_cons]
      exact tokenized_cons rfl ⟨_, rfl⟩ (tokenized_cons rfl ⟨_, rfl⟩ ih)
  exact tokenized_cons rfl ⟨_, rfl⟩ hrest

theorem reads_star (n : Nat) (step : Bool) :
    Reads n step (.relative [.mk .child .any []]) [.star] 2 := by
  apply reads_path
  intro rest hrest _
  have hstep : Yields (XPath.step (inner n) (.star :: rest)) (.mk .child .any []) rest :=
    step_star (predicates_nil (hrest.head_ne rfl))
  obtain ⟨hlt, hsteps⟩ := steps_append hstep (moreSteps_nil hrest.endsSteps)
  simp only [List.singleton_append, path, primary?, bind, Except.bind, hsteps]
  exact ⟨_, rfl⟩

theorem reads_chain (n : Nat) (step : Bool) : Reads maxNesting step (chain n) (chainTokens n) 3 := by
  induction n generalizing step with
  | zero => exact (reads_star maxNesting step).mono (Nat.le_succ 2)
  | succ n ih =>
    have htokens : chainTokens (n + 1) = chainTokens n ++ .pipe :: [.star] := by
      simp [chainTokens, List.replicate_succ']
    rw [htokens]
    exact reads_join .union (ih false) (reads_star maxNesting step)

theorem parse_chain (n : Nat) : parse (String.ofList (chainText n)) = .ok (chain n) := by
  apply parse_of_tokenized _ (read_of_reads (reads_chain n false) (by decide))
  rw [String.toList_ofList]
  exact tokenized_chain n

/-- The levels bound the height of a parsed tree, chains of operators of one rank counted once. -/
theorem height_le_of_parse {text : String} (h : parse text = .ok e) :
    e.height 0 ≤ 11 * maxNesting + 10 := by
  obtain ⟨s, hread⟩ := read_of_parse h
  have hn := (read_sound hread).2
  have hlow := low e false
  have hrank := rank_le e
  omega

theorem height_le_of_parse_chain :
    parse (String.ofList (chainText 1000)) = .ok (chain 1000) ∧
      (chain 1000).height 0 ≤ 11 * maxNesting + 10 :=
  ⟨parse_chain 1000, height_le_of_parse (parse_chain 1000)⟩

/-- Operators of one rank one behind another make trees of any height. -/
theorem height_unbounded :
    ¬∃ bound : Nat, ∀ (text : String) (e : Expr), parse text = .ok e → e.height 1 ≤ bound := by
  rintro ⟨bound, h⟩
  have hle := h _ _ (parse_chain (bound + 1))
  rw [height_chain] at hle
  omega

end MarkupSplice.XPath
