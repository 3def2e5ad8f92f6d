import MarkupSplice.XPath.Reader
import MarkupSplice.Proofs.Fallible
import MarkupSplice.Proofs.Markup.StartTag

/-!
# Reading written paths

What becomes of a text in which the tokens of a path expression are written one
after another (`Tokenized`), and what each reader of tokens makes of a construct
in front of something that cannot belong to it any more.
-/
namespace MarkupSplice.XPath
open Markup Text

section Tokens

variable {c : Char} {name r s : List Char} {t : Token} {ts : List Token}

def Tokenized (s : List Char) (ts : List Token) : Prop :=
  ∀ start, ∃ l, tokens start s = .ok l ∧ l.map Prod.snd = ts

theorem tokenized_nil : Tokenized [] [] := by
  intro start
  rw [tokens]
  exact ⟨[], rfl, rfl⟩

theorem tokenized_cons (hc : isBlank c = false) (hread : Yields (readToken c s) t r)
    (hr : Tokenized r ts) : Tokenized (c :: s) (t :: ts) := by
  intro start
  obtain ⟨hle, hread⟩ := hread
  obtain ⟨l, hl, hmap⟩ := hr (start + byteLength (c :: s) - byteLength r)
  refine ⟨(start, t) :: l, ?_, by rw [List.map_cons, hmap]⟩
  rw [tokens, hc, if_neg Bool.false_ne_true, hread]
  simp only [hl]
  rfl

theorem readToken_slash (hs : s.head? ≠ some '/') : Yields (readToken '/' s) .slash s := by
  cases s with
  | nil => exact ⟨_, rfl⟩
  | cons c s =>
    have hc : ¬c = '/' := fun heq => hs (congrArg some heq)
    rw [readToken, orLonger]
    simp only [if_neg hc]
    exact ⟨_, rfl⟩

theorem readToken_doubleSlash (s : List Char) :
    Yields (readToken '/' ('/' :: s)) .doubleSlash s := ⟨_, rfl⟩

theorem readToken_literal {v : List Char} (hv : '\'' ∉ v) (s : List Char) :
    Yields (readToken '\'' (v ++ '\'' :: s)) (.literal (String.ofList v)) s := by
  have hcut := cutAt_char hv s
  rw [readToken.eq_9 _ _ (by decide) (by decide) (by decide) (by decide) (by decide) (by decide),
    if_pos (Or.inr rfl)]
  split
  · rename_i h
    cases hcut.symm.trans h
  · rename_i h
    cases hcut.symm.trans h
    exact ⟨_, rfl⟩

def EndsName (r : List Char) : Prop := ∀ c ∈ r.head?, isNameChar c = false ∧ c ≠ ':'

theorem endsName_of_head (hc : isNameChar c = false) (hcolon : c ≠ ':') (r : List Char) :
    EndsName (c :: r) := by
  intro c' hc'
  obtain rfl := Option.some.inj hc'
  exact ⟨hc, hcolon⟩

theorem readName_append (hname : ∀ c ∈ name, isNameChar c = true) (hr : EndsName r) :
    readName (name ++ r) = (name, r) := by
  induction name with
  | nil =>
    cases r with
    | nil => rfl
    | cons c r =>
      obtain ⟨hc, hcolon⟩ := hr c rfl
      simp [readName, hc, hcolon]
  | cons c name ih =>
    have hrest := ih fun c' hc' => hname c' (List.mem_cons_of_mem _ hc')
    simp [readName, hname c List.mem_cons_self, hrest]

theorem readToken_name (hstart : isNameStart c = true) (hdigit : isDigit c = false)
    (hname : ∀ c ∈ name, isNameChar c = true) (hr : EndsName r) :
    Yields (readToken c (name ++ r)) (.name (String.ofList (c :: name))) r := by
  have hread := readName_append hname hr
  have hne : ∀ c', isNameStart c' = false → c ≠ c' := by
    rintro c' hc' rfl
    cases hc'.symm.trans hstart
  have hquote : ¬(c = '"' ∨ c = '\'') := not_or.2 ⟨hne _ (by decide), hne _ (by decide)⟩
  rw [readToken.eq_9 _ _ (hne _ (by decide)) (hne _ (by decide)) (hne _ (by decide))
    (hne _ (by decide)) (hne _ (by decide)) (hne _ (by decide)), if_neg hquote]
  simp only [hdigit, hstart, hread, if_true, Bool.false_eq_true, if_false]
  exact ⟨_, rfl⟩

theorem parse_of_tokenized {text : String} {e : Expr} (h : Tokenized text.toList ts)
    (hread : read ts = .ok e) : parse text = .ok e := by
  obtain ⟨l, hl, hmap⟩ := h 0
  rw [parse, hl]
  simp only [hmap, hread]

end Tokens

section Operators

variable {one : Reader Expr} {operator? : Token → Option (Expr → Expr → Expr)}
  {join : Expr → Expr → Expr} {e left right : Expr} {t : Token} {r r' s : List Token}

theorem operands_nil (h : ∀ t ∈ s.head?, operator? t = none) :
    Yields (operands one operator? left s) left s := by
  cases s with
  | nil =>
    rw [operands]
    exact ⟨_, rfl⟩
  | cons t s =>
    rw [operands, h t rfl]
    exact ⟨_, rfl⟩

theorem operands_cons (ht : operator? t = some join) (hone : Yields (one s) right r)
    (hrest : Yields (operands one operator? (join left right) r) e r') :
    Yields (operands one operator? left (t :: s)) e r' := by
  obtain ⟨hlt, hone⟩ := hone
  obtain ⟨hle, hrest⟩ := hrest
  rw [operands, ht]
  simp only [bind, Except.bind, hone, hrest]
  exact ⟨_, rfl⟩

theorem leftAssociative_append (hone : Yields (one s) left r)
    (hrest : Yields (operands one operator? left r) e r') :
    Yields (leftAssociative one operator? s) e r' := by
  obtain ⟨hlt, hone⟩ := hone
  obtain ⟨hle, hrest⟩ := hrest
  rw [leftAssociative, hone]
  simp only [bind, Except.bind, hrest]
  exact ⟨_, rfl⟩

theorem leftAssociative_single (hone : Yields (one s) e r)
    (hr : ∀ t ∈ r.head?, operator? t = none) : Yields (leftAssociative one operator? s) e r :=
  leftAssociative_append hone (operands_nil hr)

def Closes (r : List Token) : Prop := ∀ t ∈ r.head?, t = .rightBracket

theorem closes_rightBracket (r : List Token) : Closes (.rightBracket :: r) :=
  fun _ ht => (Option.some.inj ht).symm

theorem Closes.operator_eq_none (hr : Closes r) (operator? : Token → Option (Expr → Expr → Expr))
    (h : operator? .rightBracket = none) : ∀ t ∈ r.head?, operator? t = none := by
  intro t ht
  rw [hr t ht, h]

theorem relation_of_negation {negation : Reader Expr} (h : Yields (negation s) e r)
    (hr : ∀ t ∈ r.head?, t = .equal ∨ t = .rightBracket) :
    Yields (leftAssociative (leftAssociative (leftAssociative negation productOperator?)
      sumOperator?) relationOperator? s) e r := by
  have hnone : ∀ operator? : Token → Option (Expr → Expr → Expr),
      operator? .equal = none → operator? .rightBracket = none →
      ∀ t ∈ r.head?, operator? t = none := by
    intro operator? hequal hbracket t ht
    rcases hr t ht with rfl | rfl
    · exact hequal
    · exact hbracket
  have hproduct := leftAssociative_single h (hnone productOperator? rfl rfl)
  have hsum := leftAssociative_single hproduct (hnone sumOperator? rfl rfl)
  exact leftAssociative_single hsum (hnone relationOperator? rfl rfl)

theorem expressionOver_of_equality {negation : Reader Expr} (hr : Closes r)
    (h : Yields (leftAssociative (leftAssociative (leftAssociative (leftAssociative negation
      productOperator?) sumOperator?) relationOperator?) equalityOperator? s) e r) :
    Yields (expressionOver negation s) e r := by
  have hconjunction := leftAssociative_single h (hr.operator_eq_none andOperator? rfl)
  exact leftAssociative_single hconjunction (hr.operator_eq_none orOperator? rfl)

theorem expressionOver_single {negation : Reader Expr} (h : Yields (negation s) e r)
    (hr : Closes r) : Yields (expressionOver negation s) e r := by
  have hrelation := relation_of_negation h fun t ht => Or.inr (hr t ht)
  exact expressionOver_of_equality hr
    (leftAssociative_single hrelation (hr.operator_eq_none equalityOperator? rfl))

theorem expressionOver_equal {negation : Reader Expr}
    (hleft : Yields (negation s) left (.equal :: r)) (hright : Yields (negation r) right r')
    (hr : Closes r') :
    Yields (expressionOver negation s) (.compare .equal left right) r' := by
  have hfirst := relation_of_negation hleft fun t ht => by
    cases ht
    exact Or.inl rfl
  have hsecond := relation_of_negation hright fun t ht => Or.inr (hr t ht)
  apply expressionOver_of_equality hr
  apply leftAssociative_append hfirst
  exact operands_cons rfl hsecond (operands_nil (hr.operator_eq_none equalityOperator? rfl))

end Operators

section Steps

variable {inner : Option (Reader Expr)} {one : Reader Expr} {e : Expr} {es ps : List Expr}
  {x : Step} {xs : List Step} {n : String} {r r' s : List Token}

theorem predicates_nil (hs : s.head? ≠ some .leftBracket) : Yields (predicates inner s) [] s := by
  rw [predicates]
  · exact ⟨_, rfl⟩
  · intro r heq
    exact hs (congrArg List.head? heq)

theorem predicates_cons (hread : Yields (one s) e (.rightBracket :: r))
    (hrest : Yields (predicates (some one) r) es r') :
    Yields (predicates (some one) (.leftBracket :: s)) (e :: es) r' := by
  obtain ⟨hlt, hread⟩ := hread
  obtain ⟨hle, hrest⟩ := hrest
  rw [predicates, nested]
  simp only [bind, Except.bind, hread, hrest]
  exact ⟨_, rfl⟩

theorem step_star (h : Yields (predicates inner s) ps r) :
    Yields (step inner (.star :: s)) (.mk .child .any ps) r := by
  obtain ⟨hle, h⟩ := h
  simp only [step, XPath.axis, nodeTest, bind, Except.bind, h]
  exact ⟨_, rfl⟩

theorem nodeTest_name (hs : s.head? ≠ some .leftParenthesis) :
    Yields (nodeTest (.name n :: s)) (.name n) s := by
  cases s with
  | nil => exact ⟨_, rfl⟩
  | cons t s =>
    cases t with
    | leftParenthesis => exact absurd rfl hs
    | _ => exact ⟨_, rfl⟩

theorem axis_name (hs : s.head? ≠ some .doubleColon) :
    Yields (XPath.axis (.name n :: s)) .child (.name n :: s) := by
  cases s with
  | nil => exact ⟨_, rfl⟩
  | cons t s =>
    cases t with
    | doubleColon => exact absurd rfl hs
    | _ => exact ⟨_, rfl⟩

theorem step_name (hs : s.head? ≠ some .doubleColon) (hs' : s.head? ≠ some .leftParenthesis)
    (h : Yields (predicates inner s) ps r) :
    Yields (step inner (.name n :: s)) (.mk .child (.name n) ps) r := by
  obtain ⟨hle, haxis⟩ := axis_name (n := n) hs
  obtain ⟨hlt, htest⟩ := nodeTest_name (n := n) hs'
  obtain ⟨hle', h⟩ := h
  simp only [step, haxis, htest, bind, Except.bind, h]
  exact ⟨_, rfl⟩

theorem step_attribute (hs : s.head? ≠ some .leftParenthesis)
    (h : Yields (predicates inner s) ps r) :
    Yields (step inner (.at :: .name n :: s)) (.mk .attribute (.name n) ps) r := by
  obtain ⟨hlt, htest⟩ := nodeTest_name (n := n) hs
  obtain ⟨hle, h⟩ := h
  simp only [step, XPath.axis, htest, bind, Except.bind, h]
  exact ⟨_, rfl⟩

def EndsSteps (s : List Token) : Prop := ∀ t ∈ s.head?, t ≠ .slash ∧ t ≠ .doubleSlash

theorem endsSteps_of_head (t : Token) (ht : t ≠ .slash ∧ t ≠ .doubleSlash) (s : List Token) :
    EndsSteps (t :: s) := by
  intro t' ht'
  obtain rfl := Option.some.inj ht'
  exact ht

theorem moreSteps_nil (hs : EndsSteps s) : Yields (moreSteps inner s) [] s := by
  unfold moreSteps
  split
  · exact absurd rfl (hs .slash rfl).1
  · exact absurd rfl (hs .doubleSlash rfl).2
  · exact ⟨_, rfl⟩

theorem moreSteps_slash (hstep : Yields (step inner s) x r)
    (hrest : Yields (moreSteps inner r) xs r') :
    Yields (moreSteps inner (.slash :: s)) (x :: xs) r' := by
  obtain ⟨hlt, hstep⟩ := hstep
  obtain ⟨hle, hrest⟩ := hrest
  rw [moreSteps, hstep]
  simp only [bind, Except.bind, hrest]
  exact ⟨_, rfl⟩

theorem moreSteps_doubleSlash (hstep : Yields (step inner s) x r)
    (hrest : Yields (moreSteps inner r) xs r') :
    Yields (moreSteps inner (.doubleSlash :: s)) (.anywhere :: x :: xs) r' := by
  obtain ⟨hlt, hstep⟩ := hstep
  obtain ⟨hle, hrest⟩ := hrest
  rw [moreSteps, hstep]
  simp only [bind, Except.bind, hrest]
  exact ⟨_, rfl⟩

theorem steps_append (hstep : Yields (step inner s) x r)
    (hrest : Yields (moreSteps inner r) xs r') :
    Yields (steps inner s) (x :: xs) r' := by
  obtain ⟨hlt, hstep⟩ := hstep
  obtain ⟨hle, hrest⟩ := hrest
  rw [steps, hstep]
  simp only [bind, Except.bind, hrest]
  exact ⟨_, rfl⟩

theorem path_doubleSlash (h : Yields (steps inner s) xs r) :
    Yields (path inner (.doubleSlash :: s)) (.absolute (.anywhere :: xs)) r := by
  obtain ⟨hlt, h⟩ := h
  rw [path, h]
  exact ⟨_, rfl⟩

theorem path_at (h : Yields (steps inner (.at :: s)) xs r) :
    Yields (path inner (.at :: s)) (.relative xs) r := by
  obtain ⟨hlt, h⟩ := h
  simp only [path, primary?, h]
  exact ⟨_, rfl⟩

theorem path_attribute (n : String) (hs : EndsSteps s) (hs' : s.head? ≠ some .leftParenthesis)
    (hs'' : s.head? ≠ some .leftBracket) :
    Yields (path inner (.at :: .name n :: s)) (.relative [.mk .attribute (.name n) []]) s :=
  path_at (steps_append (step_attribute hs' (predicates_nil hs'')) (moreSteps_nil hs))

theorem path_literal (text : String) (hs : EndsSteps s) (hs' : s.head? ≠ some .leftBracket) :
    Yields (path inner (.literal text :: s)) (.literal text) s := by
  obtain ⟨hle, hpredicates⟩ : Yields (predicates inner s) [] s := predicates_nil hs'
  obtain ⟨hle', hsteps⟩ : Yields (moreSteps inner s) [] s := moreSteps_nil hs
  simp only [path, primary?, filtered, bind, Except.bind, hpredicates, hsteps]
  exact ⟨_, rfl⟩

theorem negation_of_path {n : Nat} (hpath : Yields (path (some (expression n)) s) e r)
    (hs : s.head? ≠ some .minus) (hr : r.head? ≠ some .pipe) : Yields (negation (n + 1) s) e r := by
  have hunion : Yields (leftAssociative (path (some (expression n))) unionOperator? s) e r := by
    apply leftAssociative_single hpath
    intro t ht
    cases t with
    | pipe => exact absurd ht hr
    | _ => rfl
  cases s with
  | nil => exact hunion
  | cons t s =>
    cases t with
    | minus => exact absurd rfl hs
    | _ => exact hunion

theorem read_of_path (hpath : Yields (path (some (expression 63)) s) e [])
    (hs : s.head? ≠ some .minus) : read s = .ok e := by
  have hnegation := negation_of_path hpath hs nofun
  obtain ⟨hlt, hread⟩ : Yields (expression maxNesting s) e [] :=
    expressionOver_single hnegation nofun
  rw [XPath.read, hread]
  rfl

end Steps
end MarkupSplice.XPath
