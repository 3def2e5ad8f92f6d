import MarkupSplice.Proofs.XPath.Ranks

/-!
# Reading what is written

What is written for an expression is read as that expression, by the reader of each rank
up to which it may stand there, when the levels suffice for its nesting and a looser
token follows (`read_written`).
-/
namespace MarkupSplice.XPath
open Text

variable {n k : Nat} {t : Token} {e e' l r p : Expr} {ps es : List Expr} {x : Step}
  {xs : List Step} {step : Bool} {s ts rest rest' : List Token}

def ReadsPrimary (n : Nat) (e : Expr) (ts : List Token) : Prop :=
  ∀ rest, ∃ read, primary? (inner n) (ts ++ rest) = some read ∧ Yields read e rest

def filteredBy (e : Expr) (ps : List Expr) : Expr := if ps.isEmpty then e else .filter e ps

def ReadsFiltered (n : Nat) (e : Expr) (ts : List Token) : Prop :=
  ∀ rest, rest.head? ≠ some .leftBracket → ∃ p ps rest' read,
    primary? (inner n) (ts ++ rest) = some read ∧ Yields read p rest' ∧
      Yields (predicates (inner n) rest') ps rest ∧ e = filteredBy p ps

/-- Whether tokens are read as an expression up to rank `k`, with what operators of that rank make
of it. -/
def Reads (n : Nat) (step : Bool) (e : Expr) (ts : List Token) : Nat → Prop
  | 0 => ReadsPrimary n e ts
  | 1 => ReadsFiltered n e ts
  | k + 2 => ∀ rest e' rest', Stops (k + 1) rest → startsStep rest = step →
      Yields (operands (readerAt n (k + 1)) (operator? (k + 2)) e rest) e' rest' →
      Yields (readerAt n (k + 2) (ts ++ rest)) e' rest'

theorem Reads.yields (h : Reads n step e ts k) (hk : 2 ≤ k) (hrest : Stops k rest)
    (hstep : startsStep rest = step) : Yields (readerAt n k (ts ++ rest)) e rest := by
  match k, hk with
  | k + 2, _ =>
    exact h rest e rest (hrest.mono (Nat.le_succ _)) hstep (operands_nil hrest.operator_eq_none)

theorem path_of_primary {reader : Option (Reader Expr)} {read : Except Failure (Expr × Shorter s)}
    (hprimary : primary? reader s = some read) (hread : Yields read p ts)
    (hpredicates : Yields (predicates reader ts) ps rest)
    (hsteps : Yields (moreSteps reader rest) xs rest') :
    Yields (path reader s)
      (if xs.isEmpty then filteredBy p ps else .path (filteredBy p ps) xs) rest' := by
  obtain ⟨hlt, hread⟩ := hread
  obtain ⟨hle, hpredicates⟩ := hpredicates
  obtain ⟨hle', hsteps⟩ := hsteps
  have hpath : path reader s = read >>= fun p => filtered reader p.1 p.2 := by
    unfold path
    split
    · cases hprimary
    · cases hprimary
    · rw [hprimary]
  rw [hpath, hread]
  simp only [filtered, bind, Except.bind, hpredicates, hsteps]
  exact ⟨_, rfl⟩

theorem Stops.head_ne (h : Stops k s) (ht : t.rank = 0) : s.head? ≠ some t := by
  intro hs
  have hlt := h t hs
  omega

theorem Stops.endsSteps (h : Stops k s) : EndsSteps s := by
  rintro t ht
  constructor
  · rintro rfl
    exact h.head_ne rfl ht
  · rintro rfl
    exact h.head_ne rfl ht

theorem operands_stay (hk : ∀ t, operator? k t = none) {one : Reader Expr}
    (h : Yields (operands one (operator? k) e rest) e' rest') : e = e' ∧ rest = rest' :=
  (operands_nil fun t _ => hk t).unique h

theorem reads_succ (h : Reads n step e ts k) : Reads n step e ts (k + 1) := by
  match k with
  | 0 =>
    intro rest hrest
    obtain ⟨read, hread, hyields⟩ := h rest
    exact ⟨e, [], rest, read, hread, hyields, predicates_nil hrest, rfl⟩
  | 1 =>
    intro rest e' rest' hrest _ hgo
    obtain ⟨rfl, rfl⟩ := operands_stay (fun _ => rfl) hgo
    obtain ⟨p, ps, r, read, hread, hyields, hpredicates, rfl⟩ := h rest (hrest.head_ne rfl)
    exact path_of_primary hread hyields hpredicates (moreSteps_nil hrest.endsSteps)
  | k + 2 =>
    intro rest e' rest' hrest hstep hgo
    exact readerAt_succ (Nat.le_add_left 2 k) (h.yields (Nat.le_add_left 2 k) hrest hstep) hgo

theorem Reads.mono (h : Reads n step e ts k) {k' : Nat} (hk : k ≤ k') : Reads n step e ts k' := by
  induction hk with
  | refl => exact h
  | step _ ih => exact reads_succ ih

theorem rank_le (e : Expr) : e.rank ≤ 10 := by
  cases e with
  | compare op => cases op <;> exact Nat.le_of_ble_eq_true rfl
  | arithmetic op => cases op <;> exact Nat.le_of_ble_eq_true rfl
  | _ => exact Nat.le_of_ble_eq_true rfl

theorem startsStep_cons (t : Token) (s : List Token) : startsStep (t :: s) = startsStep [t] := by
  cases t <;> rfl

/-- A rank up to which two operands are read, the right one below the operator's. -/
theorem reads_join {join : Expr → Expr → Expr} {left right : List Token} (h : Joins t join)
    (hleft : Reads n (startsStep [t]) l left t.rank)
    (hright : Reads n step r right (t.rank - 1)) :
    Reads n step (join l r) (left ++ t :: right) t.rank := by
  have hbounds := h.rank_bounds
  have hoperator := operator_of_joins h
  obtain ⟨k, hk⟩ : ∃ k, t.rank = k + 2 := ⟨t.rank - 2, by omega⟩
  rw [hk] at hleft hoperator ⊢
  intro rest e' rest' hrest hstep hgo
  have hread : Yields (readerAt n (k + 1) (right ++ rest)) r rest := by
    rw [hk, Nat.add_sub_cancel (m := 1)] at hright
    exact hright.yields (by omega) hrest hstep
  have hstops : Stops (k + 1) (t :: (right ++ rest)) := by
    intro t' ht'
    obtain rfl := Option.some.inj ht'
    omega
  rw [List.append_assoc, List.cons_append]
  exact hleft _ e' rest' hstops (startsStep_cons t _) (operands_cons hoperator hread hgo)

def Rereads (e : Expr) : Prop :=
  ∀ n step, e.nesting step ≤ n → (e.isRoot = true → step = false) →
    Reads n step e (e.bare step) e.rank

theorem Rereads.inside (h : Rereads e) (hn : e.nesting false ≤ n) (ht : t.rank = 11)
    (hstep : startsStep [t] = false) (rest : List Token) :
    Yields (expression n (e.bare false ++ t :: rest)) e (t :: rest) := by
  have hreads := (h n false hn fun _ => rfl).mono (rank_le e)
  refine hreads.yields (by decide) ?_ ((startsStep_cons t rest).trans hstep)
  intro t' ht'
  obtain rfl := Option.some.inj ht'
  omega

theorem primary_parenthesis {one : Reader Expr} (h : Yields (one s) e (.rightParenthesis :: rest)) :
    ∃ read, primary? (some one) (.leftParenthesis :: s) = some read ∧ Yields read e rest := by
  obtain ⟨hlt, h⟩ := h
  refine ⟨_, rfl, ?_⟩
  simp only [nested, bind, Except.bind, h]
  exact ⟨_, rfl⟩

theorem Rereads.within (h : Rereads e) (hn : e.nestingWithin e.nesting k step ≤ n) :
    Reads n step e (e.within e.bare k step) k := by
  unfold Expr.nestingWithin at hn
  unfold Expr.within
  split at hn
  · rename_i hencloses
    obtain ⟨n, rfl⟩ : ∃ m, n = m + 1 := ⟨n - 1, by omega⟩
    rw [if_pos hencloses]
    have hprimary : Reads (n + 1) step e (.leftParenthesis :: (e.bare false ++
        [.rightParenthesis])) 0 := by
      intro rest
      rw [List.cons_append, List.append_assoc, List.singleton_append]
      exact primary_parenthesis (h.inside (Nat.le_of_succ_le_succ hn) rfl rfl rest)
    exact hprimary.mono (Nat.zero_le k)
  · rename_i hencloses
    rw [if_neg hencloses]
    simp only [Expr.encloses, Bool.or_eq_true, decide_eq_true_eq, Bool.and_eq_true, not_or,
      not_and, Nat.not_lt] at hencloses
    refine (h n step hn fun hroot => ?_).mono hencloses.1
    exact Bool.eq_false_iff.2 fun hstep => hencloses.2 hstep hroot

theorem exists_level {es : List Expr} (hn : nestingInside (e :: es) ≤ n) :
    ∃ m, n = m + 1 ∧ e.nesting false ≤ m ∧ nestingInside es ≤ n := by
  rw [nestingInside] at hn
  exact ⟨n - 1, by omega, by omega, by omega⟩

theorem predicates_written (h : ∀ p ∈ ps, Rereads p) (hn : nestingInside ps ≤ n)
    (hrest : rest.head? ≠ some .leftBracket) :
    Yields (predicates (inner n) (writtenPredicates ps ++ rest)) ps rest := by
  induction ps with
  | nil => exact predicates_nil hrest
  | cons p ps ih =>
    obtain ⟨m, rfl, hp, hps⟩ := exists_level hn
    rw [writtenPredicates, List.cons_append, List.append_assoc, List.cons_append]
    exact predicates_cons ((h p List.mem_cons_self).inside hp rfl rfl _)
      (ih (fun p hp => h p (List.mem_cons_of_mem _ hp)) hps)

theorem someArguments_single {one : Reader Expr}
    (h : Yields (one s) e (.rightParenthesis :: rest)) :
    Yields (someArguments (some one) s) [e] rest := by
  obtain ⟨hlt, h⟩ := h
  rw [someArguments]
  simp only [nested, bind, Except.bind, h]
  exact ⟨_, rfl⟩

theorem someArguments_cons {one : Reader Expr} (h : Yields (one s) e (.comma :: rest))
    (hrest : Yields (someArguments (some one) rest) es rest') :
    Yields (someArguments (some one) s) (e :: es) rest' := by
  obtain ⟨hlt, h⟩ := h
  obtain ⟨hlt', hrest⟩ := hrest
  rw [someArguments]
  simp only [nested, bind, Except.bind, h, hrest]
  exact ⟨_, rfl⟩

theorem someArguments_written (he : Rereads e) (h : ∀ a ∈ es, Rereads a)
    (hn : nestingInside (e :: es) ≤ n) (rest : List Token) :
    Yields (someArguments (inner n) (e.bare false ++ (writtenArguments es ++ rest)))
      (e :: es) rest := by
  induction es generalizing e with
  | nil =>
    obtain ⟨m, rfl, hlevel, -⟩ := exists_level hn
    exact someArguments_single (he.inside hlevel rfl rfl rest)
  | cons a as ih =>
    obtain ⟨m, rfl, hlevel, has⟩ := exists_level hn
    rw [writtenArguments, List.cons_append, List.append_assoc]
    exact someArguments_cons (he.inside hlevel rfl rfl _)
      (ih (h a List.mem_cons_self) (fun a' ha' => h a' (List.mem_cons_of_mem _ ha')) has)

theorem axis_written (a : Axis) (s : List Token) :
    Yields (axis (.name a.name :: .doubleColon :: s)) a s := by
  cases a <;> exact ⟨_, rfl⟩

theorem nodeTest_written (t : NodeTest) (hs : s.head? ≠ some .leftParenthesis) :
    Yields (nodeTest (t.written ++ s)) t s := by
  cases t with
  | name m => exact nodeTest_name hs
  | _ => exact ⟨_, rfl⟩

theorem step_written (a : Axis) (t : NodeTest) (h : ∀ p ∈ ps, Rereads p)
    (hn : nestingInside ps ≤ n) (hbracket : rest.head? ≠ some .leftBracket)
    (hparenthesis : rest.head? ≠ some .leftParenthesis) :
    Yields (XPath.step (inner n) ((Step.mk a t ps).written ++ rest)) (.mk a t ps) rest := by
  have hbehind : (writtenPredicates ps ++ rest).head? ≠ some .leftParenthesis := by
    cases ps with
    | nil => exact hparenthesis
    | cons p ps => simp [writtenPredicates]
  obtain ⟨hle, haxis⟩ := axis_written a (t.written ++ (writtenPredicates ps ++ rest))
  obtain ⟨hlt, htest⟩ := nodeTest_written t hbehind
  obtain ⟨hle', hps⟩ := predicates_written h hn hbracket
  rw [Step.written, List.cons_append, List.cons_append, List.append_assoc]
  simp only [XPath.step, haxis, htest, hps, bind, Except.bind]
  exact ⟨_, rfl⟩

def StepRereads (x : Step) : Prop :=
  ∀ n rest, x.nesting ≤ n → rest.head? ≠ some .leftBracket → rest.head? ≠ some .leftParenthesis →
    Yields (XPath.step (inner n) (x.written ++ rest)) x rest

theorem head_writtenBehind (xs : List Step) (hrest : Stops 1 rest) (ht : t.rank = 0) (hslash : t ≠ .slash) :
    (writtenBehind xs ++ rest).head? ≠ some t := by
  cases xs with
  | nil => exact hrest.head_ne ht
  | cons x xs => exact fun heq => hslash (Option.some.inj heq).symm

theorem moreSteps_written (h : ∀ x ∈ xs, StepRereads x) (hn : nestingSteps xs ≤ n)
    (hrest : Stops 1 rest) : Yields (moreSteps (inner n) (writtenBehind xs ++ rest)) xs rest := by
  induction xs with
  | nil => exact moreSteps_nil hrest.endsSteps
  | cons x xs ih =>
    rw [nestingSteps, Nat.max_le] at hn
    rw [writtenBehind, List.cons_append, List.append_assoc]
    have hstep := h x List.mem_cons_self n _ hn.1 (head_writtenBehind xs hrest rfl nofun)
      (head_writtenBehind xs hrest rfl nofun)
    exact moreSteps_slash hstep (ih (fun x hx => h x (List.mem_cons_of_mem _ hx)) hn.2)

theorem steps_written (h : ∀ y ∈ x :: xs, StepRereads y) (hn : nestingSteps (x :: xs) ≤ n)
    (hrest : Stops 1 rest) :
    Yields (steps (inner n) (x.written ++ writtenBehind xs ++ rest)) (x :: xs) rest := by
  rw [nestingSteps, Nat.max_le] at hn
  rw [List.append_assoc]
  have hstep := h x List.mem_cons_self n _ hn.1 (head_writtenBehind xs hrest rfl nofun)
    (head_writtenBehind xs hrest rfl nofun)
  exact steps_append hstep
    (moreSteps_written (fun y hy => h y (List.mem_cons_of_mem _ hy)) hn.2 hrest)

theorem exists_written (x : Step) (s : List Token) :
    ∃ name r, x.written ++ s = .name name :: .doubleColon :: r := by
  cases x with
  | mk a t ps => exact ⟨a.name, _, rfl⟩

theorem path_root {reader : Option (Reader Expr)} (hs : startsStep s = false) :
    Yields (path reader (.slash :: s)) (.absolute []) s := by
  simp only [path, hs, Bool.false_eq_true, if_false]
  exact ⟨_, rfl⟩

theorem path_slash {reader : Option (Reader Expr)} (hs : startsStep s = true)
    (h : Yields (steps reader s) xs rest) :
    Yields (path reader (.slash :: s)) (.absolute xs) rest := by
  obtain ⟨hlt, h⟩ := h
  simp only [path, hs, if_true, bind, Except.bind, h]
  exact ⟨_, rfl⟩

theorem path_axis {reader : Option (Reader Expr)} {name : String}
    (h : Yields (steps reader (.name name :: .doubleColon :: s)) xs rest) :
    Yields (path reader (.name name :: .doubleColon :: s)) (.relative xs) rest := by
  obtain ⟨hlt, h⟩ := h
  simp only [path, primary?, bind, Except.bind, h]
  exact ⟨_, rfl⟩

theorem reads_path (h : ∀ rest, Stops 1 rest → startsStep rest = step →
    Yields (path (inner n) (ts ++ rest)) e rest) : Reads n step e ts 2 := by
  intro rest e' rest' hrest hstep hgo
  obtain ⟨rfl, rfl⟩ := operands_stay (fun _ => rfl) hgo
  exact h rest hrest hstep

theorem rereads_absolute (h : ∀ x ∈ xs, StepRereads x) : Rereads (.absolute xs) := by
  intro n step hn hroot
  cases xs with
  | nil =>
    obtain rfl := hroot rfl
    exact reads_path fun rest _ hstep => path_root hstep
  | cons x xs =>
    apply reads_path
    intro rest hrest _
    rw [Expr.bare, List.cons_append]
    refine path_slash ?_ (steps_written h hn hrest)
    obtain ⟨name, r, heq⟩ := exists_written x (writtenBehind xs ++ rest)
    rw [List.append_assoc, heq]
    rfl

theorem rereads_relative (hne : xs ≠ []) (h : ∀ x ∈ xs, StepRereads x) :
    Rereads (.relative xs) := by
  intro n step hn _
  cases xs with
  | nil => exact absurd rfl hne
  | cons x xs =>
    apply reads_path
    intro rest hrest _
    have hsteps := steps_written h hn hrest
    obtain ⟨name, r, heq⟩ := exists_written x (writtenBehind xs ++ rest)
    rw [Expr.bare]
    rw [List.append_assoc, heq] at hsteps ⊢
    exact path_axis hsteps

theorem rereads_path (hstart : Rereads e) (hne : xs ≠ []) (h : ∀ x ∈ xs, StepRereads x) :
    Rereads (.path e xs) := by
  intro n step hn _
  rw [Expr.nesting, Nat.max_le] at hn
  apply reads_path
  intro rest hrest _
  have hbracket : (writtenBehind xs ++ rest).head? ≠ some .leftBracket :=
    head_writtenBehind xs hrest rfl nofun
  have hreads : Reads n false e (e.within e.bare 1 false) 1 := hstart.within hn.1
  obtain ⟨p, ps, rest', read, hprimary, hread, hpredicates, rfl⟩ := hreads _ hbracket
  have hpath := path_of_primary hprimary hread hpredicates (moreSteps_written h hn.2 hrest)
  rw [List.isEmpty_eq_false_iff.2 hne] at hpath
  rw [Expr.bare, List.append_assoc]
  exact hpath

theorem rereads_filter (he : Rereads e) (hne : ps ≠ []) (h : ∀ p ∈ ps, Rereads p) :
    Rereads (.filter e ps) := by
  intro n step hn _
  rw [Expr.nesting, Nat.max_le] at hn
  intro rest hrest
  have hreads : Reads n false e (e.within e.bare 0 false) 0 := he.within hn.1
  obtain ⟨read, hprimary, hread⟩ := hreads (writtenPredicates ps ++ rest)
  rw [Expr.bare, List.append_assoc]
  refine ⟨e, ps, _, read, hprimary, hread, predicates_written h hn.2 hrest, ?_⟩
  rw [filteredBy, List.isEmpty_eq_false_iff.2 hne]
  rfl

theorem primary_call {reader : Option (Reader Expr)} (f : Function)
    (h : Yields (arguments reader s) es rest) :
    ∃ read, primary? reader (.name f.text :: .leftParenthesis :: s) = some read ∧
      Yields read (.call f es) rest := by
  obtain ⟨hlt, h⟩ := h
  have hnode : nodeType? f.text = none := by cases f <;> rfl
  have hfunction : Function.ofText? f.text = some f := by cases f <;> rfl
  simp only [primary?, hnode, hfunction, h, Option.isSome_none, Bool.false_eq_true, if_false]
  exact ⟨_, rfl, _, rfl⟩

theorem arguments_of_some (h : Yields (someArguments (inner n) s) es rest) :
    Yields (arguments (inner n) s) es rest := by
  unfold arguments
  split
  · -- no argument begins with a closing parenthesis
    obtain ⟨hlt, h⟩ := h
    rw [someArguments] at h
    obtain ⟨⟨e, r, hlt'⟩, hnested, -⟩ := bind_eq_ok.1 h
    cases n with
    | zero => cases hnested
    | succ n => exact absurd ⟨hlt', hnested⟩ (not_yields_rightParenthesis 10 e r)
  · exact h

theorem rereads_call (f : Function) (h : ∀ a ∈ es, Rereads a) : Rereads (.call f es) := by
  intro n step hn _ rest
  cases es with
  | nil => exact primary_call f ⟨_, rfl⟩
  | cons a as =>
    rw [Expr.bare, List.cons_append, List.cons_append, List.append_assoc]
    have hread := someArguments_written (h a List.mem_cons_self)
      (fun a' ha' => h a' (List.mem_cons_of_mem _ ha')) hn rest
    exact primary_call f (arguments_of_some hread)

theorem rereads_join {join : Expr → Expr → Expr} (h : Joins t join) (hl : Rereads l)
    (hr : Rereads r) : Rereads (join l r) := by
  intro n step hn _
  rw [h.nesting_join, joinedNesting, Nat.max_le] at hn
  rw [h.bare_join, h.rank_join, joined]
  exact reads_join h (hl.within hn.1) (hr.within hn.2)

/-- The operand of a negation is read one level deeper. -/
theorem rereads_negate (he : Rereads e) : Rereads (.negate e) := by
  intro n step hn _ rest e' rest' hrest hstep hgo
  rw [Expr.nesting] at hn
  obtain ⟨m, rfl⟩ : ∃ m, n = m + 1 := ⟨n - 1, by omega⟩
  obtain ⟨rfl, rfl⟩ := operands_stay (fun _ => rfl) hgo
  have hoperand : Reads m step e (e.within e.bare 4 step) 4 :=
    he.within (Nat.le_of_succ_le_succ hn)
  exact negation_minus (hoperand rest e rest hrest hstep (operands_nil fun _ _ => rfl))

mutual

theorem rereads : (e : Expr) → e.WellFormed → Rereads e
  | .or l r, h => rereads_join .or (rereads l h.1) (rereads r h.2)
  | .and l r, h => rereads_join .and (rereads l h.1) (rereads r h.2)
  | .compare op l r, h => rereads_join (.compare op) (rereads l h.1) (rereads r h.2)
  | .arithmetic op l r, h => rereads_join (.arithmetic op) (rereads l h.1) (rereads r h.2)
  | .union l r, h => rereads_join .union (rereads l h.1) (rereads r h.2)
  | .negate e, h => rereads_negate (rereads e h)
  | .absolute xs, h => rereads_absolute (stepsReread xs h)
  | .relative xs, h => rereads_relative h.1 (stepsReread xs h.2)
  | .path start xs, h => rereads_path (rereads start h.1) h.2.1 (stepsReread xs h.2.2)
  | .filter e ps, h => rereads_filter (rereads e h.1) h.2.1 (allReread ps h.2.2)
  | .literal _, _ => fun _ _ _ _ _ => ⟨_, rfl, _, rfl⟩
  | .number _, _ => fun _ _ _ _ _ => ⟨_, rfl, _, rfl⟩
  | .call f as, h => rereads_call f (allReread as h)

theorem stepRereads : (x : Step) → x.WellFormed → StepRereads x
  | .mk a t ps, h => fun _ _ hn => step_written a t (allReread ps h) hn

theorem stepsReread : (xs : List Step) → wellFormedSteps xs → ∀ x ∈ xs, StepRereads x
  | [], _ => nofun
  | x :: xs, h => List.forall_mem_cons.2 ⟨stepRereads x h.1, stepsReread xs h.2⟩

theorem allReread : (es : List Expr) → wellFormedAll es → ∀ e ∈ es, Rereads e
  | [], _ => nofun
  | e :: es, h => List.forall_mem_cons.2 ⟨rereads e h.1, allReread es h.2⟩

end

theorem read_of_reads (h : Reads maxNesting false e ts k) (hk : k ≤ 10) :
    XPath.read ts = .ok e := by
  have hyields : Yields (expression maxNesting (ts ++ [])) e [] :=
    (h.mono hk).yields (by decide) nofun rfl
  rw [List.append_nil] at hyields
  obtain ⟨hlt, hread⟩ := hyields
  rw [XPath.read, hread]
  rfl

theorem read_written (h : e.WellFormed) (hn : e.nesting false ≤ maxNesting) :
    XPath.read e.written = .ok e :=
  read_of_reads (rereads e h maxNesting false hn fun _ => rfl) (rank_le e)

end MarkupSplice.XPath
