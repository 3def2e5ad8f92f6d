import MarkupSplice.Css.Reader
import MarkupSplice.Proofs.Fallible
import MarkupSplice.Proofs.Markup.StartTag

/-!
# Reading written selectors

What each reader of CSS selectors makes of a text in which its construct is
written and something follows that cannot belong to it any more.
-/
namespace MarkupSplice.Css
open Markup Text

variable {name gap r r' s : List Char}

def EndsName (r : List Char) : Prop := ∀ c ∈ r.head?, isNameChar c = false ∧ c ≠ '\\'

theorem ne_backslash_of_isNameChar {c : Char} (hc : isNameChar c = true) : c ≠ '\\' := by
  rintro rfl
  revert hc
  decide

theorem nameChars_append (hname : ∀ c ∈ name, isNameChar c = true) (hr : EndsName r) :
    nameChars (name ++ r) = .ok (name, r) := by
  induction name with
  | nil =>
    cases r with
    | nil => rfl
    | cons c r =>
      obtain ⟨hc, hslash⟩ := hr c rfl
      rw [List.nil_append, nameChars.eq_4 c r (fun h => absurd h hslash)
        (fun _ _ h => absurd h hslash)]
      simp [hc]
  | cons c name ih =>
    have hc := hname c List.mem_cons_self
    have hslash := ne_backslash_of_isNameChar hc
    rw [List.cons_append, nameChars.eq_4 c (name ++ r) (fun h => absurd h hslash)
      (fun _ _ h => absurd h hslash), if_pos hc,
      ih fun c' hc' => hname c' (List.mem_cons_of_mem _ hc')]
    rfl

theorem identifier_append (hne : name ≠ []) (hname : ∀ c ∈ name, isNameChar c = true)
    (hr : EndsName r) : Yields (identifier (name ++ r)) (String.ofList name) r := by
  have hchars := nameChars_append hname hr
  unfold identifier
  split
  · rename_i h
    cases hchars.symm.trans h
  · rename_i h
    cases hchars.symm.trans h
    exact absurd rfl hne
  · rename_i h
    cases hchars.symm.trans h
    exact ⟨_, rfl⟩

def escape (v : List Char) : List Char := v.flatMap fun c => if c = '\\' then ['\\', '\\'] else [c]

theorem stringChars_escape {q : Char} (hq : q ≠ '\\') {v : List Char} (hv : q ∉ v)
    (r : List Char) : stringChars? q (escape v ++ q :: r) = some (v, r) := by
  induction v with
  | nil =>
    unfold stringChars?
    simp [escape]
  | cons c v ih =>
    obtain ⟨hc, hv⟩ := not_or.1 (mt List.mem_cons.2 hv)
    have hrest := ih hv
    rw [escape, List.flatMap_cons, ← escape]
    by_cases hslash : c = '\\'
    · subst hslash
      unfold stringChars?
      simp [Ne.symm hq, hrest]
    · unfold stringChars?
      simp [hslash, Ne.symm hc, hrest]

theorem value_quoted {v : List Char} (hv : '\'' ∉ v) (r : List Char) :
    Yields (value ('\'' :: (escape v ++ '\'' :: r))) (String.ofList v) r := by
  have hchars := stringChars_escape (by decide) hv r
  unfold value
  simp only [value.quoted]
  split
  · rename_i h
    cases hchars.symm.trans h
  · rename_i h
    cases hchars.symm.trans h
    exact ⟨_, rfl⟩

theorem trimStart_of_head (h : ∀ c ∈ s.head?, isBlank c = false) : trimStart s = s :=
  dropWhile_append_of_stop (s := []) (fun _ hc => nomatch hc) h

theorem trimStart_append (hgap : ∀ c ∈ gap, isBlank c = true)
    (h : ∀ c ∈ s.head?, isBlank c = false) : trimStart (gap ++ s) = s :=
  dropWhile_append_of_stop hgap h

structure IsName (name : List Char) : Prop where
  ne_nil : name ≠ []
  chars : ∀ c ∈ name, isNameChar c = true
  head : ∀ c ∈ name.head?, isBlank c = false

theorem IsName.head_append (h : IsName name) (r : List Char) :
    ∀ c ∈ (name ++ r).head?, isBlank c = false := by
  intro c hc
  obtain ⟨c', name', rfl⟩ := List.exists_cons_of_ne_nil h.ne_nil
  exact h.head c hc

theorem endsName_of_head {c : Char} (hc : isNameChar c = false) (hslash : c ≠ '\\')
    (r : List Char) : EndsName (c :: r) := by
  intro c' hc'
  cases hc'
  exact ⟨hc, hslash⟩

theorem trimStart_cons {c : Char} (hc : isBlank c = false) (r : List Char) :
    trimStart (c :: r) = c :: r :=
  trimStart_of_head fun c' hc' => by
    cases hc'
    exact hc

theorem attributeTest_bracket {name : String} (hname : Yields (identifier (trimStart s)) name r)
    (hbracket : trimStart r = ']' :: r') : Yields (attributeTest s) ⟨name, none, false⟩ r' := by
  obtain ⟨hlt, hname⟩ := hname
  unfold attributeTest
  rw [hname]
  simp only [bind, Except.bind]
  split
  · rename_i heq
    obtain ⟨-, rfl⟩ := List.cons.inj (hbracket.symm.trans heq)
    exact ⟨_, rfl⟩
  · rename_i hne
    exact absurd hbracket (hne r')

theorem attributeTest_operator {name text : String} {op : Operator} {ignoreCase : Bool}
    {r₁ r₂ r₃ r₄ : List Char} (hname : Yields (identifier (trimStart s)) name r₁)
    (hbracket : (trimStart r₁).head? ≠ some ']') (hop : Yields (operator (trimStart r₁)) op r₂)
    (hvalue : Yields (value (trimStart r₂)) text r₃)
    (hflag : (caseFlag (trimStart r₃)).1 = ignoreCase)
    (hend : (caseFlag (trimStart r₃)).2.val = ']' :: r₄) :
    Yields (attributeTest s) ⟨name, some (op, text), ignoreCase⟩ r₄ := by
  obtain ⟨hlt₁, hname⟩ := hname
  obtain ⟨hlt₂, hop⟩ := hop
  obtain ⟨hlt₃, hvalue⟩ := hvalue
  unfold attributeTest
  rw [hname]
  simp only [bind, Except.bind]
  split
  · rename_i heq
    rw [heq] at hbracket
    exact absurd rfl hbracket
  · rw [hop]
    simp only [hvalue]
    generalize caseFlag (trimStart r₃) = flag at hflag hend ⊢
    obtain ⟨ignoring, rest, hle⟩ := flag
    obtain rfl : ignoring = ignoreCase := hflag
    obtain rfl : rest = ']' :: r₄ := hend
    exact ⟨_, rfl⟩

theorem attributeTest_present (h : IsName name) (r : List Char) :
    Yields (attributeTest (name ++ ']' :: r)) ⟨String.ofList name, none, false⟩ r := by
  have hname := identifier_append h.ne_nil h.chars
    (endsName_of_head (by decide) (by decide) r : EndsName (']' :: r))
  rw [← trimStart_of_head (h.head_append (']' :: r))] at hname
  exact attributeTest_bracket hname (trimStart_cons (by decide) r)

theorem attributeTest_exact (h : IsName name) {v : List Char} (hv : '\'' ∉ v) (r : List Char) :
    Yields (attributeTest (name ++ '=' :: '\'' :: (escape v ++ '\'' :: ']' :: r)))
      ⟨String.ofList name, some (.exact, String.ofList v), false⟩ r := by
  have hname := identifier_append h.ne_nil h.chars (endsName_of_head (by decide) (by decide)
    ('\'' :: (escape v ++ '\'' :: ']' :: r)) : EndsName ('=' :: _))
  rw [← trimStart_of_head (h.head_append _)] at hname
  have hequals := trimStart_cons (c := '=') (by decide) ('\'' :: (escape v ++ '\'' :: ']' :: r))
  have hop : Yields (operator (trimStart ('=' :: '\'' :: (escape v ++ '\'' :: ']' :: r)))) .exact
      ('\'' :: (escape v ++ '\'' :: ']' :: r)) := by
    rw [hequals]
    exact ⟨_, rfl⟩
  have hvalue := value_quoted hv (']' :: r)
  rw [← trimStart_cons (c := '\'') (by decide)] at hvalue
  refine attributeTest_operator hname ?_ hop hvalue rfl rfl
  rw [hequals]
  exact nofun

section Compounds

variable {inner : Option (Reader (List Compound))} {c : Component} {front behind : List Component}

theorem component_bracket (inner : Option (Reader (List Compound))) {t : AttributeTest}
    (h : Yields (attributeTest s) t r) :
    ∃ read, component? inner ('[' :: s) = some read ∧ Yields read (.attribute t) r := by
  obtain ⟨hlt, h⟩ := h
  refine ⟨_, rfl, ?_⟩
  rw [h]
  exact ⟨_, rfl⟩

theorem components_nil (h : component? inner s = none) : Yields (components inner s) [] s := by
  rw [components, h]
  exact ⟨_, rfl⟩

theorem components_cons {read : Except Failure (Component × Shorter s)}
    (hc : component? inner s = some read) (hread : Yields read c r)
    (hrest : Yields (components inner r) behind r') :
    Yields (components inner s) (c :: behind) r' := by
  obtain ⟨hlt, hread⟩ := hread
  obtain ⟨hle, hrest⟩ := hrest
  rw [components, hc, hread]
  simp only [bind, Except.bind, hrest]
  exact ⟨_, rfl⟩

theorem leading_star (r : List Char) : Yields (leading ('*' :: r)) [.universal] r := ⟨_, rfl⟩

theorem leading_name {first : Char} (hstart : isNameStart first = true)
    (hname : ∀ c ∈ first :: name, isNameChar c = true) (hr : EndsName r) :
    Yields (leading (first :: (name ++ r))) [.tag (String.ofList (first :: name))] r := by
  have hstar : first ≠ '*' := by
    rintro rfl
    revert hstart
    decide
  obtain ⟨hlt, hread⟩ : Yields (identifier (first :: (name ++ r))) _ r :=
    identifier_append (List.cons_ne_nil first name) hname hr
  rw [leading, if_neg hstar, if_pos hstart, hread]
  exact ⟨_, rfl⟩

theorem compoundWith_append (hfront : Yields (leading s) front r)
    (hbehind : Yields (components inner r) behind r') (hlt : r'.length < s.length) :
    Yields (compoundWith inner s) (front ++ behind) r' := by
  obtain ⟨hle, hfront⟩ := hfront
  obtain ⟨hle', hbehind⟩ := hbehind
  rw [compoundWith, hfront]
  simp only [bind, Except.bind, hbehind, dif_pos hlt]
  exact ⟨_, rfl⟩

theorem compound_append (hfront : Yields (leading s) front r)
    (hbehind : ∀ inner, Yields (components inner r) behind r') (hlt : r'.length < s.length)
    (n : Nat) : Yields (compound n s) (front ++ behind) r' := by
  cases n with
  | zero => exact compoundWith_append hfront (hbehind _) hlt
  | succ n => exact compoundWith_append hfront (hbehind _) hlt

theorem compound_bracket {t : AttributeTest} (h : Yields (attributeTest s) t []) (n : Nat) :
    Yields (compound n ('[' :: s)) [.attribute t] [] := by
  have hleading : Yields (leading ('[' :: s)) [] ('[' :: s) := ⟨Nat.le_refl _, rfl⟩
  have htests : ∀ inner, Yields (components inner ('[' :: s)) [.attribute t] [] := by
    intro inner
    obtain ⟨read, hc, hread⟩ := component_bracket inner h
    exact components_cons hc hread (components_nil rfl)
  exact compound_append hleading htests (Nat.succ_pos _) n

end Compounds

section Joined

variable {left all : Complex} {right : Compound} {before after : List Char}

theorem joined_nil (left : Complex) : Yields (joined left []) left [] := by
  rw [joined]
  exact ⟨_, rfl⟩

theorem joined_combinator {c : Char} {k : Combinator} (hk : combinator? c = some k)
    (hbefore : ∀ b ∈ before, isBlank b = true) (hafter : ∀ b ∈ after, isBlank b = true)
    (hs : ∀ b ∈ s.head?, isBlank b = false) (hright : Yields (compound maxNesting s) right r)
    (hrest : Yields (joined (.join left k right) r) all r') :
    Yields (joined left (before ++ c :: (after ++ s))) all r' := by
  have hc : isBlank c = false ∧ ¬(c = ',' ∨ c = ')') := by
    unfold combinator? at hk
    split at hk
    · decide
    · decide
    · decide
    · cases hk
  have htrim : trimStart (before ++ c :: (after ++ s)) = c :: (after ++ s) :=
    trimStart_append hbefore fun b hb => by
      cases hb
      exact hc.1
  rw [← trimStart_append hafter hs] at hright
  obtain ⟨hlt, hright⟩ := hright
  obtain ⟨hle, hrest⟩ := hrest
  rw [joined]
  split
  · rename_i h
    cases htrim.symm.trans h
  · rename_i h
    cases htrim.symm.trans h
    rw [if_neg hc.2]
    split
    · rename_i k' hk'
      obtain rfl := Option.some.inj (hk.symm.trans hk')
      simp only [bind, Except.bind, hright, hrest]
      exact ⟨_, rfl⟩
    · rename_i hnone
      cases hk.symm.trans hnone

theorem joined_blank {c : Char} (hgap : ∀ b ∈ gap, isBlank b = true) (hne : gap ≠ [])
    (hc : isBlank c = false) (hstop : ¬(c = ',' ∨ c = ')')) (hk : combinator? c = none)
    (hright : Yields (compound maxNesting (c :: s)) right r)
    (hrest : Yields (joined (.join left .descendant right) r) all r') :
    Yields (joined left (gap ++ c :: s)) all r' := by
  have htrim : trimStart (gap ++ c :: s) = c :: s :=
    trimStart_append hgap fun b hb => by
      cases hb
      exact hc
  have hblank : (gap ++ c :: s).head?.any isBlank = true := by
    obtain ⟨b, gap, rfl⟩ := List.exists_cons_of_ne_nil hne
    exact hgap b List.mem_cons_self
  obtain ⟨hlt, hright⟩ := hright
  obtain ⟨hle, hrest⟩ := hrest
  rw [joined]
  split
  · rename_i h
    cases htrim.symm.trans h
  · rename_i h
    cases htrim.symm.trans h
    rw [if_neg hstop]
    split
    · rename_i k' hk'
      cases hk.symm.trans hk'
    · rw [if_pos hblank]
      simp only [bind, Except.bind, hright, hrest]
      exact ⟨_, rfl⟩

theorem complex_append (hfirst : Yields (compound maxNesting s) right r)
    (hrest : Yields (joined (.compound right) r) all r') : Yields (complex s) all r' := by
  obtain ⟨hlt, hfirst⟩ := hfirst
  obtain ⟨hle, hrest⟩ := hrest
  rw [complex, hfirst]
  simp only [bind, Except.bind, hrest]
  exact ⟨_, rfl⟩

theorem selectors_complex (hs : ∀ b ∈ s.head?, isBlank b = false) (h : Yields (complex s) all []) :
    selectors s = .ok [all] := by
  rw [← trimStart_of_head hs] at h
  obtain ⟨hlt, h⟩ := h
  have hlist : Yields (separated complex s) [all] [] := by
    rw [separated, h]
    simp only [bind, Except.bind]
    split
    · rename_i hcomma
      cases hcomma
    · exact ⟨_, rfl⟩
  obtain ⟨hlt', hlist⟩ := hlist
  rw [selectors, hlist]
  rfl

end Joined
end MarkupSplice.Css
