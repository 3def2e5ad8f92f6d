import MarkupSplice.Proofs.Css.Rereading

/-!
# Selectors that are read

Every selector that a text is read as can be written (`selectors_fit`), so what a text is
read as is read again from what is written for it (`selectors_written_of_selectors`).
-/
namespace MarkupSplice.Css
open Markup Text

variable {r s : List Char}

theorem name_ne_of_identifier {name : String} (h : Yields (identifier s) name r) : name ≠ "" := by
  obtain ⟨hlt, h⟩ := h
  unfold identifier at h
  split at h
  · cases h
  · cases h
  · cases h
    intro hempty
    have hnil := congrArg String.toList hempty
    rw [String.toList_ofList] at hnil
    cases hnil

theorem attributeTest_fits {t : AttributeTest} (h : Yields (attributeTest s) t r) : t.Fits := by
  obtain ⟨name, r₁, hlt, hname, h⟩ := yields_bind.1 h
  have hne := name_ne_of_identifier ⟨hlt, hname⟩
  dsimp only at h
  split at h
  · obtain ⟨rfl, -⟩ := yields_ok.1 h
    exact ⟨hne, fun _ => rfl⟩
  · obtain ⟨op, r₂, hlt₂, -, h⟩ := yields_bind.1 h
    obtain ⟨text, r₃, hlt₃, -, h⟩ := yields_bind.1 h
    dsimp only at h
    split at h
    · obtain ⟨rfl, -⟩ := yields_ok.1 h
      exact ⟨hne, nofun⟩
    · exact absurd h not_yields_error

section Components

variable {inner : Option (Reader (List Compound))} {P : Compound → Prop} {component : Component}
  {cs : Compound}

def InnerFits (inner : Option (Reader (List Compound))) (P : Compound → Prop) : Prop :=
  ∀ read ∈ inner, ∀ s alternatives r, Yields (read s) alternatives r →
    alternatives ≠ [] ∧ ∀ cs ∈ alternatives, P cs

theorem simplePseudo_fits {name : String} (h : simplePseudo? name = some component) :
    component.Fits P ∧ component.leads = false := by
  unfold simplePseudo? at h
  split at h <;> cases h <;> exact ⟨trivial, rfl⟩

theorem nthPseudo_fits {name : String} {build : Nth → Component} (h : nthPseudo? name = some build)
    (e : Nth) : (build e).Fits P ∧ (build e).leads = false := by
  unfold nthPseudo? at h
  split at h <;> cases h <;> exact ⟨trivial, rfl⟩

theorem closeParenthesis_cases {α : Type} {x y : α} {r' : List Char} (hlt : r'.length < s.length)
    (h : Yields (closeParenthesis x r' hlt) y r) : x = y := by
  unfold closeParenthesis at h
  split at h
  · exact (yields_ok.1 h).1
  · exact absurd h not_yields_error

theorem pseudoClass_fits (hinner : InnerFits inner P)
    (h : Yields (pseudoClass inner s) component r) :
    component.Fits P ∧ component.leads = false := by
  unfold pseudoClass at h
  by_cases hcolon : s.head? = some ':'
  · rw [if_pos hcolon] at h
    obtain ⟨_, h⟩ := h
    cases h
  rw [if_neg hcolon] at h
  obtain ⟨written, r₁, hlt, -, h⟩ := yields_bind.1 h
  dsimp only at h
  split at h
  · rename_i c hsimple
    obtain ⟨rfl, -⟩ := yields_ok.1 h
    exact simplePseudo_fits hsimple
  · split at h
    · split at h
      · split at h
        · exact absurd h not_yields_error
        · rename_i read _
          obtain ⟨alternatives, r₂, hlt₂, hread, h⟩ := yields_bind.1 h
          obtain rfl := closeParenthesis_cases _ h
          exact ⟨hinner read rfl _ _ _ ⟨hlt₂, hread⟩, rfl⟩
      · split at h
        · exact absurd h not_yields_error
        · rename_i build hbuild
          split at h
          · exact absurd h not_yields_error
          · rename_i e _
            obtain rfl := closeParenthesis_cases _ h
            exact nthPseudo_fits hbuild e
    · exact absurd h not_yields_error

theorem component_fits (hinner : InnerFits inner P)
    {read : Except Failure (Component × Shorter s)} (hcomponent : component? inner s = some read)
    (h : Yields read component r) : component.Fits P ∧ component.leads = false := by
  unfold component? at hcomponent
  split at hcomponent
  · obtain rfl := Option.some.inj hcomponent
    obtain ⟨name, r', hlt, hname, h⟩ := yields_bind.1 h
    obtain ⟨rfl, -⟩ := yields_ok.1 h
    exact ⟨name_ne_of_identifier ⟨hlt, hname⟩, rfl⟩
  · obtain rfl := Option.some.inj hcomponent
    obtain ⟨name, r', hlt, hname, h⟩ := yields_bind.1 h
    obtain ⟨rfl, -⟩ := yields_ok.1 h
    exact ⟨name_ne_of_identifier ⟨hlt, hname⟩, rfl⟩
  · obtain rfl := Option.some.inj hcomponent
    obtain ⟨test, r', hlt, htest, h⟩ := yields_bind.1 h
    obtain ⟨rfl, -⟩ := yields_ok.1 h
    exact ⟨attributeTest_fits ⟨hlt, htest⟩, rfl⟩
  · obtain rfl := Option.some.inj hcomponent
    obtain ⟨c, r', hlt, hc, h⟩ := yields_bind.1 h
    obtain ⟨rfl, -⟩ := yields_ok.1 h
    exact pseudoClass_fits hinner ⟨hlt, hc⟩
  · cases hcomponent

theorem components_fit (hinner : InnerFits inner P) {s r : List Char} {cs : Compound}
    (h : Yields (components inner s) cs r) :
    (cs = [] ∧ r = s) ∨ cs ≠ [] ∧ ∀ c ∈ cs, c.Fits P ∧ c.leads = false := by
  rw [components] at h
  split at h
  · obtain ⟨rfl, rfl⟩ := yields_ok.1 h
    exact Or.inl ⟨rfl, rfl⟩
  · rename_i read hcomponent
    obtain ⟨c, r', hlt, hread, h⟩ := yields_bind.1 h
    obtain ⟨cs', r'', hle, hrest, h⟩ := yields_bind.1 h
    have hbehind : Yields (components inner r') cs' r'' := ⟨hle, hrest⟩
    obtain ⟨rfl, rfl⟩ := yields_ok.1 h
    refine Or.inr ⟨List.cons_ne_nil c cs', List.forall_mem_cons.2 ⟨?_, ?_⟩⟩
    · exact component_fits hinner hcomponent ⟨hlt, hread⟩
    · rcases components_fit hinner hbehind with ⟨hnil, -⟩ | ⟨-, hfits⟩
      · rw [hnil]
        exact nofun
      · exact hfits
termination_by s.length
decreasing_by exact hlt

theorem leading_cases {front : List Component} (h : Yields (leading s) front r) :
    (front = [] ∧ r = s) ∨ ∃ c, front = [c] ∧ c.Fits P := by
  unfold leading at h
  split at h
  · obtain ⟨rfl, rfl⟩ := yields_ok.1 h
    exact Or.inl ⟨rfl, rfl⟩
  · split at h
    · exact Or.inr ⟨.universal, (yields_ok.1 h).1.symm, trivial⟩
    · split at h
      · obtain ⟨name, r', hlt, hname, h⟩ := yields_bind.1 h
        exact Or.inr ⟨.tag name, (yields_ok.1 h).1.symm, name_ne_of_identifier ⟨hlt, hname⟩⟩
      · obtain ⟨rfl, rfl⟩ := yields_ok.1 h
        exact Or.inl ⟨rfl, rfl⟩

theorem compoundWith_fits (hinner : InnerFits inner P) (h : Yields (compoundWith inner s) cs r) :
    Compound.FitsOver P cs := by
  obtain ⟨front, r₁, hle, hfront, h⟩ := yields_bind.1 h
  obtain ⟨behind, r₂, hle', hbehind, h⟩ := yields_bind.1 h
  dsimp only at h
  split at h
  · rename_i hlt
    obtain ⟨rfl, rfl⟩ := yields_ok.1 h
    rcases components_fit hinner ⟨hle', hbehind⟩ with ⟨rfl, rfl⟩ | ⟨hne, hfits⟩
    · rcases leading_cases (P := P) ⟨hle, hfront⟩ with ⟨rfl, rfl⟩ | ⟨c, rfl, hc⟩
      · exact absurd hlt (Nat.lt_irrefl _)
      · exact ⟨List.cons_ne_nil c [], nofun, List.forall_mem_singleton.2 hc⟩
    · rcases leading_cases (P := P) ⟨hle, hfront⟩ with ⟨rfl, rfl⟩ | ⟨c, rfl, hc⟩
      · exact ⟨hne, fun c hc => (hfits c (List.mem_of_mem_tail hc)).2, fun c hc => (hfits c hc).1⟩
      · exact ⟨List.cons_ne_nil c behind, fun c hc => (hfits c hc).2,
          List.forall_mem_cons.2 ⟨hc, fun c hc => (hfits c hc).1⟩⟩
  · exact absurd h not_yields_error

end Components

theorem separated_fit {α : Type} {one : Reader α} {P : α → Prop}
    (hone : ∀ s x r, Yields (one s) x r → P x) {s r : List Char} {xs : List α}
    (h : Yields (separated one s) xs r) : xs ≠ [] ∧ ∀ x ∈ xs, P x := by
  rw [separated] at h
  obtain ⟨x, r₁, hlt, hx, h⟩ := yields_bind.1 h
  have hfit := hone _ x r₁ ⟨hlt, hx⟩
  dsimp only at h
  split at h
  · rename_i r' hr
    have hshorter : r'.length < s.length := by
      have hlength := length_trimStart r₁
      have htrim := length_trimStart s
      rw [hr, List.length_cons] at hlength
      omega
    obtain ⟨xs', r₂, hlt', hxs, h⟩ := yields_bind.1 h
    have hrest : Yields (separated one r') xs' r₂ := ⟨hlt', hxs⟩
    obtain ⟨rfl, rfl⟩ := yields_ok.1 h
    exact ⟨List.cons_ne_nil x xs', List.forall_mem_cons.2 ⟨hfit, (separated_fit hone hrest).2⟩⟩
  · obtain ⟨rfl, -⟩ := yields_ok.1 h
    exact ⟨List.cons_ne_nil x [], List.forall_mem_singleton.2 hfit⟩
termination_by s.length
decreasing_by exact hshorter

theorem compound_fits {n : Nat} {cs : Compound} (h : Yields (compound n s) cs r) : cs.Fits n := by
  induction n generalizing s cs r with
  | zero =>
    have hinner : InnerFits none fun _ => False := fun _ hread => nomatch hread
    exact compoundWith_fits hinner h
  | succ n ih =>
    refine compoundWith_fits ?_ h
    intro read hread s alternatives r halternatives
    obtain rfl := Option.some.inj hread
    exact separated_fit (fun _ _ _ => ih) halternatives

theorem joined_fits {s r : List Char} {left all : Complex} (hleft : left.Fits maxNesting)
    (h : Yields (joined left s) all r) : all.Fits maxNesting := by
  rw [joined] at h
  split at h
  · obtain ⟨rfl, -⟩ := yields_ok.1 h
    exact hleft
  · rename_i c r₁ hs
    have hlength := length_trimStart s
    rw [hs, List.length_cons] at hlength
    split at h
    · obtain ⟨rfl, -⟩ := yields_ok.1 h
      exact hleft
    · split at h
      · rename_i k hk
        obtain ⟨right, r₂, hlt, hright, h⟩ := yields_bind.1 h
        obtain ⟨all', r₃, hle, hrest, h⟩ := yields_bind.1 h
        have hshorter : r₂.length < s.length := by
          have htrim := length_trimStart r₁
          omega
        have hjoined : Yields (joined (.join left k right) r₂) all' r₃ := ⟨hle, hrest⟩
        have hjoin : (Complex.join left k right).Fits maxNesting :=
          ⟨hleft, compound_fits ⟨hlt, hright⟩⟩
        obtain ⟨rfl, rfl⟩ := yields_ok.1 h
        exact joined_fits hjoin hjoined
      · split at h
        · obtain ⟨right, r₂, hlt, hright, h⟩ := yields_bind.1 h
          obtain ⟨all', r₃, hle, hrest, h⟩ := yields_bind.1 h
          have hshorter : r₂.length < s.length := by
            rw [List.length_cons] at hlt
            omega
          have hjoined : Yields (joined (.join left .descendant right) r₂) all' r₃ := ⟨hle, hrest⟩
          have hjoin : (Complex.join left .descendant right).Fits maxNesting :=
            ⟨hleft, compound_fits ⟨hlt, hright⟩⟩
          obtain ⟨rfl, rfl⟩ := yields_ok.1 h
          exact joined_fits hjoin hjoined
        · exact absurd h not_yields_error
termination_by s.length
decreasing_by all_goals exact hshorter

theorem complex_fits {all : Complex} (h : Yields (complex s) all r) : all.Fits maxNesting := by
  obtain ⟨first, r₁, hlt, hfirst, h⟩ := yields_bind.1 h
  obtain ⟨all', r₂, hle, hrest, h⟩ := yields_bind.1 h
  have hfit : (Complex.compound first).Fits maxNesting := compound_fits ⟨hlt, hfirst⟩
  obtain ⟨rfl, -⟩ := yields_ok.1 h
  exact joined_fits hfit ⟨hle, hrest⟩

theorem selectors_fit {list : List Complex} (h : selectors s = .ok list) :
    list ≠ [] ∧ ∀ c ∈ list, c.Fits maxNesting := by
  obtain ⟨⟨list', r, hlt⟩, hlist, h⟩ := bind_eq_ok.1 h
  have hfit := separated_fit (fun _ _ _ => complex_fits) ⟨hlt, hlist⟩
  dsimp only at h
  split at h
  · obtain rfl := Except.ok.inj h
    exact hfit
  · cases h

theorem exists_selectors_iff {list : List Complex} :
    (∃ s, selectors s = .ok list) ↔ list ≠ [] ∧ ∀ c ∈ list, c.Fits maxNesting :=
  ⟨fun ⟨_, h⟩ => selectors_fit h, fun ⟨hne, h⟩ => ⟨written list, selectors_written hne h⟩⟩

theorem written_inj {l₁ l₂ : List Complex} (h₁ : l₁ ≠ []) (h₁' : ∀ c ∈ l₁, c.Fits maxNesting)
    (h₂ : l₂ ≠ []) (h₂' : ∀ c ∈ l₂, c.Fits maxNesting) (h : written l₁ = written l₂) : l₁ = l₂ := by
  have hread := selectors_written h₁ h₁'
  rw [h, selectors_written h₂ h₂'] at hread
  exact (Except.ok.inj hread).symm

/-- A list of selectors that a text is read as is read again from what is written for it. -/
theorem selectors_written_of_selectors {list : List Complex} (h : selectors s = .ok list) :
    selectors (written list) = .ok list :=
  selectors_written (selectors_fit h).1 (selectors_fit h).2

theorem selectors_written_of_selectors_not :
    selectors "\\31[b=c i]>:not(*,:nth-child(-n+2))".toList = .ok
        [.join (.compound [.tag "31", .attribute ⟨"b", some (.exact, "c"), true⟩]) .child
          [.not [[.universal], [.child (.nth ⟨-1, 2⟩)]]]] ∧
      selectors (written
        [.join (.compound [.tag "31", .attribute ⟨"b", some (.exact, "c"), true⟩]) .child
          [.not [[.universal], [.child (.nth ⟨-1, 2⟩)]]]]) = .ok
        [.join (.compound [.tag "31", .attribute ⟨"b", some (.exact, "c"), true⟩]) .child
          [.not [[.universal], [.child (.nth ⟨-1, 2⟩)]]]] := by
  have hfits : ∀ c ∈ [Complex.join
      (.compound [.tag "31", .attribute ⟨"b", some (.exact, "c"), true⟩]) .child
      [.not [[.universal], [.child (.nth ⟨-1, 2⟩)]]]], c.Fits maxNesting := by decide
  have hwritten :
      (selectors "\\31[b=c i]>:not(*,:nth-child(-n+2))".toList).toOption.map written =
        some (written
          [.join (.compound [.tag "31", .attribute ⟨"b", some (.exact, "c"), true⟩]) .child
            [.not [[.universal], [.child (.nth ⟨-1, 2⟩)]]]]) := by decide +kernel
  obtain ⟨list, hlist, hwritten⟩ := Option.map_eq_some_iff.1 hwritten
  have h := toOption_eq_some.1 hlist
  rw [written_inj (selectors_fit h).1 (selectors_fit h).2 (by simp) hfits hwritten] at h
  exact ⟨h, selectors_written_of_selectors h⟩

end MarkupSplice.Css
