import MarkupSplice.Proofs.Selector.Name
import MarkupSplice.Proofs.XPath.Filter

/-!
# Queries that both languages write

A sequence of compounds, each a tag name or a star with tests for the presence
of attributes, joined by descendant and child combinators. Such a query has a
text in CSS and one in XPath (`PlainQuery.css`, `PlainQuery.xpath`), and each
text is read as what the query stands for in that language
(`PlainQuery.selectors_css`, `PlainQuery.parse_xpath`).
-/
namespace MarkupSplice
open Markup Text

def isGap (c : Char) : Bool := isBlank c && c.toNat < 0x80

/-- How two neighbouring compounds are joined, with the white space that CSS writes. -/
inductive Link
  | descendant (gap : List Char) (ne_nil : gap ≠ []) (blank : ∀ c ∈ gap, isGap c = true)
  | child (before after : List Char) (blank : ∀ c ∈ before ++ after, isGap c = true)

namespace Link

def css : Link → List Char
  | .descendant gap _ _ => gap
  | .child before after _ => before ++ '>' :: after

def xpath : Link → List Char
  | .descendant _ _ _ => ['/', '/']
  | .child _ _ _ => ['/']

def combinator : Link → Css.Combinator
  | .descendant _ _ _ => .descendant
  | .child _ _ _ => .child

def token : Link → XPath.Token
  | .descendant _ _ _ => .doubleSlash
  | .child _ _ _ => .slash

def steps : Link → List XPath.Step
  | .descendant _ _ _ => [.anywhere]
  | .child _ _ _ => []

end Link

namespace PlainName

def cssTest (a : PlainName) : List Char := '[' :: (a.chars ++ [']'])

def xpathTest (a : PlainName) : List Char := '[' :: '@' :: (a.chars ++ [']'])

def testTokens (a : PlainName) : List XPath.Token :=
  [.leftBracket, .at, .name a.text, .rightBracket]

end PlainName

structure PlainCompound where
  tag : Option PlainName
  attributes : List PlainName

namespace PlainCompound

def front (c : PlainCompound) : List Char := c.tag.elim ['*'] PlainName.chars

def css (c : PlainCompound) : List Char :=
  c.front ++ c.attributes.flatMap PlainName.cssTest

def xpath (c : PlainCompound) : List Char :=
  c.front ++ c.attributes.flatMap PlainName.xpathTest

def compound (c : PlainCompound) : Css.Compound :=
  c.tag.elim .universal (fun n => .tag n.text) ::
    c.attributes.map fun a => .attribute ⟨a.text, none, false⟩

def tokens (c : PlainCompound) : List XPath.Token :=
  c.tag.elim .star (fun n => .name n.text) ::
    c.attributes.flatMap PlainName.testTokens

def test (c : PlainCompound) : XPath.NodeTest := c.tag.elim .any fun n => .name n.text

def step (c : PlainCompound) : XPath.Step :=
  .mk .child c.test (c.attributes.map fun a => XPath.attributesNamed a.text)

end PlainCompound

structure PlainQuery where
  first : PlainCompound
  rest : List (Link × PlainCompound)

namespace PlainQuery

def css (q : PlainQuery) : String :=
  String.ofList (q.first.css ++ q.rest.flatMap fun p => p.1.css ++ p.2.css)

def xpath (q : PlainQuery) : String :=
  String.ofList ('/' :: '/' :: (q.first.xpath ++ q.rest.flatMap fun p => p.1.xpath ++ p.2.xpath))

def complex (q : PlainQuery) : Css.Complex :=
  q.rest.foldl (fun left p => .join left p.1.combinator p.2.compound) (.compound q.first.compound)

def steps (q : PlainQuery) : List XPath.Step :=
  .anywhere :: q.first.step :: q.rest.flatMap fun p => p.1.steps ++ [p.2.step]

end PlainQuery

namespace Selector

theorem parse_typed {kind : List Char} (hne : kind ≠ []) (h : ':' ∉ kind) (v : String) :
    parse (String.ofList (kind ++ [':']) ++ v) =
      match String.ofList kind with
      | "id" => .ok (.id v)
      | "css" => parseCss v
      | "xpath" => parseXPath v
      | kind => .error (.unknownType kind (suggest kind)) := by
  have hcut : cutAt [':'] (String.ofList (kind ++ [':']) ++ v).toList = some (kind, v.toList) := by
    rw [String.toList_append, String.toList_ofList, List.append_assoc]
    exact cutAt_char h v.toList
  have hempty : (String.ofList (kind ++ [':']) ++ v).isEmpty = false := by simp
  rw [parse, hempty, if_neg Bool.false_ne_true]
  split
  · rename_i hnone
    cases hcut.symm.trans hnone
  · rename_i hnil
    cases hcut.symm.trans hnil
    exact absurd rfl hne
  · rename_i hsome
    cases hcut.symm.trans hsome
    rewrite [String.ofList_toList]
    rfl

theorem parse_id (v : String) : parse ("id:" ++ v) = .ok (.id v) :=
  parse_typed (List.cons_ne_nil 'i' ['d']) (by decide) v

theorem parse_css (v : String) : parse ("css:" ++ v) = parseCss v :=
  parse_typed (List.cons_ne_nil 'c' ['s', 's']) (by decide) v

theorem parse_xpath (v : String) : parse ("xpath:" ++ v) = parseXPath v :=
  parse_typed (List.cons_ne_nil 'x' ['p', 'a', 't', 'h']) (by decide) v

end Selector

section Css

variable {c : Char} {r : List Char}

theorem isBlank_of_isGap (h : isGap c = true) : isBlank c = true := by
  rw [isGap, Bool.and_eq_true] at h
  exact h.1

theorem mem_of_isGap (h : isGap c = true) : c ∈ ['\t', '\n', '\x0b', '\x0c', '\r', ' '] := by
  have hmem : ∀ c' ∈ ['\t', '\n', '\x0b', '\x0c', '\r', ' '], c.toNat = c'.toNat →
      c ∈ ['\t', '\n', '\x0b', '\x0c', '\r', ' '] := by
    intro c' hc' hnat
    rwa [Char.toNat_inj.1 hnat]
  simp [isGap, isBlank, inRanges, blankRanges] at h
  have hcases : c.toNat = 9 ∨ c.toNat = 10 ∨ c.toNat = 11 ∨ c.toNat = 12 ∨ c.toNat = 13 ∨
      c.toNat = 32 := by omega
  rcases hcases with h | h | h | h | h | h
  · exact hmem '\t' (by decide) h
  · exact hmem '\n' (by decide) h
  · exact hmem '\x0b' (by decide) h
  · exact hmem '\x0c' (by decide) h
  · exact hmem '\r' (by decide) h
  · exact hmem ' ' (by decide) h

def EndsCompound (r : List Char) : Prop := ∀ c ∈ r.head?, isGap c = true ∨ c = '>'

theorem EndsCompound.mem (hr : EndsCompound (c :: r)) :
    c ∈ ['\t', '\n', '\x0b', '\x0c', '\r', ' ', '>'] := by
  rcases hr c rfl with h | rfl
  · exact List.mem_append_left ['>'] (mem_of_isGap h)
  · decide

theorem EndsCompound.endsName (hr : EndsCompound r) : Css.EndsName r := by
  intro c hc
  obtain ⟨r, rfl⟩ := List.head?_eq_some_iff.1 hc
  have hall : ['\t', '\n', '\x0b', '\x0c', '\r', ' ', '>'].all
      (fun c => !Css.isNameChar c && c != '\\') = true := by decide
  have hc := List.all_eq_true.1 hall c hr.mem
  rwa [Bool.and_eq_true, Bool.not_eq_true', bne_iff_ne] at hc

theorem EndsCompound.component_eq_none {inner : Option (Css.Reader (List Css.Compound))}
    (hr : EndsCompound r) : Css.component? inner r = none := by
  cases r with
  | nil => rfl
  | cons c r =>
    have hc := hr.mem
    simp only [List.mem_cons, List.not_mem_nil, or_false] at hc
    rcases hc with rfl | rfl | rfl | rfl | rfl | rfl | rfl <;> rfl

theorem Link.endsCompound (k : Link) (r : List Char) : EndsCompound (k.css ++ r) := by
  intro c hc
  cases k with
  | descendant gap hne hblank =>
    obtain ⟨b, gap, rfl⟩ := List.exists_cons_of_ne_nil hne
    obtain rfl := Option.some.inj hc
    exact Or.inl (hblank _ List.mem_cons_self)
  | child before after hblank =>
    cases before with
    | nil =>
      obtain rfl := Option.some.inj hc
      exact Or.inr rfl
    | cons b before =>
      obtain rfl := Option.some.inj hc
      exact Or.inl (hblank _ List.mem_cons_self)

end Css

namespace PlainCompound

variable {r : List Char}

theorem components_css {inner : Option (Css.Reader (List Css.Compound))} (as : List PlainName)
    (hr : EndsCompound r) :
    Yields (Css.components inner (as.flatMap PlainName.cssTest ++ r))
      (as.map fun a => .attribute ⟨a.text, none, false⟩) r := by
  induction as with
  | nil => exact Css.components_nil hr.component_eq_none
  | cons a as ih =>
    rw [List.flatMap_cons, List.map_cons, List.append_assoc, PlainName.cssTest, List.cons_append,
      List.append_assoc]
    obtain ⟨read, hc, hread⟩ := Css.component_bracket inner
      (Css.attributeTest_present a.isName (_ ++ r))
    exact Css.components_cons hc hread ih

theorem endsName_brackets (as : List PlainName) (hr : EndsCompound r) :
    Css.EndsName (as.flatMap PlainName.cssTest ++ r) := by
  cases as with
  | nil => exact hr.endsName
  | cons a as => exact Css.endsName_of_head (by decide) (by decide) _

theorem front_ne_nil (c : PlainCompound) : c.front ≠ [] := by
  cases h : c.tag <;> simp [front, h, PlainName.chars]

theorem length_lt (c : PlainCompound) (r : List Char) : r.length < (c.css ++ r).length := by
  have hpos := List.length_pos_iff.2 c.front_ne_nil
  simp only [css, List.length_append]
  omega

theorem compound_css (c : PlainCompound) (hr : EndsCompound r) (n : Nat) :
    Yields (Css.compound n (c.css ++ r)) c.compound r := by
  have hlt := c.length_lt r
  rw [css, List.append_assoc] at hlt ⊢
  rw [compound]
  cases htag : c.tag with
  | none =>
    rw [front, htag] at hlt ⊢
    exact Css.compound_append (Css.leading_star _) (fun _ => components_css c.attributes hr) hlt n
  | some tag =>
    rw [front, htag] at hlt ⊢
    have hread := Css.leading_name (Css.isNameStart_of_isPlainStart tag.start) tag.isName.chars
      (endsName_brackets c.attributes hr)
    exact Css.compound_append hread (fun _ => components_css c.attributes hr) hlt n

theorem exists_css_eq (c : PlainCompound) (r : List Char) :
    ∃ first s, c.css ++ r = first :: s ∧ (first = '*' ∨ isPlainStart first = true) := by
  rw [css, front]
  cases htag : c.tag with
  | none => exact ⟨'*', _, rfl, Or.inl rfl⟩
  | some tag => exact ⟨tag.first, _, rfl, Or.inr tag.start⟩

theorem isBlank_head (c : PlainCompound) (r : List Char) :
    ∀ b ∈ (c.css ++ r).head?, isBlank b = false := by
  obtain ⟨first, s, hs, hfirst⟩ := c.exists_css_eq r
  intro b hb
  rw [hs] at hb
  obtain rfl := Option.some.inj hb
  rcases hfirst with rfl | hstart
  · decide
  · exact isBlank_of_isPlainStart hstart

end PlainCompound

theorem not_combinator_of_isPlainStart {c : Char} (h : c = '*' ∨ isPlainStart c = true) :
    ¬(c = ',' ∨ c = ')') ∧ Css.combinator? c = none := by
  rcases h with rfl | h
  · decide
  · have hne : ∀ c', isPlainStart c' = false → c ≠ c' := by
      rintro c' hc' rfl
      cases hc'.symm.trans h
    refine ⟨not_or.2 ⟨hne _ (by decide), hne _ (by decide)⟩, ?_⟩
    exact Css.combinator?.eq_4 c (hne _ (by decide)) (hne _ (by decide)) (hne _ (by decide))

theorem Link.joined_css {left all : Css.Complex} {r : List Char} (k : Link) (c : PlainCompound)
    (hr : EndsCompound r)
    (hrest : Yields (Css.joined (.join left k.combinator c.compound) r) all []) :
    Yields (Css.joined left (k.css ++ (c.css ++ r))) all [] := by
  have hright := c.compound_css hr Css.maxNesting
  cases k with
  | descendant gap hne hblank =>
    obtain ⟨first, s, hs, hfirst⟩ := c.exists_css_eq r
    obtain ⟨hstop, hk⟩ := not_combinator_of_isPlainStart hfirst
    have hhead := c.isBlank_head r
    rw [hs] at hright hhead
    rw [Link.css, hs]
    exact Css.joined_blank (fun b hb => isBlank_of_isGap (hblank b hb)) hne (hhead first rfl) hstop
      hk hright hrest
  | child before after hblank =>
    rw [Link.css, List.append_assoc, List.cons_append]
    exact Css.joined_combinator rfl
      (fun b hb => isBlank_of_isGap (hblank b (List.mem_append_left _ hb)))
      (fun b hb => isBlank_of_isGap (hblank b (List.mem_append_right _ hb)))
      (c.isBlank_head r) hright hrest

namespace PlainQuery

theorem endsCompound_rest (rest : List (Link × PlainCompound)) :
    EndsCompound (rest.flatMap fun p => p.1.css ++ p.2.css) := by
  cases rest with
  | nil => exact fun _ hc => nomatch hc
  | cons p rest =>
    rw [List.flatMap_cons, List.append_assoc]
    exact p.1.endsCompound _

theorem joined_rest (rest : List (Link × PlainCompound)) (left : Css.Complex) :
    Yields (Css.joined left (rest.flatMap fun p => p.1.css ++ p.2.css))
      (rest.foldl (fun left p => .join left p.1.combinator p.2.compound) left) [] := by
  induction rest generalizing left with
  | nil => exact Css.joined_nil left
  | cons p rest ih =>
    rw [List.flatMap_cons, List.foldl_cons, List.append_assoc]
    exact p.1.joined_css p.2 (endsCompound_rest rest) (ih _)

theorem selectors_css (q : PlainQuery) : Css.selectors q.css.toList = .ok [q.complex] := by
  rw [css, String.toList_ofList]
  apply Css.selectors_complex (q.first.isBlank_head _)
  exact Css.complex_append (q.first.compound_css (endsCompound_rest q.rest) _)
    (joined_rest q.rest _)

end PlainQuery

namespace PlainCompound

variable {r : List Char} {ts : List XPath.Token}

theorem tokenized_brackets (as : List PlainName) (h : XPath.Tokenized r ts) :
    XPath.Tokenized (as.flatMap PlainName.xpathTest ++ r)
      (as.flatMap PlainName.testTokens ++ ts) := by
  induction as with
  | nil => exact h
  | cons a as ih =>
    rw [List.flatMap_cons, List.flatMap_cons, List.append_assoc, List.append_assoc,
      PlainName.xpathTest, List.cons_append, List.cons_append, List.append_assoc]
    have hclose := XPath.tokenized_cons (c := ']') (by decide) ⟨_, rfl⟩ ih
    have hname := a.tokenized (XPath.endsName_of_head (by decide) (by decide) _) hclose
    exact XPath.tokenized_cons (by decide) ⟨_, rfl⟩
      (XPath.tokenized_cons (by decide) ⟨_, rfl⟩ hname)

theorem xpath_head (c : PlainCompound) (r : List Char) : (c.xpath ++ r).head? ≠ some '/' := by
  rw [xpath, front]
  cases htag : c.tag with
  | none => exact fun h => absurd (Option.some.inj h) (by decide)
  | some tag =>
    intro h
    have hstart := tag.start
    rw [Option.some.inj h] at hstart
    exact absurd hstart (by decide)

theorem tokenized_xpath (c : PlainCompound) (hr : ∀ b ∈ r.head?, b = '/')
    (h : XPath.Tokenized r ts) : XPath.Tokenized (c.xpath ++ r) (c.tokens ++ ts) := by
  have hbrackets := tokenized_brackets c.attributes h
  rw [xpath, tokens, front, List.append_assoc, List.cons_append]
  cases htag : c.tag with
  | none => exact XPath.tokenized_cons (by decide) ⟨_, rfl⟩ hbrackets
  | some tag =>
    refine tag.tokenized ?_ hbrackets
    intro b hb
    cases has : c.attributes with
    | nil =>
      rw [has] at hb
      obtain rfl := hr b hb
      decide
    | cons a as =>
      rw [has] at hb
      obtain rfl := Option.some.inj hb
      decide

theorem expression_attribute (n : Nat) (name : String) (ts : List XPath.Token) :
    Yields (XPath.expression (n + 1) (.at :: .name name :: .rightBracket :: ts))
      (XPath.attributesNamed name) (.rightBracket :: ts) := by
  have hpath : Yields (XPath.path (some (XPath.expression n)) (.at :: .name name :: _))
      (XPath.attributesNamed name) (.rightBracket :: ts) :=
    XPath.path_attribute name (XPath.endsSteps_of_head .rightBracket ⟨nofun, nofun⟩ ts) nofun nofun
  exact XPath.expressionOver_single (XPath.negation_of_path hpath nofun nofun)
    (XPath.closes_rightBracket ts)

theorem predicates_brackets (n : Nat) (as : List PlainName)
    (hts : ts.head? ≠ some .leftBracket) :
    Yields (XPath.predicates (some (XPath.expression (n + 1)))
      (as.flatMap PlainName.testTokens ++ ts))
      (as.map fun a => XPath.attributesNamed a.text) ts := by
  induction as with
  | nil => exact XPath.predicates_nil hts
  | cons a as ih => exact XPath.predicates_cons (expression_attribute n a.text _) ih

def EndsStep (ts : List XPath.Token) : Prop := ∀ t ∈ ts.head?, t = .slash ∨ t = .doubleSlash

theorem step_tokens (n : Nat) (c : PlainCompound) (hts : EndsStep ts) :
    Yields (XPath.step (some (XPath.expression (n + 1))) (c.tokens ++ ts)) c.step ts := by
  have hnot : ∀ t, t ≠ .slash → t ≠ .doubleSlash → ts.head? ≠ some t := by
    intro t hslash hdouble heq
    rcases hts t heq with rfl | rfl
    · exact hslash rfl
    · exact hdouble rfl
  have hpredicates := predicates_brackets n c.attributes (hnot .leftBracket nofun nofun)
  rw [tokens, step, test, List.cons_append]
  cases htag : c.tag with
  | none => exact XPath.step_star hpredicates
  | some tag =>
    have hhead : ∀ t : XPath.Token, t ≠ .leftBracket → t ≠ .slash → t ≠ .doubleSlash →
        (c.attributes.flatMap PlainName.testTokens ++ ts).head? ≠ some t := by
      intro t hbracket hslash hdouble
      cases has : c.attributes with
      | nil => exact hnot t hslash hdouble
      | cons a as => exact fun heq => hbracket (Option.some.inj heq).symm
    exact XPath.step_name (hhead _ nofun nofun nofun) (hhead _ nofun nofun nofun) hpredicates

end PlainCompound

namespace PlainQuery

def tokens (rest : List (Link × PlainCompound)) : List XPath.Token :=
  rest.flatMap fun p => p.1.token :: p.2.tokens

theorem tokenized_rest (rest : List (Link × PlainCompound)) :
    XPath.Tokenized (rest.flatMap fun p => p.1.xpath ++ p.2.xpath) (tokens rest) ∧
      ∀ b ∈ (rest.flatMap fun p => p.1.xpath ++ p.2.xpath).head?, b = '/' := by
  induction rest with
  | nil => exact ⟨XPath.tokenized_nil, nofun⟩
  | cons p rest ih =>
    obtain ⟨k, c⟩ := p
    have hcompound := c.tokenized_xpath ih.2 ih.1
    rw [tokens, List.flatMap_cons, List.flatMap_cons, ← tokens, List.append_assoc,
      List.cons_append]
    cases k with
    | descendant gap hne hblank =>
      exact ⟨XPath.tokenized_cons (by decide) (XPath.readToken_doubleSlash _) hcompound,
        fun b hb => (Option.some.inj hb).symm⟩
    | child before after hblank =>
      refine ⟨XPath.tokenized_cons (by decide) (XPath.readToken_slash ?_) hcompound,
        fun b hb => (Option.some.inj hb).symm⟩
      exact c.xpath_head _

theorem endsStep_tokens (rest : List (Link × PlainCompound)) :
    PlainCompound.EndsStep (tokens rest) := by
  cases rest with
  | nil => exact nofun
  | cons p rest =>
    intro t ht
    obtain rfl := Option.some.inj ht
    cases p.1 with
    | descendant gap hne hblank => exact Or.inr rfl
    | child before after hblank => exact Or.inl rfl

theorem moreSteps_tokens (n : Nat) (rest : List (Link × PlainCompound)) :
    Yields (XPath.moreSteps (some (XPath.expression (n + 1))) (tokens rest))
      (rest.flatMap fun p => p.1.steps ++ [p.2.step]) [] := by
  induction rest with
  | nil => exact XPath.moreSteps_nil nofun
  | cons p rest ih =>
    obtain ⟨k, c⟩ := p
    have hstep := c.step_tokens n (endsStep_tokens rest)
    cases k with
    | descendant gap hne hblank => exact XPath.moreSteps_doubleSlash hstep ih
    | child before after hblank => exact XPath.moreSteps_slash hstep ih

theorem parse_xpath (q : PlainQuery) : XPath.parse q.xpath = .ok (.absolute q.steps) := by
  obtain ⟨hrest, hhead⟩ := tokenized_rest q.rest
  have htokens := XPath.tokenized_cons (by decide) (XPath.readToken_doubleSlash _)
    (q.first.tokenized_xpath hhead hrest)
  rw [xpath]
  apply XPath.parse_of_tokenized (by rwa [String.toList_ofList])
  apply XPath.read_of_path
  · exact XPath.path_doubleSlash (XPath.steps_append
      (q.first.step_tokens _ (endsStep_tokens q.rest)) (moreSteps_tokens _ q.rest))
  · exact nofun

end PlainQuery
end MarkupSplice
