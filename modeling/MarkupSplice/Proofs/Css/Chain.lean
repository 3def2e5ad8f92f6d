import MarkupSplice.Css.Selector
import MarkupSplice.Proofs.Markup.Subtree

/-!
# What a selector means

A complex selector is satisfied by a chain of nodes, one for each compound, in
which neighbours are related as the combinator between them says. The search
from the right with all its candidates finds a chain whenever there is one
(`Complex.accepts_iff`), so a list of selectors selects the ends of the chains
(`mem_select_iff`).
-/
namespace MarkupSplice

namespace Document

variable {d : Document} {a b : Nat}

def Precedes (d : Document) (a b : Nat) : Prop :=
  d.isElement a = true ∧ d.parent? a = d.parent? b ∧ a < b

theorem lt_size_of_isElement (h : d.isElement a = true) : a < d.size := by
  by_contra hnot
  have hnone : d.nodes[a]? = none := Array.getElem?_eq_none (Nat.le_of_not_lt hnot)
  simp [isElement, element?, hnone] at h

theorem isElement_of_element {e : Element} (h : d.element? a = some e) : d.isElement a = true := by
  rw [isElement, h]
  rfl

theorem mem_elements : a ∈ d.elements ↔ d.isElement a = true := by
  rw [elements, List.mem_filter, ids, List.mem_range]
  exact and_iff_right_of_imp lt_size_of_isElement

theorem mem_elementSiblings :
    a ∈ d.elementSiblings b ↔ d.isElement a = true ∧ d.parent? a = d.parent? b := by
  rw [elementSiblings, List.mem_filter, mem_childrenOf]
  constructor
  · intro h
    exact ⟨h.2, h.1.2⟩
  · intro h
    exact ⟨⟨lt_size_of_isElement h.1, h.2⟩, h.1⟩

theorem elementSiblings_sorted (d : Document) (b : Nat) :
    (d.elementSiblings b).Pairwise (· < ·) := (childrenOf_sorted d _).filter _

end Document

namespace Css

theorem getElem?_concat_eq_some {α : Type} {l : List α} {x y : α} {i : Nat} :
    (l ++ [x])[i]? = some y ↔ l[i]? = some y ∨ i = l.length ∧ x = y := by
  rcases Nat.lt_trichotomy i l.length with hlt | rfl | hgt
  · rw [List.getElem?_append_left hlt]
    exact ⟨Or.inl, fun h => h.resolve_right fun h => Nat.ne_of_lt hlt h.1⟩
  · simp
  · rw [List.getElem?_eq_none (by simp; omega), List.getElem?_eq_none (Nat.le_of_lt hgt)]
    simp [Nat.ne_of_gt hgt]

theorem takeWhile_bne_eq_filter {l : List Nat} {b : Nat} (hl : l.Pairwise (· < ·)) (hb : b ∈ l) :
    l.takeWhile (· != b) = l.filter (· < b) := by
  induction l with
  | nil => rfl
  | cons a l ih =>
    have hlater := (List.pairwise_cons.1 hl).1
    by_cases hab : a = b
    · subst hab
      have hnone : l.filter (· < a) = [] := by
        apply List.filter_eq_nil_iff.2
        intro c hc
        have hlt := hlater c hc
        simp only [decide_eq_true_eq]
        omega
      simp [hnone]
    · have hbl : b ∈ l := (List.mem_cons.1 hb).resolve_left fun h => hab h.symm
      have hlt := hlater b hbl
      simp [hab, hlt, ih (List.pairwise_cons.1 hl).2 hbl]

theorem getLast?_eq_some_of_sorted {l : List Nat} {a : Nat} (hl : l.Pairwise (· < ·)) :
    l.getLast? = some a ↔ a ∈ l ∧ ∀ c ∈ l, c ≤ a := by
  induction l using List.reverseRecOn with
  | nil => simp
  | append_singleton l b _ =>
    have hbefore : ∀ c ∈ l, c < b := fun c hc =>
      (List.pairwise_append.1 hl).2.2 c hc b List.mem_cons_self
    rw [List.getLast?_concat, Option.some_inj]
    constructor
    · intro hba
      subst hba
      refine ⟨by simp, fun c hc => ?_⟩
      rcases List.mem_append.1 hc with hc | hc
      · exact Nat.le_of_lt (hbefore c hc)
      · exact Nat.le_of_eq (List.mem_singleton.1 hc)
    · intro h
      rcases List.mem_append.1 h.1 with ha | ha
      · have hlt := hbefore a ha
        have hle := h.2 b (by simp)
        omega
      · exact (List.mem_singleton.1 ha).symm

/-- How `a` on the left of a combinator stands to `b` on its right. -/
def Combinator.Relates (d : Document) (a b : Nat) : Combinator → Prop
  | .descendant => d.Within b a
  | .child => d.parent? b = some a
  | .next => d.Precedes a b ∧ ∀ c, d.Precedes c b → c ≤ a
  | .subsequent => d.Precedes a b

section Combinators

variable {d : Document} {a b : Nat}

theorem precedingSiblings_eq (hb : d.isElement b = true) :
    precedingSiblings d b = (d.elementSiblings b).filter (· < b) :=
  takeWhile_bne_eq_filter (d.elementSiblings_sorted b) (Document.mem_elementSiblings.2 ⟨hb, rfl⟩)

theorem mem_precedingSiblings (hb : d.isElement b = true) :
    a ∈ precedingSiblings d b ↔ d.Precedes a b := by
  rw [precedingSiblings_eq hb, List.mem_filter, Document.mem_elementSiblings, decide_eq_true_iff,
    and_assoc]
  rfl

theorem precedingSiblings_sorted (hb : d.isElement b = true) :
    (precedingSiblings d b).Pairwise (· < ·) := by
  rw [precedingSiblings_eq hb]
  exact (d.elementSiblings_sorted b).filter _

end Combinators

variable {f : Flavor} {text : String}

theorem Combinator.mem_candidates {a b : Nat} (hb : (Document.parse f text).isElement b = true)
    (k : Combinator) :
    a ∈ k.candidates (Document.parse f text) b ↔ k.Relates (Document.parse f text) a b := by
  cases k with
  | descendant => exact Document.mem_ancestors_iff
  | child => exact Option.mem_toList
  | subsequent => exact mem_precedingSiblings hb
  | next =>
    rw [candidates, Option.mem_toList, getLast?_eq_some_of_sorted (precedingSiblings_sorted hb)]
    simp only [mem_precedingSiblings hb]
    rfl

namespace Complex

def compounds : Complex → List Compound
  | .compound c => [c]
  | .join left _ right => left.compounds ++ [right]

def combinators : Complex → List Combinator
  | .compound _ => []
  | .join left k _ => left.combinators ++ [k]

/-- One node for each compound, and neighbours related by the combinator between them. -/
structure Witness (d : Document) (c : Complex) (es : List Nat) : Prop where
  length : es.length = c.compounds.length
  matched : ∀ (i : Nat) (p : Compound) (e : Nat), c.compounds[i]? = some p → es[i]? = some e →
    p.accepts d e = true
  related : ∀ (i : Nat) (k : Combinator) (a b : Nat), c.combinators[i]? = some k →
    es[i]? = some a → es[i + 1]? = some b → k.Relates d a b

variable {d : Document} {left : Complex} {k : Combinator} {right p : Compound}
  {es : List Nat} {e b : Nat}

theorem length_compounds (c : Complex) : c.compounds.length = c.combinators.length + 1 := by
  induction c with
  | compound c => rfl
  | join left k right ih => simp [compounds, combinators, ih]

theorem witness_compound : (compound p).Witness d es ↔ ∃ e, es = [e] ∧ p.accepts d e = true := by
  constructor
  · intro h
    obtain ⟨e, rfl⟩ := List.length_eq_one_iff.1 h.length
    exact ⟨e, rfl, h.matched 0 p e rfl rfl⟩
  · intro h
    obtain ⟨e, rfl, haccepts⟩ := h
    refine ⟨rfl, fun i p' e' hp he => ?_, fun i k a b hk => ?_⟩
    · cases i with
      | zero =>
        cases hp
        cases he
        exact haccepts
      | succ i => cases hp
    · cases hk

theorem Witness.exists_last {c : Complex} (h : c.Witness d es) :
    ∃ a, es[c.combinators.length]? = some a ∧ es.getLast? = some a := by
  have hlength := h.length.trans c.length_compounds
  have hlt : c.combinators.length < es.length := by omega
  refine ⟨es[c.combinators.length], List.getElem?_eq_getElem hlt, ?_⟩
  rw [List.getLast?_eq_getElem?, hlength, Nat.add_sub_cancel, List.getElem?_eq_getElem hlt]

theorem Witness.of_join (h : (join left k right).Witness d (es ++ [b])) :
    left.Witness d es ∧ right.accepts d b = true ∧
      ∀ a, es.getLast? = some a → k.Relates d a b := by
  have hlength : es.length = left.compounds.length := by
    have hboth := h.length
    simp only [compounds, List.length_append, List.length_cons, List.length_nil] at hboth
    omega
  have hnext : left.combinators.length + 1 = es.length := by
    rw [hlength, length_compounds]
  have hleft : left.Witness d es := by
    refine ⟨hlength, fun i p e hp he => ?_, fun i k a b hk ha hb => ?_⟩
    · exact h.matched i p e (getElem?_concat_eq_some.2 (.inl hp))
        (getElem?_concat_eq_some.2 (.inl he))
    · exact h.related i k a b (getElem?_concat_eq_some.2 (.inl hk))
        (getElem?_concat_eq_some.2 (.inl ha)) (getElem?_concat_eq_some.2 (.inl hb))
  refine ⟨hleft, ?_, fun a ha => ?_⟩
  · exact h.matched es.length right b (getElem?_concat_eq_some.2 (.inr ⟨hlength, rfl⟩))
      (getElem?_concat_eq_some.2 (.inr ⟨rfl, rfl⟩))
  · obtain ⟨a', hindex, hlast⟩ := hleft.exists_last
    obtain rfl := Option.some.inj (ha.symm.trans hlast)
    exact h.related left.combinators.length k a b (getElem?_concat_eq_some.2 (.inr ⟨rfl, rfl⟩))
      (getElem?_concat_eq_some.2 (.inl hindex)) (getElem?_concat_eq_some.2 (.inr ⟨hnext, rfl⟩))

theorem Witness.join (h : left.Witness d es) (hright : right.accepts d b = true)
    (hrelates : ∀ a, es.getLast? = some a → k.Relates d a b) :
    (join left k right).Witness d (es ++ [b]) := by
  obtain ⟨a, hindex, hlast⟩ := h.exists_last
  have hlength := h.length
  have hcount := left.length_compounds
  refine ⟨by simp [compounds, hlength], fun i p e hp he => ?_, fun i k' x y hk hx hy => ?_⟩
  · rcases getElem?_concat_eq_some.1 hp with hp | ⟨hi, rfl⟩
    · have hlt := (List.getElem?_eq_some_iff.1 hp).1
      rw [List.getElem?_append_left (by omega)] at he
      exact h.matched i p e hp he
    · rcases getElem?_concat_eq_some.1 he with he | ⟨-, rfl⟩
      · have hlt := (List.getElem?_eq_some_iff.1 he).1
        omega
      · exact hright
  · have hlt : i < es.length := by
      have hi := (List.getElem?_eq_some_iff.1 hk).1
      simp only [combinators, List.length_append, List.length_cons, List.length_nil] at hi
      omega
    rw [List.getElem?_append_left hlt] at hx
    rcases getElem?_concat_eq_some.1 hk with hk | ⟨rfl, rfl⟩
    · have hi := (List.getElem?_eq_some_iff.1 hk).1
      rw [List.getElem?_append_left (by omega)] at hy
      exact h.related i k' x y hk hx hy
    · obtain rfl := Option.some.inj (hindex.symm.trans hx)
      rcases getElem?_concat_eq_some.1 hy with hy | ⟨-, rfl⟩
      · have hi := (List.getElem?_eq_some_iff.1 hy).1
        omega
      · exact hrelates _ hlast

theorem isElement_of_accepts (h : Compound.accepts d p e = true) : d.isElement e = true := by
  rw [Compound.accepts, Option.any_eq_true] at h
  obtain ⟨x, hx, -⟩ := h
  rw [Document.isElement, hx]
  rfl

theorem accepts_iff (c : Complex) (id : Nat) :
    c.accepts (Document.parse f text) id = true ↔
      ∃ es, es.getLast? = some id ∧ c.Witness (Document.parse f text) es := by
  induction c generalizing id with
  | compound p =>
    simp only [witness_compound]
    constructor
    · intro h
      exact ⟨[id], rfl, id, rfl, h⟩
    · intro h
      obtain ⟨es, hlast, e, rfl, haccepts⟩ := h
      obtain rfl := Option.some.inj hlast
      exact haccepts
  | join left k right ih =>
    rw [accepts, Bool.and_eq_true, List.any_eq_true]
    constructor
    · intro h
      obtain ⟨haccepts, a, ha, hleft⟩ := h
      obtain ⟨es, hlast, hwitness⟩ := (ih a).1 hleft
      have hrelates := (k.mem_candidates (isElement_of_accepts haccepts)).1 ha
      refine ⟨es ++ [id], List.getLast?_concat, hwitness.join haccepts ?_⟩
      intro a' ha'
      obtain rfl := Option.some.inj (hlast.symm.trans ha')
      exact hrelates
    · intro h
      obtain ⟨es, hlast, hwitness⟩ := h
      obtain ⟨es, rfl⟩ := List.getLast?_eq_some_iff.1 hlast
      obtain ⟨hleft, haccepts, hrelates⟩ := hwitness.of_join
      obtain ⟨a, -, ha⟩ := hleft.exists_last
      refine ⟨haccepts, a, ?_, (ih a).2 ⟨es, ha, hleft⟩⟩
      exact (k.mem_candidates (isElement_of_accepts haccepts)).2 (hrelates a ha)

theorem isElement_of_accepts_complex {c : Complex} (h : c.accepts d e = true) :
    d.isElement e = true := by
  cases c with
  | compound p => exact isElement_of_accepts h
  | join left k right =>
    rw [accepts, Bool.and_eq_true] at h
    exact isElement_of_accepts h.1

end Complex

theorem mem_select_iff {selectors : List Complex} {e : Nat} :
    e ∈ select (Document.parse f text) selectors ↔
      ∃ c ∈ selectors, ∃ es, es.getLast? = some e ∧ c.Witness (Document.parse f text) es := by
  simp only [← Complex.accepts_iff]
  rw [select, List.mem_filter, List.any_eq_true]
  constructor
  · intro h
    exact h.2
  · intro h
    obtain ⟨c, hc, haccepts⟩ := h
    have helement := Complex.isElement_of_accepts_complex haccepts
    exact ⟨Document.mem_elements.2 helement, c, hc, haccepts⟩

/-- What is selected are the ends of the chains, in the order of the text. -/
theorem select_parse (f : Flavor) (text : String) (selectors : List Complex) :
    (select (Document.parse f text) selectors).Pairwise (· < ·) ∧
      ∀ e, e ∈ select (Document.parse f text) selectors ↔
        ∃ c ∈ selectors, ∃ es, es.getLast? = some e ∧ c.Witness (Document.parse f text) es := by
  refine ⟨?_, fun e => mem_select_iff⟩
  rw [select, Document.elements, Document.ids]
  exact (List.pairwise_lt_range.filter _).filter _

end Css
end MarkupSplice
