import MarkupSplice.Proofs.Selector.Query
import MarkupSplice.Proofs.XPath.Descent

/-!
# The common part of both query languages

CSS goes from an element to what it stands in, XPath from the root to what
stands in it. On the queries that both languages write the points that a path
reaches are the elements that the selector accepts, for the compound at the end
of a query (`PlainCompound.finds`) and for one more of its links after the other
(`Reaches.links`), and so both select the same elements (`select_common`).
-/
namespace MarkupSplice

namespace Element

variable {f : Flavor} {name : String}

theorem map_snd_findAttribute (f : Flavor) (e : Element) (name : String) :
    (e.findAttribute f name).map Prod.snd =
      e.attributes.find? fun a => f.namesMatch a.name name := by
  have hfst : ((e.attributes.zipIdx).map Prod.fst).find? (fun a => f.namesMatch a.name name) =
      (e.attributes.zipIdx.find? fun a => f.namesMatch a.1.name name).map Prod.fst :=
    List.find?_map
  rw [List.zipIdx_map_fst] at hfst
  rw [hfst, findAttribute, Option.map_map]
  rfl

theorem isSome_findAttribute (f : Flavor) (e : Element) (name : String) :
    (e.findAttribute f name).isSome = e.attributes.any fun a => f.namesMatch a.name name := by
  rw [← Option.isSome_map (f := Prod.snd), map_snd_findAttribute, Bool.eq_iff_iff,
    List.find?_isSome, List.any_eq_true]

end Element

namespace PlainCompound

variable {d : Document}

theorem allAccept_eq_all (id : Nat) (e : Element) (cs : Css.Compound) :
    Css.allAccept d id e cs = cs.all (Css.Component.accepts d id e) := by
  induction cs with
  | nil => rfl
  | cons c cs ih => rw [Css.allAccept, List.all_cons, ih]

theorem accepts_present (id : Nat) (e : Element) (name : String) :
    Css.Component.accepts d id e (.attribute ⟨name, none, false⟩) =
      e.attributes.any fun a => d.flavor.namesMatch a.name name := by
  rw [← Element.isSome_findAttribute, Css.Component.accepts, Css.attributeValue]
  cases e.findAttribute d.flavor name <;> rfl

theorem accepts_compound (c : PlainCompound) (id : Nat) :
    Css.Compound.accepts d c.compound id = (c.test.accepts d .child (.node id) &&
      c.attributes.all fun a => XPath.hasAttribute d a.text (.node id)) := by
  simp only [XPath.hasAttribute_node]
  rw [Css.Compound.accepts, compound, test]
  cases he : d.element? id with
  | none => cases c.tag <;> simp [XPath.NodeTest.accepts, Document.isElement, he]
  | some e =>
    have htests : (c.attributes.map fun a => Css.Component.attribute ⟨a.text, none, false⟩).all
        (Css.Component.accepts d id e) =
          c.attributes.all fun a => e.attributes.any fun a' =>
            d.flavor.namesMatch a'.name a.text := by
      rw [List.all_map]
      exact congrArg c.attributes.all (funext fun a => accepts_present id e a.text)
    rw [Option.any_some, allAccept_eq_all, List.all_cons, htests]
    cases c.tag <;>
      simp [XPath.NodeTest.accepts, Document.isElement, he, Css.Component.accepts]

theorem finds (c : PlainCompound) : XPath.Finds d c.step (Css.Compound.accepts d c.compound) := by
  have hfilters := XPath.filters_map c.attributes fun a _ => XPath.decides_attributesNamed d a.text
  apply XPath.finds_child hfilters c.test c.accepts_compound
  intro id haccepts
  exact Document.lt_size_of_isElement (Css.Complex.isElement_of_accepts haccepts)

end PlainCompound

section Queries

open XPath

variable {f : Flavor} {text : String} {ss : List Step} {left : Css.Complex}

theorem XPath.Reaches.link (h : Reaches (Document.parse f text) ss
    (Css.Complex.accepts (Document.parse f text) left)) (k : Link) (c : PlainCompound) :
    Reaches (Document.parse f text) (ss ++ (k.steps ++ [c.step]))
      (Css.Complex.accepts (Document.parse f text) (.join left k.combinator c.compound)) := by
  cases k with
  | descendant gap hne hblank => exact h.descendant c.finds
  | child before after hblank =>
    have hany : ∀ (o : Option Nat) (p : Nat → Bool), o.any p = o.toList.any p := by
      intro o p
      cases o <;> simp
    have hchild := h.child c.finds
    simp only [hany] at hchild
    exact hchild

theorem XPath.Reaches.links (h : Reaches (Document.parse f text) ss
    (Css.Complex.accepts (Document.parse f text) left)) (rest : List (Link × PlainCompound)) :
    Reaches (Document.parse f text) (ss ++ rest.flatMap fun p => p.1.steps ++ [p.2.step])
      (Css.Complex.accepts (Document.parse f text)
        (rest.foldl (fun left p => .join left p.1.combinator p.2.compound) left)) := by
  induction rest generalizing ss left with
  | nil => rwa [List.flatMap_nil, List.append_nil]
  | cons p rest ih =>
    rw [List.flatMap_cons, ← List.append_assoc]
    exact ih (h.link p.1 p.2)

theorem PlainQuery.reaches (q : PlainQuery) : Reaches (Document.parse f text) q.steps
    (Css.Complex.accepts (Document.parse f text) q.complex) := by
  have hfirst : Reaches (Document.parse f text) [.anywhere, q.first.step]
      (Css.Complex.accepts (Document.parse f text) (.compound q.first.compound)) :=
    reaches_first q.first.finds
  exact hfirst.links q.rest

theorem PlainQuery.select_xpath (q : PlainQuery) :
    (Expr.absolute q.steps).select (Document.parse f text) =
      .ok (Css.select (Document.parse f text) [q.complex]) := by
  rw [select_of_reaches q.reaches, Css.select]
  simp only [List.any_cons, List.any_nil, Bool.or_false]

/-- A query that both languages write is understood as a selector of either type, and selects the
same elements. -/
theorem select_common (f : Flavor) (text : String) (q : PlainQuery) :
    ∃ css xpath ids, Selector.parse ("css:" ++ q.css) = .ok css ∧
      Selector.parse ("xpath:" ++ q.xpath) = .ok xpath ∧
      css.select (Document.parse f text) = .ok ids ∧
      xpath.select (Document.parse f text) = .ok ids := by
  refine ⟨.css [q.complex], .xpath q.xpath (.absolute q.steps), _, ?_, ?_, rfl, ?_⟩
  · rw [Selector.parse_css, Selector.parseCss, q.selectors_css]
  · rw [Selector.parse_xpath, Selector.parseXPath, q.parse_xpath]
  · rw [Selector.select, q.select_xpath]
    rfl

end Queries
end MarkupSplice
