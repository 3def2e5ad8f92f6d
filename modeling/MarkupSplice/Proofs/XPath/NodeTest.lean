import MarkupSplice.Proofs.XPath.Axes

/-!
# Node tests

A star keeps the elements that an axis leads to, and on the attribute axis the
attributes. A name keeps no more than that, with one exception: an axis that
begins with the point it is seen from leads an attribute to itself, and there
its name keeps it and the star does not (`name_within_any_iff`).
-/
namespace MarkupSplice.XPath

def Point.isElement (d : Document) : Point → Bool
  | .node id => d.isElement id
  | _ => false

def Axis.includesSelf : Axis → Bool
  | .self | .descendantOrSelf | .ancestorOrSelf => true
  | _ => false

variable {d : Document} {a : Axis} {x y : Point} {name : String}

theorem Axis.mem_points_self (h : a.includesSelf = true) : x ∈ a.points d x := by
  cases a with
  | self | descendantOrSelf | ancestorOrSelf => exact List.mem_cons_self
  | _ => cases h

theorem Point.not_attribute_of_descendants (h : y ∈ x.descendants d) : y.isAttribute = false := by
  obtain ⟨id, rfl, -, -⟩ := mem_descendants.1 h
  rfl

theorem Point.not_attribute_of_ancestors (h : y ∈ x.ancestors d) : y.isAttribute = false := by
  have hnode : ∀ {id}, y ∈ (node id).ancestors d → y.isAttribute = false := by
    intro id hy
    rcases mem_ancestors_node.1 hy with rfl | ⟨i, -, rfl⟩
    · rfl
    · rfl
  cases x with
  | root => cases h
  | node id => exact hnode h
  | «attribute» owner index =>
    rcases List.mem_cons.1 h with rfl | h
    · rfl
    · exact hnode h

theorem Axis.of_mem_attribute (hy : y ∈ a.points d x) (hattribute : y.isAttribute = true) :
    a = .attribute ∨ a.includesSelf = true ∧ y = x := by
  have hnode : ∀ {ids : List Nat}, y ∉ ids.map Point.node := by
    intro ids hmem
    obtain ⟨id, -, rfl⟩ := List.mem_map.1 hmem
    cases hattribute
  cases a with
  | child =>
    cases x with
    | «attribute» owner index => cases hy
    | _ => exact absurd hy hnode
  | descendant => cases hattribute.symm.trans (Point.not_attribute_of_descendants hy)
  | descendantOrSelf =>
    rcases List.mem_cons.1 hy with rfl | hy
    · exact Or.inr ⟨rfl, rfl⟩
    · cases hattribute.symm.trans (Point.not_attribute_of_descendants hy)
  | self => exact Or.inr ⟨rfl, List.mem_singleton.1 hy⟩
  | parent =>
    cases x with
    | root => cases hy
    | node id =>
      obtain rfl := List.mem_singleton.1 hy
      cases hparent : d.parent? id <;> rw [hparent] at hattribute <;> cases hattribute
    | «attribute» owner index =>
      obtain rfl := List.mem_singleton.1 hy
      cases hattribute
  | ancestor => cases hattribute.symm.trans (Point.not_attribute_of_ancestors hy)
  | ancestorOrSelf =>
    rcases List.mem_cons.1 hy with rfl | hy
    · exact Or.inr ⟨rfl, rfl⟩
    · cases hattribute.symm.trans (Point.not_attribute_of_ancestors hy)
  | followingSibling | precedingSibling =>
    cases x with
    | node id => exact absurd hy hnode
    | _ => cases hy
  | «attribute» => exact Or.inl rfl

namespace NodeTest

theorem any_accepts_attribute (h : x.isAttribute = true) :
    any.accepts d a x = true ↔ a = .attribute := by
  cases x with
  | «attribute» owner index => exact beq_iff_eq
  | _ => cases h

theorem any_accepts_eq (ha : a ≠ .attribute) : any.accepts d a x = x.isElement d := by
  cases x with
  | «attribute» owner index => exact beq_eq_false_iff_ne.2 ha
  | _ => rfl

theorem any_accepts_of_name (h : x.isAttribute = false)
    (hname : (NodeTest.name name).accepts d a x = true) : any.accepts d a x = true := by
  cases x with
  | root => cases hname
  | node id =>
    obtain ⟨e, he, -⟩ := (Option.any_eq_true _ _).1 hname
    exact Document.isElement_of_element he
  | «attribute» owner index => cases h

theorem any_accepts_or_self (hy : y ∈ a.points d x)
    (hname : (NodeTest.name name).accepts d a y = true) :
    any.accepts d a y = true ∨ a.includesSelf = true ∧ y.isAttribute = true ∧ y = x := by
  cases hattribute : y.isAttribute with
  | false => exact Or.inl (any_accepts_of_name hattribute hname)
  | true =>
    rcases Axis.of_mem_attribute hy hattribute with ha | ⟨hself, hyx⟩
    · exact Or.inl ((any_accepts_attribute hattribute).2 ha)
    · exact Or.inr ⟨hself, rfl, hyx⟩

end NodeTest

/-- What a name keeps the star keeps too, and other axes than that of attributes lead to elements
only, unless the name is that of an attribute and the axis begins there. -/
theorem name_within_any_iff (d : Document) (a : Axis) (x : Point) (name : String) :
    let kept := (a.points d x).filter ((NodeTest.name name).accepts d a)
    let own := a.includesSelf = true ∧ x.isAttribute = true ∧
      (NodeTest.name name).accepts d a x = true
    ((∀ y ∈ kept, NodeTest.any.accepts d a y = true) ↔ ¬own) ∧
      (a ≠ .attribute → ((∀ y ∈ kept, y.isElement d = true) ↔ ¬own)) ∧
      ∀ y ∈ kept, NodeTest.any.accepts d a y = false → y = x := by
  intro kept own
  have hwithin : (∀ y ∈ kept, NodeTest.any.accepts d a y = true) ↔ ¬own := by
    constructor
    · rintro h ⟨hself, hattribute, hname⟩
      -- the axis leads the attribute to itself, and of the two tests the star alone asks which axis
      have hx := h x (List.mem_filter.2 ⟨Axis.mem_points_self hself, hname⟩)
      obtain rfl := (NodeTest.any_accepts_attribute hattribute).1 hx
      cases hself
    · intro hno y hy
      obtain ⟨hmem, hname⟩ := List.mem_filter.1 hy
      rcases NodeTest.any_accepts_or_self hmem hname with hany | ⟨hself, hattribute, rfl⟩
      · exact hany
      · exact absurd ⟨hself, hattribute, hname⟩ hno
  refine ⟨hwithin, fun ha => ?_, fun y hy hnot => ?_⟩
  · simp only [← NodeTest.any_accepts_eq ha]
    exact hwithin
  · obtain ⟨hmem, hname⟩ := List.mem_filter.1 hy
    rcases NodeTest.any_accepts_or_self hmem hname with hany | ⟨-, -, hyx⟩
    · rw [hany] at hnot
      cases hnot
    · exact hyx

def elementsWith (test : NodeTest) : Expr :=
  .absolute [.anywhere, .mk .child .any
    [.relative [.mk .attribute (.name "a") [], .mk .self test []]]]

theorem name_within_any_iff_self :
    let d := Document.parse .xml "<x a='1'/>"
    ¬(∀ y ∈ (Axis.self.points d (.attribute 0 0)).filter
        ((NodeTest.name "a").accepts d .self), NodeTest.any.accepts d .self y = true) ∧
      (elementsWith (.name "a")).select d = .ok [0] ∧
      (elementsWith .any).select d = .ok [] := by
  have hname : (NodeTest.name "a").accepts (Document.parse .xml "<x a='1'/>") .self
      (.attribute 0 0) = true := by decide +kernel
  have hbyName : (elementsWith (.name "a")).select (Document.parse .xml "<x a='1'/>") =
      .ok [0] := by decide +kernel
  have hbyStar : (elementsWith .any).select (Document.parse .xml "<x a='1'/>") = .ok [] := by
    decide +kernel
  obtain ⟨hwithin, -⟩ := name_within_any_iff (Document.parse .xml "<x a='1'/>") .self
    (.attribute 0 0) "a"
  exact ⟨fun h => hwithin.1 h ⟨rfl, rfl, hname⟩, hbyName, hbyStar⟩

end MarkupSplice.XPath
