import MarkupSplice.Proofs.XPath.Order

/-!
# Steps that filter

Predicates that come out the same wherever a point stands among others only
filter what a step finds (`Step.exists_eval`). Tests on the attributes of an
element are such predicates.
-/
namespace MarkupSplice.XPath

variable {d : Document} {x y : Point} {xs ys : List Point} {p : Expr} {ps : List Expr}
  {g : Point → Bool}

/-- Whether an expression, taken as a predicate, says `g` of the point that it is seen from. -/
def Decides (d : Document) (p : Expr) (g : Point → Bool) : Prop :=
  ∀ c : Context, ∃ v, p.eval d c = .ok v ∧ ∀ position, v.selects position = g c.point

def Filters (d : Document) (ps : List Expr) (g : Point → Bool) : Prop :=
  ∀ xs, keepAll d ps xs = .ok (xs.filter g)

theorem keep_of_decides (h : Decides d p g) (xs : List Point) :
    keep (p.eval d) xs = .ok (xs.filter g) := by
  have hone : ∀ xi : Point × Nat, (do
      return if (← p.eval d ⟨xi.1, xi.2 + 1, xs.length⟩).selects (xi.2 + 1) then some xi.1
        else none) =
      (Except.ok (if g xi.1 then some xi.1 else none) : Except EvalError (Option Point)) := by
    intro xi
    obtain ⟨v, hv, hselects⟩ := h ⟨xi.1, xi.2 + 1, xs.length⟩
    rw [hv, ← hselects (xi.2 + 1)]
    rfl
  have hguard : (fun xi : Point × Nat => if g xi.1 then some xi.1 else none) =
      Option.guard g ∘ Prod.fst := by
    funext xi
    rfl
  rw [keep, filterMapM_eq_ok fun xi _ => hone xi, hguard, ← List.filterMap_map,
    List.zipIdx_map_fst, List.filterMap_eq_filter]

theorem filters_nil (d : Document) : Filters d [] fun _ => true := by
  intro xs
  rw [keepAll, List.filter_true]

theorem filters_map {α : Type} (as : List α) {k : α → Expr} {g : α → Point → Bool}
    (h : ∀ a ∈ as, Decides d (k a) (g a)) :
    Filters d (as.map k) fun x => as.all fun a => g a x := by
  intro xs
  induction as generalizing xs with
  | nil => simp [keepAll]
  | cons a as ih =>
    rw [List.map_cons, keepAll, keep_of_decides (h a List.mem_cons_self)]
    have hrest := ih (fun a' ha' => h a' (List.mem_cons_of_mem _ ha')) (xs.filter (g a))
    refine hrest.trans ?_
    rw [List.filter_filter]
    simp only [List.all_cons, Bool.and_comm]

theorem Step.exists_eval (h : Filters d ps g) (a : Axis) (test : NodeTest) (xs : List Point) :
    ∃ ys, (Step.mk a test ps).eval d xs = .ok ys ∧
      ∀ y, y ∈ ys ↔ ∃ x ∈ xs, y ∈ a.points d x ∧ test.accepts d a y = true ∧ g y = true := by
  refine ⟨documentOrder (xs.flatMap fun x => ((a.points d x).filter (test.accepts d a)).filter g),
    ?_, fun y => ?_⟩
  · rw [Step.eval, mapM_eq_ok fun x _ => h _, List.flatMap_def]
    rfl
  · simp only [mem_documentOrder, List.mem_flatMap, List.mem_filter, and_assoc]

theorem evalSteps_append (ss ts : List Step) (xs : List Point) :
    evalSteps d (ss ++ ts) xs = evalSteps d ss xs >>= evalSteps d ts := by
  induction ss generalizing xs with
  | nil => rfl
  | cons s ss ih =>
    rw [List.cons_append, evalSteps, evalSteps, bind_assoc]
    congr 1
    funext zs
    exact ih zs

def attributesNamed (name : String) : Expr := .relative [.mk .attribute (.name name) []]

def hasAttribute (d : Document) (name : String) (x : Point) : Bool :=
  (x.attributes d).any (NodeTest.accepts d .attribute (.name name))

def hasValue (d : Document) (name value : String) (x : Point) : Bool :=
  (x.attributes d).any fun y =>
    NodeTest.accepts d .attribute (.name name) y && stringValue d y == value

theorem eval_attributesNamed (name : String) (c : Context) :
    ∃ ys, (attributesNamed name).eval d c = .ok (.points ys) ∧
      ∀ y, y ∈ ys ↔ y ∈ c.point.attributes d ∧
        NodeTest.accepts d .attribute (.name name) y = true := by
  obtain ⟨ys, hys, hmem⟩ :=
    Step.exists_eval (filters_nil d) .attribute (.name name) [c.point]
  refine ⟨ys, ?_, fun y => ?_⟩
  · rw [attributesNamed, Expr.eval, evalSteps, hys]
    rfl
  · rw [hmem]
    simp [Axis.points]

theorem decides_attributesNamed (d : Document) (name : String) :
    Decides d (attributesNamed name) (hasAttribute d name) := by
  intro c
  obtain ⟨ys, hys, hmem⟩ := eval_attributesNamed (d := d) name c
  refine ⟨_, hys, fun position => ?_⟩
  rw [Bool.eq_iff_iff, hasAttribute, List.any_eq_true]
  simp only [← hmem, Value.selects, Value.toBool, Bool.not_eq_true']
  exact List.isEmpty_eq_false_iff_exists_mem

theorem decides_equal (d : Document) (name value : String) :
    Decides d (.compare .equal (attributesNamed name) (.literal value))
      (hasValue d name value) := by
  intro c
  obtain ⟨ys, hys, hmem⟩ := eval_attributesNamed (d := d) name c
  refine ⟨.boolean (ys.any fun y => stringValue d y == value), ?_, fun position => ?_⟩
  · rw [Expr.eval, hys]
    rfl
  · rw [Bool.eq_iff_iff, hasValue, List.any_eq_true]
    simp only [Value.selects, Value.toBool, List.any_eq_true, hmem, Bool.and_eq_true, and_assoc]

theorem any_attributes {t : Point → Bool} {q : Attribute → Bool}
    (ht : ∀ owner index, t (.attribute owner index) = (attributeAt d owner index).any q)
    (id : Nat) :
    (Point.attributes d (.node id)).any t = (d.element? id).any fun e => e.attributes.any q := by
  rw [Point.attributes]
  cases he : d.element? id with
  | none => rfl
  | some e =>
    have hindex : ∀ index, t (.attribute id index) = e.attributes[index]?.any q := by
      intro index
      rw [ht, attributeAt, he]
      rfl
    rw [Bool.eq_iff_iff]
    simp only [List.any_map, List.any_eq_true, List.mem_range, Function.comp_apply, hindex,
      Option.any_some]
    constructor
    · rintro ⟨index, hlt, hq⟩
      rw [List.getElem?_eq_getElem hlt] at hq
      exact ⟨_, List.getElem_mem hlt, hq⟩
    · rintro ⟨a, ha, hq⟩
      obtain ⟨index, hlt, rfl⟩ := List.getElem_of_mem ha
      exact ⟨index, hlt, by rwa [List.getElem?_eq_getElem hlt]⟩

theorem hasAttribute_node (name : String) (id : Nat) :
    hasAttribute d name (.node id) =
      (d.element? id).any fun e => e.attributes.any fun a => d.flavor.namesMatch a.name name :=
  any_attributes (fun _ _ => rfl) id

theorem hasValue_node (name value : String) (id : Nat) :
    hasValue d name value (.node id) = (d.element? id).any fun e =>
      e.attributes.any fun a => d.flavor.namesMatch a.name name && a.value.getD "" == value := by
  apply any_attributes
  intro owner index
  cases ha : attributeAt d owner index with
  | none => simp [NodeTest.accepts, ha]
  | some a => cases hv : a.value <;> simp [NodeTest.accepts, stringValue, ha, hv]

end MarkupSplice.XPath
