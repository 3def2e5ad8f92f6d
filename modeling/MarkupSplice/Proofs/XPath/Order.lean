import MarkupSplice.XPath.Evaluation
import MarkupSplice.Proofs.Css.Chain
import MarkupSplice.Proofs.Fallible

/-!
# Document order

A walk over a document comes to its root, then to each node, and at each node
to the attributes before the children (`Point.all`). Whatever list of points an
expression stands for is taken from that walk, its order kept
(`eval_in_order`): steps, unions and filters sort what they have found, and a
predicate only leaves points out.
-/
namespace MarkupSplice.XPath

namespace Point

variable {x y z : Point} {xs ys : List Point}

def Belongs (d : Document) : Point → Prop
  | .root => True
  | .node id => id < d.size
  | .attribute owner index => ∃ e, d.element? owner = some e ∧ index < e.attributes.length

/-- The points of a document as a walk from its root meets them. -/
def all (d : Document) : List Point :=
  .root :: (d.roots.flatMap d.walk).flatMap fun i => .node i :: attributes d (.node i)

theorem precedes_iff :
    x.precedes y = true ↔
      x.order.1 < y.order.1 ∨ x.order.1 = y.order.1 ∧ x.order.2 < y.order.2 := by
  simp [precedes]

theorem eq_of_order (hfst : x.order.1 = y.order.1) (hsnd : x.order.2 = y.order.2) : x = y := by
  cases x <;> cases y <;> simp_all [order]

theorem precedes_trans (hxy : x.precedes y = true) (hyz : y.precedes z = true) :
    x.precedes z = true := by
  rw [precedes_iff] at *
  omega

theorem precedes_of_ne (hne : x ≠ y) (hnot : ¬x.precedes y = true) : y.precedes x = true := by
  have hsnd : x.order.1 = y.order.1 → x.order.2 ≠ y.order.2 := fun h h' => hne (eq_of_order h h')
  rw [precedes_iff] at *
  omega

theorem precedes_irrefl (x : Point) : ¬x.precedes x = true := by
  rw [precedes_iff]
  omega

instance : Std.Irrefl fun x y : Point => x.precedes y = true := ⟨precedes_irrefl⟩

instance : Std.Asymm fun x y : Point => x.precedes y = true where
  asymm x _ hxy hyx := precedes_irrefl x (precedes_trans hxy hyx)

theorem mem_place : y ∈ place x xs ↔ y = x ∨ y ∈ xs := by
  induction xs with
  | nil => simp [place]
  | cons z xs ih =>
    rw [place]
    split
    · rename_i heq
      simp [heq]
    · split
      · simp
      · simp only [List.mem_cons, ih]
        exact or_left_comm

theorem place_sorted (h : xs.Pairwise fun x y => x.precedes y = true) (x : Point) :
    (place x xs).Pairwise fun x y => x.precedes y = true := by
  induction xs with
  | nil => exact List.pairwise_singleton _ x
  | cons y xs ih =>
    obtain ⟨hfirst, hrest⟩ := List.pairwise_cons.1 h
    rw [place]
    split
    · exact h
    · rename_i hne
      split
      · rename_i hxy
        refine List.pairwise_cons.2 ⟨fun z hz => ?_, h⟩
        rcases List.mem_cons.1 hz with rfl | hz
        · exact hxy
        · exact precedes_trans hxy (hfirst z hz)
      · rename_i hnot
        refine List.pairwise_cons.2 ⟨fun z hz => ?_, ih hrest⟩
        rcases mem_place.1 hz with rfl | hz
        · exact precedes_of_ne hne hnot
        · exact hfirst z hz

end Point

variable {x y : Point} {xs ys : List Point}

theorem mem_documentOrder : x ∈ documentOrder xs ↔ x ∈ xs := by
  induction xs with
  | nil => rfl
  | cons y xs ih =>
    rw [List.mem_cons, ← ih]
    exact Point.mem_place

theorem documentOrder_sorted (xs : List Point) :
    (documentOrder xs).Pairwise fun x y => x.precedes y = true := by
  induction xs with
  | nil => exact List.Pairwise.nil
  | cons x xs ih => exact Point.place_sorted ih x

namespace Point

variable {d : Document}

theorem mem_attributes {id : Nat} :
    x ∈ attributes d (.node id) ↔
      ∃ e index, d.element? id = some e ∧ index < e.attributes.length ∧
        x = .attribute id index := by
  rw [attributes]
  cases hid : d.element? id with
  | none => simp
  | some e =>
    simp only [List.mem_map, List.mem_range]
    constructor
    · rintro ⟨index, hlt, rfl⟩
      exact ⟨e, index, rfl, hlt, rfl⟩
    · rintro ⟨e', index, he, hlt, rfl⟩
      obtain rfl := Option.some.inj he
      exact ⟨index, hlt, rfl⟩

theorem attributes_sorted (id : Nat) :
    (attributes d (.node id)).Pairwise fun x y => x.precedes y = true := by
  rw [attributes]
  split
  · refine List.pairwise_map.2 (List.pairwise_lt_range.imp fun hlt => ?_)
    rw [precedes_iff]
    exact Or.inr ⟨rfl, Nat.succ_lt_succ hlt⟩
  · exact List.Pairwise.nil

theorem order_of_mem_attributes {id : Nat} (h : x ∈ attributes d (.node id)) :
    x.order.1 = id + 1 ∧ 0 < x.order.2 := by
  obtain ⟨e, index, -, -, rfl⟩ := mem_attributes.1 h
  exact ⟨rfl, Nat.succ_pos _⟩

variable {f : Flavor} {text : String}

theorem mem_all : x ∈ all (Document.parse f text) ↔ x.Belongs (Document.parse f text) := by
  rw [all, Document.walk_roots, List.mem_cons, List.mem_flatMap]
  simp only [Document.ids, List.mem_range, List.mem_cons, mem_attributes]
  constructor
  · rintro (rfl | ⟨id, hid, rfl | ⟨e, index, he, hindex, rfl⟩⟩)
    · trivial
    · exact hid
    · exact ⟨e, he, hindex⟩
  · intro h
    cases x with
    | root => exact Or.inl rfl
    | node id => exact Or.inr ⟨id, h, Or.inl rfl⟩
    | «attribute» owner index =>
      obtain ⟨e, he, hindex⟩ := h
      have howner := Document.lt_size_of_isElement (Document.isElement_of_element he)
      exact Or.inr ⟨owner, howner, Or.inr ⟨e, index, he, hindex, rfl⟩⟩

theorem all_sorted (f : Flavor) (text : String) :
    (all (Document.parse f text)).Pairwise fun x y => x.precedes y = true := by
  have horder : ∀ {id : Nat}, ∀ x ∈ node id :: attributes (Document.parse f text) (.node id),
      x.order.1 = id + 1 := by
    intro id x hx
    rcases List.mem_cons.1 hx with rfl | hx
    · rfl
    · exact (order_of_mem_attributes hx).1
  rw [all, Document.walk_roots, List.pairwise_cons, List.pairwise_flatMap]
  refine ⟨fun x hx => ?_, fun id _ => ?_, ?_⟩
  · obtain ⟨id, -, hx⟩ := List.mem_flatMap.1 hx
    rw [precedes_iff, horder x hx]
    exact Or.inl (Nat.succ_pos id)
  · refine List.pairwise_cons.2 ⟨fun x hx => ?_, attributes_sorted id⟩
    obtain ⟨hfst, hsnd⟩ := order_of_mem_attributes hx
    rw [precedes_iff, hfst]
    exact Or.inr ⟨rfl, hsnd⟩
  · refine List.pairwise_lt_range.imp fun hlt x hx y hy => ?_
    rw [precedes_iff, horder x hx, horder y hy]
    exact Or.inl (Nat.succ_lt_succ hlt)

/-- Points in order that a document has are those of its walk, with some left out. -/
theorem eq_filter_all (h : xs.Pairwise fun x y => x.precedes y = true)
    (hbelong : ∀ x ∈ xs, x.Belongs (Document.parse f text)) :
    xs = (all (Document.parse f text)).filter (· ∈ xs) := by
  apply h.eq_of_mem_iff ((all_sorted f text).filter _)
  intro x
  rw [List.mem_filter, mem_all, decide_eq_true_iff]
  exact (and_iff_right_of_imp (hbelong x)).symm

end Point

section Axes

variable {f : Flavor} {text : String} {d : Document}

theorem Point.belongs_of_childrenOf {p : Option Nat} (h : x ∈ (d.childrenOf p).map Point.node) :
    x.Belongs d := by
  obtain ⟨c, hc, rfl⟩ := List.mem_map.1 h
  exact (Document.mem_childrenOf.1 hc).1

theorem Point.belongs_of_ancestors {id : Nat} (hid : id < d.size)
    (h : x ∈ (d.ancestors id).map Point.node) : x.Belongs d := by
  obtain ⟨a, ha, rfl⟩ := List.mem_map.1 h
  exact Nat.lt_trans (Document.lt_of_mem_ancestors ha) hid

theorem Point.belongs_of_element {owner : Nat} {e : Element}
    (he : (Document.parse f text).element? owner = some e) :
    (Point.node owner).Belongs (Document.parse f text) :=
  Document.lt_size_of_isElement (Document.isElement_of_element he)

theorem Point.belongs_of_mem_descendants (h : y ∈ x.descendants (Document.parse f text)) :
    y.Belongs (Document.parse f text) := by
  cases x with
  | root =>
    obtain ⟨id, hid, rfl⟩ := List.mem_map.1 h
    exact List.mem_range.1 hid
  | node id =>
    obtain ⟨j, hj, rfl⟩ := List.mem_map.1 h
    exact Document.lt_size_of_mem_ancestors (Document.mem_descendants.1 hj)
  | «attribute» owner index => cases h

theorem Point.belongs_of_mem_ancestors (hx : x.Belongs (Document.parse f text))
    (h : y ∈ x.ancestors (Document.parse f text)) : y.Belongs (Document.parse f text) := by
  cases x with
  | root => cases h
  | node id =>
    rcases List.mem_append.1 h with h | h
    · exact belongs_of_ancestors hx h
    · obtain rfl := List.mem_singleton.1 h
      trivial
  | «attribute» owner index =>
    obtain ⟨e, he, -⟩ := hx
    rcases List.mem_cons.1 h with rfl | h
    · exact belongs_of_element he
    · rcases List.mem_append.1 h with h | h
      · exact belongs_of_ancestors (belongs_of_element he) h
      · obtain rfl := List.mem_singleton.1 h
        trivial

theorem Axis.points_belong (hx : x.Belongs (Document.parse f text)) (a : Axis)
    (hy : y ∈ a.points (Document.parse f text) x) : y.Belongs (Document.parse f text) := by
  cases a with
  | child =>
    cases x with
    | «attribute» owner index => cases hy
    | _ => exact Point.belongs_of_childrenOf hy
  | descendant => exact Point.belongs_of_mem_descendants hy
  | descendantOrSelf =>
    rcases List.mem_cons.1 hy with rfl | hy
    · exact hx
    · exact Point.belongs_of_mem_descendants hy
  | self =>
    obtain rfl := List.mem_singleton.1 hy
    exact hx
  | parent =>
    have hy := Option.mem_toList.1 hy
    cases x with
    | root => cases hy
    | node id =>
      obtain rfl := Option.some.inj hy
      cases hparent : (Document.parse f text).parent? id with
      | none => trivial
      | some p => exact Nat.lt_trans (Document.lt_of_parent hparent) hx
    | «attribute» owner index =>
      obtain rfl := Option.some.inj hy
      obtain ⟨e, he, -⟩ := hx
      exact Point.belongs_of_element he
  | ancestor => exact Point.belongs_of_mem_ancestors hx hy
  | ancestorOrSelf =>
    rcases List.mem_cons.1 hy with rfl | hy
    · exact hx
    · exact Point.belongs_of_mem_ancestors hx hy
  | followingSibling =>
    cases x with
    | node id =>
      obtain ⟨s, hs, rfl⟩ := List.mem_map.1 hy
      have hs := (List.dropWhile_suffix _).subset (List.mem_of_mem_tail hs)
      exact (Document.mem_childrenOf.1 hs).1
    | _ => cases hy
  | precedingSibling =>
    cases x with
    | node id =>
      obtain ⟨s, hs, rfl⟩ := List.mem_map.1 hy
      have hs := (List.takeWhile_prefix _).subset (List.mem_reverse.1 hs)
      exact (Document.mem_childrenOf.1 hs).1
    | _ => cases hy
  | «attribute» =>
    cases x with
    | node id =>
      obtain ⟨e, index, he, hindex, rfl⟩ := Point.mem_attributes.1 hy
      exact ⟨e, he, hindex⟩
    | _ => cases hy

end Axes

theorem Value.eq_of_toPoints {v : Value} (h : v.toPoints = .ok xs) : v = .points xs := by
  cases v with
  | points ys =>
    obtain rfl := Except.ok.inj h
    rfl
  | _ => cases h

/-- A predicate leaves points out and keeps the order of the others. -/
theorem keep_sublist {holds : Context → Except EvalError Value} (h : keep holds xs = .ok ys) :
    ys.Sublist xs := by
  rw [keep] at h
  have hsublist := sublist_of_filterMapM (k := Prod.fst) ?_ h
  · rwa [List.zipIdx_map_fst] at hsublist
  · rintro ⟨x, i⟩ y hy
    obtain ⟨v, -, hv⟩ := bind_eq_ok.1 hy
    have hkept := Except.ok.inj hv
    split at hkept
    · exact (Option.some.inj hkept).symm
    · cases hkept

section Evaluation

variable {d : Document} {c : Context}

theorem keepAll_sublist {predicates : List Expr} (h : keepAll d predicates xs = .ok ys) :
    ys.Sublist xs := by
  induction predicates generalizing xs with
  | nil =>
    obtain rfl : xs = ys := Except.ok.inj h
    exact List.Sublist.refl _
  | cons p predicates ih =>
    rw [keepAll] at h
    obtain ⟨kept, hkept, h⟩ := bind_eq_ok.1 h
    exact (ih h).trans (keep_sublist hkept)

theorem Function.apply_ne_points {f : Function} {args : List Value} :
    f.apply d c args ≠ .ok (.points xs) := by
  intro h
  cases f with
  | count | name | localName =>
    obtain ⟨_, -, h⟩ := bind_eq_ok.1 h
    cases h
  | _ => cases h

end Evaluation

section Parsed

variable {f : Flavor} {text : String}

structure InOrder (d : Document) (xs : List Point) : Prop where
  belong : ∀ x ∈ xs, x.Belongs d
  sorted : xs.Pairwise fun x y => x.precedes y = true

theorem inOrder_documentOrder {d : Document} (h : ∀ x ∈ xs, x.Belongs d) :
    InOrder d (documentOrder xs) :=
  ⟨fun x hx => h x (mem_documentOrder.1 hx), documentOrder_sorted xs⟩

theorem InOrder.sublist {d : Document} (h : InOrder d xs) (hsublist : ys.Sublist xs) :
    InOrder d ys :=
  ⟨fun x hx => h.belong x (hsublist.subset hx), h.sorted.sublist hsublist⟩

theorem inOrder_singleton {d : Document} (h : x.Belongs d) : InOrder d [x] where
  belong := by
    intro y hy
    obtain rfl := List.mem_singleton.1 hy
    exact h
  sorted := List.pairwise_singleton _ x

/-- A step from points of a document, whatever their order. -/
theorem Step.eval_inOrder {s : Step} (hxs : ∀ x ∈ xs, x.Belongs (Document.parse f text))
    (h : s.eval (Document.parse f text) xs = .ok ys) : InOrder (Document.parse f text) ys := by
  cases s with
  | mk axis test predicates =>
    rw [Step.eval] at h
    -- a reverse axis or points within each other give any order here, which is then sorted
    obtain ⟨found, hfound, h⟩ := bind_eq_ok.1 h
    obtain rfl : documentOrder found.flatten = ys := Except.ok.inj h
    apply inOrder_documentOrder
    intro y hy
    obtain ⟨x, hx, zs, hzs, hy⟩ := mem_of_mapM hfound hy
    exact axis.points_belong (hxs x hx) (List.mem_filter.1 ((keepAll_sublist hzs).subset hy)).1

theorem evalSteps_inOrder {steps : List Step} (hxs : InOrder (Document.parse f text) xs)
    (h : evalSteps (Document.parse f text) steps xs = .ok ys) :
    InOrder (Document.parse f text) ys := by
  induction steps generalizing xs with
  | nil =>
    obtain rfl : xs = ys := Except.ok.inj h
    exact hxs
  | cons s steps ih =>
    rw [evalSteps] at h
    obtain ⟨zs, hzs, h⟩ := bind_eq_ok.1 h
    exact ih (Step.eval_inOrder hxs.belong hzs) h

theorem Expr.eval_inOrder {c : Context} (hc : c.point.Belongs (Document.parse f text))
    {xs : List Point} : ∀ e : Expr, e.eval (Document.parse f text) c = .ok (.points xs) →
      InOrder (Document.parse f text) xs
  | .or l r, h => by
    rw [Expr.eval] at h
    obtain ⟨v, -, h⟩ := bind_eq_ok.1 h
    split at h
    · cases h
    · obtain ⟨w, -, h⟩ := bind_eq_ok.1 h
      cases h
  | .and l r, h => by
    rw [Expr.eval] at h
    obtain ⟨v, -, h⟩ := bind_eq_ok.1 h
    split at h
    · obtain ⟨w, -, h⟩ := bind_eq_ok.1 h
      cases h
    · cases h
  | .compare op l r, h | .arithmetic op l r, h => by
    rw [Expr.eval] at h
    obtain ⟨v, -, h⟩ := bind_eq_ok.1 h
    obtain ⟨w, -, h⟩ := bind_eq_ok.1 h
    cases h
  | .negate e, h => by
    rw [Expr.eval] at h
    obtain ⟨v, -, h⟩ := bind_eq_ok.1 h
    cases h
  | .union l r, h => by
    rw [Expr.eval] at h
    obtain ⟨v, hv, h⟩ := bind_eq_ok.1 h
    obtain ⟨ys, hys, h⟩ := bind_eq_ok.1 h
    obtain ⟨w, hw, h⟩ := bind_eq_ok.1 h
    obtain ⟨zs, hzs, h⟩ := bind_eq_ok.1 h
    obtain rfl : documentOrder (ys ++ zs) = xs := Value.points.inj (Except.ok.inj h)
    obtain rfl := Value.eq_of_toPoints hys
    obtain rfl := Value.eq_of_toPoints hzs
    apply inOrder_documentOrder
    intro x hx
    rcases List.mem_append.1 hx with hx | hx
    · exact (Expr.eval_inOrder hc l hv).belong x hx
    · exact (Expr.eval_inOrder hc r hw).belong x hx
  | .absolute steps, h => by
    rw [Expr.eval] at h
    obtain ⟨ys, hys, h⟩ := bind_eq_ok.1 h
    obtain rfl : ys = xs := Value.points.inj (Except.ok.inj h)
    exact evalSteps_inOrder (inOrder_singleton (x := .root) trivial) hys
  | .relative steps, h => by
    rw [Expr.eval] at h
    obtain ⟨ys, hys, h⟩ := bind_eq_ok.1 h
    obtain rfl : ys = xs := Value.points.inj (Except.ok.inj h)
    exact evalSteps_inOrder (inOrder_singleton hc) hys
  | .path start steps, h => by
    rw [Expr.eval] at h
    obtain ⟨v, hv, h⟩ := bind_eq_ok.1 h
    obtain ⟨ys, hys, h⟩ := bind_eq_ok.1 h
    obtain ⟨zs, hzs, h⟩ := bind_eq_ok.1 h
    obtain rfl : zs = xs := Value.points.inj (Except.ok.inj h)
    obtain rfl := Value.eq_of_toPoints hys
    exact evalSteps_inOrder (Expr.eval_inOrder hc start hv) hzs
  | .filter e predicates, h => by
    rw [Expr.eval] at h
    obtain ⟨v, hv, h⟩ := bind_eq_ok.1 h
    obtain ⟨ys, hys, h⟩ := bind_eq_ok.1 h
    obtain ⟨zs, hzs, h⟩ := bind_eq_ok.1 h
    obtain rfl : zs = xs := Value.points.inj (Except.ok.inj h)
    obtain rfl := Value.eq_of_toPoints hys
    have hbelong := (Expr.eval_inOrder hc e hv).belong
    exact (inOrder_documentOrder hbelong).sublist (keepAll_sublist hzs)
  | .literal s, h | .number n, h => by cases h
  | .call g args, h => by
    rw [Expr.eval] at h
    split at h
    · obtain ⟨vs, -, h⟩ := bind_eq_ok.1 h
      -- the arguments do not matter: no function gives points
      exact absurd h Function.apply_ne_points
    · cases h

theorem InOrder.elements {d : Document} (h : InOrder d xs) :
    (xs.filterMap fun
      | .node id => if d.isElement id then some id else none
      | _ => none).Pairwise (· < ·) := by
  refine List.Pairwise.filterMap _ (fun x y hxy i hi j hj => ?_) h.sorted
  cases x with
  | node a =>
    cases y with
    | node b =>
      rw [Option.ite_none_right_eq_some, Option.some_inj] at hi hj
      rw [Point.precedes_iff] at hxy
      simp only [Point.order] at hxy
      omega
    | _ => cases hj
  | _ => cases hi

theorem Expr.select_of_eval {d : Document} {e : Expr}
    (h : e.eval d ⟨.root, 1, 1⟩ = .ok (.points xs)) :
    ∃ ids, e.select d = .ok ids ∧ ∀ id, id ∈ ids ↔ .node id ∈ xs ∧ d.isElement id = true := by
  rw [Expr.select, h]
  refine ⟨_, rfl, fun id => ?_⟩
  rw [List.mem_filterMap]
  constructor
  · rintro ⟨x, hx, hid⟩
    cases x with
    | node i =>
      rw [Option.ite_none_right_eq_some, Option.some_inj] at hid
      obtain ⟨helement, rfl⟩ := hid
      exact ⟨hx, helement⟩
    | _ => cases hid
  · rintro ⟨hid, helement⟩
    exact ⟨.node id, hid, if_pos helement⟩

theorem Expr.select_sorted {e : Expr} {ids : List Nat}
    (h : e.select (Document.parse f text) = .ok ids) :
    ids.Pairwise (· < ·) ∧ ∀ id ∈ ids, (Document.parse f text).isElement id = true := by
  rw [Expr.select] at h
  obtain ⟨v, hv, h⟩ := bind_eq_ok.1 h
  cases v with
  | points xs =>
    obtain rfl := Except.ok.inj h
    have horder := Expr.eval_inOrder (c := ⟨.root, 1, 1⟩) trivial e hv
    refine ⟨horder.elements, fun id hid => ?_⟩
    obtain ⟨x, -, hx⟩ := List.mem_filterMap.1 hid
    cases x with
    | node i =>
      rw [Option.ite_none_right_eq_some, Option.some_inj] at hx
      exact hx.2 ▸ hx.1
    | _ => cases hx
  | _ => cases h

/-- What an expression stands for is a part of the walk over the document, in its order; taken as a
text it is the text of the point that the walk comes to first. -/
theorem eval_in_order (f : Flavor) (text : String) (e : Expr) (c : Context)
    (hc : c.point.Belongs (Document.parse f text)) :
    (∀ xs, e.eval (Document.parse f text) c = .ok (.points xs) →
      (∀ x ∈ xs, x.Belongs (Document.parse f text)) ∧
      xs.Pairwise (fun x y => x.precedes y = true) ∧ xs.Nodup ∧
      xs.Sublist (Point.all (Document.parse f text)) ∧
      (Value.points xs).toText (Document.parse f text) =
        ((Point.all (Document.parse f text)).find? (· ∈ xs)).elim ""
          (stringValue (Document.parse f text))) ∧
    ∀ ids, e.select (Document.parse f text) = .ok ids →
      ids.Pairwise (· < ·) ∧ ∀ id ∈ ids, (Document.parse f text).isElement id = true := by
  refine ⟨fun xs hxs => ?_, fun ids => Expr.select_sorted⟩
  have horder := Expr.eval_inOrder hc e hxs
  have hall := Point.eq_filter_all horder.sorted horder.belong
  have hnodup : xs.Nodup := by
    refine horder.sorted.imp fun {x y} hxy heq => ?_
    subst heq
    exact Point.precedes_irrefl x hxy
  refine ⟨horder.belong, horder.sorted, hnodup, ?_, ?_⟩
  · rw [hall]
    exact List.filter_sublist
  · have hhead : xs.head? = (Point.all (Document.parse f text)).find? (· ∈ xs) := by
      rw [← List.head?_filter, ← hall]
    rw [Value.toText, hhead]

theorem eval_in_order_attribute :
    let d := Document.parse .xml "<a b='c'>t<d/></a>"
    let e := Expr.union (.relative [.mk .parent .node [], .mk .child .any []])
      (.relative [.mk .self .node []])
    (Point.attribute 0 0).Belongs d ∧
      e.eval d ⟨.attribute 0 0, 1, 1⟩ = .ok (.points [.attribute 0 0, .node 2]) ∧
      [.attribute 0 0, .node 2].Sublist (Point.all d) := by
  have hpoint : (Point.attribute 0 0).Belongs (Document.parse .xml "<a b='c'>t<d/></a>") := by
    have hany : ((Document.parse .xml "<a b='c'>t<d/></a>").element? 0).any
        (fun e => 0 < e.attributes.length) = true := by decide +kernel
    obtain ⟨e, he, hlt⟩ := (Option.any_eq_true _ _).1 hany
    exact ⟨e, he, of_decide_eq_true hlt⟩
  have hall : ((Expr.union (.relative [.mk .parent .node [], .mk .child .any []])
      (.relative [.mk .self .node []])).eval (Document.parse .xml "<a b='c'>t<d/></a>")
      ⟨.attribute 0 0, 1, 1⟩ >>= Value.toPoints) = .ok [.attribute 0 0, .node 2] := by
    decide +kernel
  obtain ⟨v, heval, hvalue⟩ := bind_eq_ok.1 hall
  rw [Value.eq_of_toPoints hvalue] at heval
  obtain ⟨hpoints, -⟩ := eval_in_order .xml "<a b='c'>t<d/></a>" _ ⟨.attribute 0 0, 1, 1⟩ hpoint
  exact ⟨hpoint, heval, (hpoints _ heval).2.2.2.1⟩

end Parsed
end MarkupSplice.XPath
