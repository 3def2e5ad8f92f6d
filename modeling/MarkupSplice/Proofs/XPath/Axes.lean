import MarkupSplice.Proofs.XPath.Descent

/-!
# Axes

A point lies in the direction of an axis, seen from another one, exactly when
that one lies in the opposite direction seen from it: children have a parent,
descendants have ancestors, and siblings that follow have siblings that precede
(`axes_dual`). An axis comes to the nearer of two points first, so the position
that a predicate asks for counts the nearer points (`keep_of_nearer`).
-/
namespace MarkupSplice

theorem Document.ancestors_sorted (d : Document) (id : Nat) :
    (d.ancestors id).Pairwise (· > ·) := by
  fun_induction Document.ancestors d id with
  | case1 => exact List.Pairwise.nil
  | case2 id p _ _ ih => exact List.pairwise_cons.2 ⟨fun a ha => lt_of_mem_ancestors ha, ih⟩
  | case3 => exact List.Pairwise.nil

namespace XPath

section Lists

variable {α β ι : Type}

theorem tail_dropWhile_bne_eq_filter {l : List Nat} {b : Nat} (hl : l.Pairwise (· < ·))
    (hb : b ∈ l) : (l.dropWhile (· != b)).tail = l.filter (b < ·) := by
  induction l with
  | nil => rfl
  | cons a l ih =>
    obtain ⟨hlater, hrest⟩ := List.pairwise_cons.1 hl
    by_cases hab : a = b
    · subst hab
      have hall : l.filter (a < ·) = l :=
        List.filter_eq_self.2 fun c hc => decide_eq_true (hlater c hc)
      simp [hall]
    · have hbl : b ∈ l := (List.mem_cons.1 hb).resolve_left fun h => hab h.symm
      have hlt := hlater b hbl
      simp [hab, Nat.not_lt_of_gt hlt, ih hrest hbl]

/-- In an ordered list as many members come before one as the order has before it. -/
theorem zipIdx_eq_map_countP {r : α → α → Bool} {l : List α}
    (hr : ∀ x y, r x y = true → ¬r y x = true) (hl : l.Pairwise fun x y => r x y = true) :
    l.zipIdx = l.map fun y => (y, l.countP fun x => r x y) := by
  induction l with
  | nil => rfl
  | cons x l ih =>
    obtain ⟨hfirst, hrest⟩ := List.pairwise_cons.1 hl
    have hself : ¬r x x = true := fun h => hr x x h h
    have hnone : (x :: l).countP (fun y => r y x) = 0 := by
      rw [List.countP_eq_zero, List.forall_mem_cons]
      exact ⟨hself, fun y hy => hr x y (hfirst y hy)⟩
    rw [List.zipIdx_cons, List.zipIdx_succ, ih hrest, List.map_cons, hnone, List.map_map]
    congr 1
    apply List.map_congr_left
    intro y hy
    have hone : (x :: l).countP (fun x => r x y) = l.countP (fun x => r x y) + 1 :=
      List.countP_cons_of_pos (p := fun x => r x y) (hfirst y hy)
    rw [hone]
    rfl

theorem filterMapM_map {m : Type → Type} [Monad m] [LawfulMonad m] (k : ι → α)
    (g : α → m (Option β)) (l : List ι) :
    (l.map k).filterMapM g = l.filterMapM fun x => g (k x) := by
  induction l with
  | nil => rfl
  | cons x l ih => rw [List.map_cons, List.filterMapM_cons, List.filterMapM_cons, ih]

end Lists

namespace Point

def isAttribute : Point → Bool
  | .attribute _ _ => true
  | _ => false

variable {d : Document} {x y : Point} {i : Nat}

theorem mem_children_iff (hy : y.Belongs d) :
    y ∈ x.children d ↔ y.isAttribute = false ∧ y.parent? d = some x := by
  rw [mem_children]
  constructor
  · rintro ⟨id, rfl, -, rfl⟩
    exact ⟨rfl, rfl⟩
  · rintro ⟨hattribute, hparent⟩
    cases y with
    | root => cases hparent
    | node id => exact ⟨id, rfl, hy, Option.some.inj hparent⟩
    | «attribute» owner index => cases hattribute

theorem mem_ancestors_node :
    y ∈ (node i).ancestors d ↔ y = .root ∨ ∃ a ∈ d.ancestors i, y = .node a := by
  rw [ancestors, List.mem_append, List.mem_singleton, List.mem_map, or_comm]
  simp only [eq_comm]

theorem mem_descendants :
    y ∈ x.descendants d ↔ ∃ id, y = .node id ∧ id < d.size ∧ x ∈ (node id).ancestors d := by
  simp only [mem_ancestors_node]
  cases x with
  | root =>
    simp only [descendants, List.mem_map, Document.ids, List.mem_range, eq_comm (a := y)]
    constructor
    · rintro ⟨id, hid, rfl⟩
      exact ⟨id, rfl, hid, Or.inl trivial⟩
    · rintro ⟨id, rfl, hid, -⟩
      exact ⟨id, hid, rfl⟩
  | node p =>
    simp only [descendants, List.mem_map, Document.mem_descendants, eq_comm (a := y)]
    constructor
    · rintro ⟨id, hp, rfl⟩
      exact ⟨id, rfl, Document.lt_size_of_mem_ancestors hp, Or.inr ⟨p, hp, rfl⟩⟩
    · rintro ⟨id, rfl, -, hroot | ⟨a, ha, heq⟩⟩
      · cases hroot
      · obtain rfl := node.inj heq
        exact ⟨id, ha, rfl⟩
  | «attribute» owner index => simp [descendants]

theorem mem_descendants_iff (hy : y.Belongs d) :
    y ∈ x.descendants d ↔ y.isAttribute = false ∧ x ∈ y.ancestors d := by
  rw [mem_descendants]
  constructor
  · rintro ⟨id, rfl, -, hx⟩
    exact ⟨rfl, hx⟩
  · rintro ⟨hattribute, hx⟩
    cases y with
    | root => cases hx
    | node id => exact ⟨id, rfl, hy, hx⟩
    | «attribute» owner index => cases hattribute

theorem precedes_of_mem_ancestors (h : y ∈ x.ancestors d) : y.precedes x = true := by
  have hnode : ∀ {id}, y ∈ (node id).ancestors d → y.order.1 < id + 1 := by
    intro id hy
    rcases mem_ancestors_node.1 hy with rfl | ⟨a, ha, rfl⟩
    · exact Nat.succ_pos id
    · exact Nat.succ_lt_succ (Document.lt_of_mem_ancestors ha)
  rw [precedes_iff]
  cases x with
  | root => cases h
  | node id => exact Or.inl (hnode h)
  | «attribute» owner index =>
    rcases List.mem_cons.1 h with rfl | h
    · exact Or.inr ⟨rfl, Nat.succ_pos index⟩
    · exact Or.inl (hnode h)

theorem ancestors_sorted (d : Document) (x : Point) :
    (x.ancestors d).Pairwise fun y z => z.precedes y = true := by
  have hnode : ∀ id, ((node id).ancestors d).Pairwise fun y z => z.precedes y = true := by
    intro id
    refine List.pairwise_append.2 ⟨List.pairwise_map.2 ?_, List.pairwise_singleton _ _, ?_⟩
    · refine (d.ancestors_sorted id).imp fun hgt => ?_
      exact precedes_iff.2 (Or.inl (Nat.succ_lt_succ hgt))
    · rintro y hy z hz
      obtain ⟨a, -, rfl⟩ := List.mem_map.1 hy
      obtain rfl := List.mem_singleton.1 hz
      exact precedes_iff.2 (Or.inl (Nat.succ_pos a))
  cases x with
  | root => exact List.Pairwise.nil
  | node id => exact hnode id
  | «attribute» owner index =>
    exact List.pairwise_cons.2 ⟨fun z hz => precedes_of_mem_ancestors hz, hnode owner⟩

theorem ancestors_eq (f : Flavor) (text : String) (x : Point) :
    x.ancestors (Document.parse f text) = (x.parent? (Document.parse f text)).elim []
      fun p => p :: p.ancestors (Document.parse f text) := by
  cases x with
  | root => rfl
  | node id =>
    cases hparent : (Document.parse f text).parent? id with
    | none => simp [ancestors, parent?, hparent, Document.ancestors_of_root hparent]
    | some p =>
      have hup := Document.ancestors_of_parent hparent (Document.lt_of_parent hparent)
      simp [ancestors, parent?, hparent, hup]
  | «attribute» owner index => rfl

theorem followingSiblings_eq (hi : i < d.size) :
    (node i).followingSiblings d = ((siblings d i).filter (i < ·)).map .node := by
  rw [followingSiblings, siblings, tail_dropWhile_bne_eq_filter (d.childrenOf_sorted _)
    (Document.mem_childrenOf.2 ⟨hi, rfl⟩)]

theorem precedingSiblings_eq (hi : i < d.size) :
    (node i).precedingSiblings d = ((siblings d i).filter (· < i)).reverse.map .node := by
  rw [precedingSiblings, siblings, Css.takeWhile_bne_eq_filter (d.childrenOf_sorted _)
    (Document.mem_childrenOf.2 ⟨hi, rfl⟩)]

theorem mem_siblings {p : Nat → Bool} :
    y ∈ ((siblings d i).filter p).map .node ↔
      ∃ j, y = .node j ∧ j < d.size ∧ d.parent? j = d.parent? i ∧ p j = true := by
  simp only [List.mem_map, List.mem_filter, siblings, Document.mem_childrenOf]
  constructor
  · rintro ⟨j, ⟨⟨hj, hparent⟩, hp⟩, rfl⟩
    exact ⟨j, rfl, hj, hparent, hp⟩
  · rintro ⟨j, rfl, hj, hparent, hp⟩
    exact ⟨j, ⟨⟨hj, hparent⟩, hp⟩, rfl⟩

theorem mem_followingSiblings (hx : x.Belongs d) :
    y ∈ x.followingSiblings d ↔
      ∃ i j, x = .node i ∧ y = .node j ∧ j < d.size ∧ d.parent? j = d.parent? i ∧ i < j := by
  cases x with
  | node i =>
    rw [followingSiblings_eq hx, mem_siblings]
    simp
  | _ => simp [followingSiblings]

theorem mem_precedingSiblings (hx : x.Belongs d) :
    y ∈ x.precedingSiblings d ↔
      ∃ i j, x = .node i ∧ y = .node j ∧ j < d.size ∧ d.parent? j = d.parent? i ∧ j < i := by
  cases x with
  | node i =>
    rw [precedingSiblings_eq hx, List.map_reverse, List.mem_reverse, mem_siblings]
    simp
  | _ => simp [precedingSiblings]

theorem mem_followingSiblings_iff (hx : x.Belongs d) (hy : y.Belongs d) :
    y ∈ x.followingSiblings d ↔ x ∈ y.precedingSiblings d := by
  rw [mem_followingSiblings hx, mem_precedingSiblings hy]
  constructor
  · rintro ⟨i, j, rfl, rfl, -, hparent, hlt⟩
    exact ⟨j, i, rfl, rfl, hx, hparent.symm, hlt⟩
  · rintro ⟨j, i, rfl, rfl, -, hparent, hlt⟩
    exact ⟨i, j, rfl, rfl, hy, hparent.symm, hlt⟩

end Point

namespace Axis

def isReverse : Axis → Bool
  | .ancestor | .ancestorOrSelf | .precedingSibling => true
  | _ => false

/-- Whether `y` is nearer than `z` in the direction of the axis. -/
def nearer (a : Axis) (y z : Point) : Bool := if a.isReverse then z.precedes y else y.precedes z

def proximity (a : Axis) (ys : List Point) (y : Point) : Nat := (ys.countP (a.nearer · y)) + 1

variable {a : Axis} {y z : Point}

theorem nearer_asymm (h : a.nearer y z = true) : ¬a.nearer z y = true := by
  intro h'
  unfold nearer at h h'
  split at h
  · exact Point.precedes_irrefl y (Point.precedes_trans (by rwa [if_pos ‹_›] at h') h)
  · exact Point.precedes_irrefl y (Point.precedes_trans h (by rwa [if_neg ‹_›] at h'))

theorem nodes_sorted {ids : List Nat} (h : ids.Pairwise (· < ·)) :
    (ids.map Point.node).Pairwise fun y z => y.precedes z = true := by
  refine List.pairwise_map.2 (h.imp fun hlt => ?_)
  exact Point.precedes_iff.2 (Or.inl (Nat.succ_lt_succ hlt))

theorem descendants_sorted (d : Document) (x : Point) :
    (x.descendants d).Pairwise fun y z => y.precedes z = true := by
  cases x with
  | root => exact nodes_sorted List.pairwise_lt_range
  | node id => exact nodes_sorted (d.descendants_sorted id)
  | «attribute» owner index => exact List.Pairwise.nil

theorem points_sorted (d : Document) (a : Axis) (x : Point) :
    (a.points d x).Pairwise fun y z => a.nearer y z = true := by
  cases a with
  | child =>
    cases x with
    | «attribute» owner index => exact List.Pairwise.nil
    | _ => exact nodes_sorted (d.childrenOf_sorted _)
  | descendant => exact descendants_sorted d x
  | descendantOrSelf =>
    refine List.pairwise_cons.2 ⟨fun y hy => ?_, descendants_sorted d x⟩
    obtain ⟨id, rfl, -, hx⟩ := Point.mem_descendants.1 hy
    exact Point.precedes_of_mem_ancestors hx
  | self => exact List.pairwise_singleton _ x
  | parent =>
    rw [points]
    cases x.parent? d with
    | none => exact List.Pairwise.nil
    | some p => exact List.pairwise_singleton _ p
  | ancestor => exact Point.ancestors_sorted d x
  | ancestorOrSelf =>
    refine List.pairwise_cons.2 ⟨fun y hy => ?_, Point.ancestors_sorted d x⟩
    exact Point.precedes_of_mem_ancestors hy
  | followingSibling =>
    cases x with
    | node id =>
      refine nodes_sorted ((d.childrenOf_sorted (d.parent? id)).sublist ?_)
      exact (List.tail_sublist _).trans (List.dropWhile_suffix _).sublist
    | _ => exact List.Pairwise.nil
  | precedingSibling =>
    cases x with
    | node id =>
      rw [points, Point.precedingSiblings, List.map_reverse]
      refine List.pairwise_reverse.2 (nodes_sorted ?_)
      exact (d.childrenOf_sorted (d.parent? id)).sublist (List.takeWhile_prefix _).sublist
    | _ => exact List.Pairwise.nil
  | «attribute» =>
    cases x with
    | node id => exact Point.attributes_sorted id
    | _ => exact List.Pairwise.nil

end Axis

/-- The position that a predicate is asked with tells how many points are nearer. -/
theorem keep_of_nearer {a : Axis} {ys : List Point}
    (h : ys.Pairwise fun y z => a.nearer y z = true)
    (holds : Context → Except EvalError Value) :
    keep holds ys = ys.filterMapM fun y => do
      return if (← holds ⟨y, a.proximity ys y, ys.length⟩).selects (a.proximity ys y) then some y
        else none := by
  rw [keep, zipIdx_eq_map_countP (fun _ _ => Axis.nearer_asymm) h, filterMapM_map]
  rfl

/-- Axes that lead opposite ways agree, those that begin with the point itself go on as the ones
without it, and each lists the nearest point first, which is what a predicate counts by. -/
theorem axes_dual (f : Flavor) (text : String) :
    let d := Document.parse f text
    (∀ x y : Point, x.Belongs d → y.Belongs d →
      (y ∈ Axis.child.points d x ↔ y.isAttribute = false ∧ y.parent? d = some x) ∧
      (y ∈ Axis.descendant.points d x ↔
        y.isAttribute = false ∧ x ∈ Axis.ancestor.points d y) ∧
      (y ∈ Axis.followingSibling.points d x ↔ x ∈ Axis.precedingSibling.points d y)) ∧
    ∀ x : Point,
      Axis.ancestor.points d x =
        (x.parent? d).elim [] (fun p => p :: Axis.ancestor.points d p) ∧
      Axis.descendantOrSelf.points d x = x :: Axis.descendant.points d x ∧
      Axis.ancestorOrSelf.points d x = x :: Axis.ancestor.points d x ∧
      ∀ a : Axis, (a.points d x).Pairwise (fun y z => a.nearer y z = true) ∧
        ∀ ys holds, ys.Sublist (a.points d x) →
          keep holds ys = ys.filterMapM fun y => do
            let position := a.proximity ys y
            return if (← holds ⟨y, position, ys.length⟩).selects position then some y
              else none := by
  intro d
  refine ⟨fun x y hx hy => ⟨?_, ?_, ?_⟩, fun x =>
    ⟨Point.ancestors_eq f text x, rfl, rfl, fun a => ⟨?_, ?_⟩⟩⟩
  · exact Point.mem_children_iff hy
  · exact Point.mem_descendants_iff hy
  · exact Point.mem_followingSiblings_iff hx hy
  · exact Axis.points_sorted d a x
  · intro ys holds hys
    exact keep_of_nearer ((Axis.points_sorted d a x).sublist hys) holds

theorem axes_dual_attribute :
    let d := Document.parse .xml "<a b='c'><d/>t</a>"
    Axis.ancestor.points d (.attribute 0 0) = [.node 0, .root] ∧
      Point.attribute 0 0 ∉ Axis.descendant.points d (.node 0) ∧
      Axis.precedingSibling.points d (.node 2) = [.node 1] ∧
      Point.node 2 ∈ Axis.followingSibling.points d (.node 1) := by
  intro d
  have hattribute : (Point.attribute 0 0).Belongs d := by
    have hany : (d.element? 0).any (fun e => 0 < e.attributes.length) = true := by decide +kernel
    obtain ⟨e, he, hlt⟩ := (Option.any_eq_true _ _).1 hany
    exact ⟨e, he, of_decide_eq_true hlt⟩
  have hsize : 2 < d.size := by decide +kernel
  have hnode : ∀ id ≤ 2, (Point.node id).Belongs d := fun id hid => Nat.lt_of_le_of_lt hid hsize
  have hancestors : Axis.ancestor.points d (.attribute 0 0) = [.node 0, .root] := by
    decide +kernel
  have hprecede : Axis.precedingSibling.points d (.node 2) = [.node 1] := by decide +kernel
  obtain ⟨hdual, -⟩ := axes_dual .xml "<a b='c'><d/>t</a>"
  obtain ⟨-, hbelow, -⟩ := hdual (.node 0) (.attribute 0 0) (hnode 0 (by decide)) hattribute
  obtain ⟨-, -, hsibling⟩ :=
    hdual (.node 1) (.node 2) (hnode 1 (by decide)) (hnode 2 (by decide))
  refine ⟨hancestors, fun hmem => ?_, hprecede, hsibling.2 ?_⟩
  · cases (hbelow.1 hmem).1
  · exact hprecede ▸ List.mem_singleton_self _

end XPath
end MarkupSplice
