import MarkupSplice.Proofs.XPath.Filter

/-!
# Paths down the tree

A path that only goes down reaches nodes, and which ones is settled step by
step: a step to children asks for the parent to be reached already
(`Reaches.child`), a double slash in front of it for one of the ancestors
(`Reaches.descendant`). A path from the root begins with all nodes
(`reaches_first`).
-/
namespace MarkupSplice

theorem Document.any_ancestors {f : Flavor} {text : String} (p : Nat → Bool) (id : Nat) :
    ((parse f text).ancestors id).any p =
      ((parse f text).parent? id).any fun a => p a || ((parse f text).ancestors a).any p := by
  cases hparent : (parse f text).parent? id with
  | none => rw [ancestors_of_root hparent, Option.any_none, List.any_nil]
  | some a =>
    rw [ancestors_of_parent hparent (lt_of_parent hparent), List.any_cons, Option.any_some]

namespace XPath

section Steps

variable {d : Document} {x y : Point} {xs : List Point} {s : Step} {ss : List Step}
  {p q r : Nat → Bool} {id : Nat}

def Point.above (d : Document) (id : Nat) : Point := (d.parent? id).elim .root .node

theorem Point.mem_children :
    y ∈ x.children d ↔ ∃ id, y = .node id ∧ id < d.size ∧ above d id = x := by
  have hmap : ∀ p, y ∈ (d.childrenOf p).map .node ↔
      ∃ id, y = .node id ∧ id < d.size ∧ d.parent? id = p := by
    intro p
    simp only [List.mem_map, Document.mem_childrenOf, and_comm, eq_comm (a := y)]
  cases x with
  | root =>
    refine (hmap none).trans
      (exists_congr fun id => and_congr_right fun _ => and_congr_right fun _ => ?_)
    cases h : d.parent? id <;> simp [above, h]
  | node p =>
    refine (hmap (some p)).trans
      (exists_congr fun id => and_congr_right fun _ => and_congr_right fun _ => ?_)
    cases h : d.parent? id <;> simp [above, h]
  | «attribute» owner index =>
    refine ⟨nofun, ?_⟩
    rintro ⟨id, -, -, h⟩
    cases hparent : d.parent? id <;> simp [above, hparent] at h

theorem exists_above :
    (∃ j, Point.above d id = .node j ∧ p j = true) ↔ (d.parent? id).any p = true := by
  cases h : d.parent? id <;> simp [Point.above, h]

theorem exists_anywhere (d : Document) (xs : List Point) :
    ∃ ys, Step.anywhere.eval d xs = .ok ys ∧ ∀ y, y ∈ ys ↔ ∃ x ∈ xs, y ∈ x :: x.descendants d := by
  obtain ⟨ys, hys, hmem⟩ := Step.exists_eval (filters_nil d) .descendantOrSelf .node xs
  refine ⟨ys, hys, fun y => ?_⟩
  rw [hmem]
  simp [Axis.points, NodeTest.accepts]

structure Finds (d : Document) (s : Step) (r : Nat → Bool) : Prop where
  lt_size : ∀ id, r id = true → id < d.size
  exists_eval : ∀ xs, ∃ ys, s.eval d xs = .ok ys ∧
    ∀ y, y ∈ ys ↔ ∃ id, y = .node id ∧ Point.above d id ∈ xs ∧ r id = true

theorem finds_child {ps : List Expr} {g : Point → Bool} (hps : Filters d ps g) (test : NodeTest)
    (hr : ∀ id, r id = (test.accepts d .child (.node id) && g (.node id)))
    (hlt : ∀ id, r id = true → id < d.size) : Finds d (.mk .child test ps) r := by
  refine ⟨hlt, fun xs => ?_⟩
  obtain ⟨ys, hys, hmem⟩ := Step.exists_eval hps .child test xs
  refine ⟨ys, hys, fun y => ?_⟩
  rw [hmem]
  simp only [Axis.points, Point.mem_children, hr, Bool.and_eq_true]
  constructor
  · rintro ⟨x, hx, ⟨id, rfl, -, rfl⟩, htest, hg⟩
    exact ⟨id, rfl, hx, htest, hg⟩
  · rintro ⟨id, rfl, habove, htest, hg⟩
    have hid := hlt id (by rw [hr, htest, hg, Bool.true_and])
    exact ⟨_, habove, ⟨id, rfl, hid, rfl⟩, htest, hg⟩

/-- Whether steps from the root lead to the nodes that satisfy `p`, and to nothing else. -/
def Reaches (d : Document) (ss : List Step) (p : Nat → Bool) : Prop :=
  ∃ ys, evalSteps d ss [.root] = .ok ys ∧ ∀ y, y ∈ ys ↔ ∃ id, y = .node id ∧ p id = true

theorem reaches_concat (hs : Finds d s r) (hxs : evalSteps d ss [.root] = .ok xs)
    (hq : ∀ id, id < d.size → (Point.above d id ∈ xs ↔ q id = true)) :
    Reaches d (ss ++ [s]) fun id => r id && q id := by
  obtain ⟨ys, hys, hmem⟩ := hs.exists_eval xs
  refine ⟨ys, ?_, fun y => ?_⟩
  · rw [evalSteps_append, hxs]
    exact (bind_pure _).trans hys
  · rw [hmem]
    refine exists_congr fun id => and_congr_right fun _ => ?_
    rw [Bool.and_eq_true, and_comm]
    exact and_congr_right fun hr => hq id (hs.lt_size id hr)

theorem Reaches.child (h : Reaches d ss p) (hs : Finds d s r) :
    Reaches d (ss ++ [s]) fun id => r id && (d.parent? id).any p := by
  obtain ⟨xs, hxs, hmem⟩ := h
  refine reaches_concat hs hxs fun id _ => ?_
  rw [hmem, exists_above]

end Steps

section Parsed

variable {f : Flavor} {text : String} {s : Step} {ss : List Step} {p r : Nat → Bool}

theorem Reaches.descendant (h : Reaches (Document.parse f text) ss p)
    (hs : Finds (Document.parse f text) s r) :
    Reaches (Document.parse f text) (ss ++ [.anywhere, s]) fun id =>
      r id && ((Document.parse f text).ancestors id).any p := by
  obtain ⟨xs, hxs, hmem⟩ := h
  obtain ⟨ys, hys, hmemys⟩ := exists_anywhere (Document.parse f text) xs
  have hsteps : evalSteps (Document.parse f text) (ss ++ [.anywhere]) [.root] = .ok ys := by
    rw [evalSteps_append, hxs]
    exact (bind_pure _).trans hys
  rw [List.append_cons]
  refine reaches_concat hs hsteps fun id _ => ?_
  rw [Document.any_ancestors, ← exists_above, hmemys]
  simp only [hmem, Bool.or_eq_true, List.any_eq_true]
  constructor
  · rintro ⟨x, ⟨a, rfl, ha⟩, habove⟩
    rcases List.mem_cons.1 habove with habove | habove
    · exact ⟨a, habove, Or.inl ha⟩
    · obtain ⟨j, hj, habove⟩ := List.mem_map.1 habove
      exact ⟨j, habove.symm, Or.inr ⟨a, Document.mem_descendants.1 hj, ha⟩⟩
  · rintro ⟨j, habove, hj | ⟨a, ha, hp⟩⟩
    · exact ⟨.node j, ⟨j, rfl, hj⟩, habove ▸ List.mem_cons_self⟩
    · refine ⟨.node a, ⟨a, rfl, hp⟩, List.mem_cons_of_mem _ ?_⟩
      exact List.mem_map.2 ⟨j, Document.mem_descendants.2 ha, habove.symm⟩

theorem reaches_first (hs : Finds (Document.parse f text) s r) :
    Reaches (Document.parse f text) [.anywhere, s] r := by
  obtain ⟨ys, hys, hmem⟩ := exists_anywhere (Document.parse f text) [.root]
  have hsteps : evalSteps (Document.parse f text) [.anywhere] [.root] = .ok ys :=
    (bind_pure _).trans hys
  have hall := reaches_concat (q := fun _ => true) hs hsteps fun id hid => by
    refine iff_of_true ((hmem _).2 ⟨.root, List.mem_singleton_self _, ?_⟩) rfl
    cases hparent : (Document.parse f text).parent? id with
    | none =>
      rw [Point.above, hparent]
      exact List.mem_cons_self
    | some p =>
      rw [Point.above, hparent]
      have hp := Nat.lt_trans (Document.lt_of_parent hparent) hid
      exact List.mem_cons_of_mem _ (List.mem_map.2 ⟨p, List.mem_range.2 hp, rfl⟩)
  simp only [Bool.and_true] at hall
  exact hall

theorem select_of_reaches (h : Reaches (Document.parse f text) ss p) :
    (Expr.absolute ss).select (Document.parse f text) =
      .ok ((Document.parse f text).elements.filter p) := by
  obtain ⟨ys, hys, hmem⟩ := h
  have heval : (Expr.absolute ss).eval (Document.parse f text) ⟨.root, 1, 1⟩ =
      .ok (.points ys) := by
    rw [Expr.eval, hys]
    rfl
  obtain ⟨ids, hselect, hids⟩ := Expr.select_of_eval heval
  rw [hselect]
  congr 1
  have hsorted := (Expr.select_sorted hselect).1
  apply hsorted.eq_of_mem_iff
  · exact (List.pairwise_lt_range.filter _).filter _
  · intro id
    rw [hids, hmem, List.mem_filter, Document.mem_elements]
    simp [and_comm]

end Parsed
end XPath
end MarkupSplice
