import Mathlib.Data.List.Sort
import Mathlib.Logic.Relation
import MarkupSplice.Proofs.Markup.Extent

/-!
# Subtrees

What stands in a node are the nodes behind it up to some other one
(`Growth.exists_spans`), and that stays so when the node is not open any more.
So a walk that goes from each node to its children, one after another, meets
all nodes in the order of their numbers (`arena_parse`).
-/
namespace MarkupSplice
open Markup Text

namespace Growth

variable {g : Growth} {p : Piece} {i m : Nat} {a : OpenElement}

structure Spans (g : Growth) (i m : Nat) : Prop where
  lt : i < m
  le : m ≤ g.nodes.size
  mem : ∀ j, j < g.nodes.size → (i ∈ g.document.ancestors j ↔ i < j ∧ j < m)

theorem Lineage.spans_opened (h : g.Lineage) (hs : g.Sound) (ha : a ∈ g.opened) :
    g.Spans a.id g.nodes.size := by
  refine ⟨hs.id_lt ha, Nat.le_refl _, fun j hj => ?_⟩
  constructor
  · intro hmem
    exact ⟨Document.lt_of_mem_ancestors hmem, hj⟩
  · intro hlt
    exact h.below a ha j hlt.1 hj

theorem Lineage.spans_grow (h : g.Lineage) (hs : g.Sound) (ha : a ∈ g.opened) (p : Piece) :
    (g.grow p).Spans a.id (g.grow p).nodes.size := by
  have hid := hs.id_lt ha
  have hsize := size_grow (g := g) p
  refine ⟨by omega, Nat.le_refl _, fun j hj => ?_⟩
  constructor
  · intro hmem
    exact ⟨Document.lt_of_mem_ancestors hmem, hj⟩
  · rintro ⟨hlt, -⟩
    by_cases hold : j < g.nodes.size
    · rw [ancestors_grow hold]
      exact h.below a ha j hlt hold
    · exact (h.mem_ancestors_new hs (Nat.le_of_not_lt hold) hj hid).2 ⟨a, ha, rfl⟩

theorem Spans.grow (h : g.Spans i m) (hl : g.Lineage) (hs : g.Sound)
    (hopen : ∀ a ∈ g.opened, a.id ≠ i) (p : Piece) : (g.grow p).Spans i m := by
  have hlt := h.lt
  have hle := h.le
  have hsize := size_grow (g := g) p
  refine ⟨hlt, by omega, fun j hj => ?_⟩
  by_cases hold : j < g.nodes.size
  · rw [ancestors_grow hold]
    exact h.mem j hold
  · have hnew := hl.mem_ancestors_new hs (Nat.le_of_not_lt hold) hj (Nat.lt_of_lt_of_le hlt hle)
    rw [hnew]
    constructor
    · rintro ⟨a, ha, hid⟩
      exact absurd hid (hopen a ha)
    · intro hbetween
      omega

theorem Spans.foldl (h : g.Spans i m) (hl : g.Lineage) (hs : g.Sound)
    (hopen : ∀ a ∈ g.opened, a.id ≠ i) (ps : List Piece) : (ps.foldl Growth.grow g).Spans i m := by
  induction ps generalizing g with
  | nil => exact h
  | cons p ps ih =>
    have hi : i < g.nodes.size := Nat.lt_of_lt_of_le h.lt h.le
    exact ih (h.grow hl hs hopen p) (hl.grow hs p) (hs.grow p) (closed_grow hs hi hopen p).2.2

theorem Lineage.spans_new (h : g.Lineage) (hs : g.Sound) (hi : g.nodes.size ≤ i)
    (hlt : i < (g.grow p).nodes.size) : (g.grow p).Spans i (g.grow p).nodes.size := by
  have hsize := size_grow (g := g) p
  have htwo := g.length_added_le p
  refine ⟨hlt, Nat.le_refl _, fun j hj => ?_⟩
  constructor
  · intro hmem
    exact ⟨Document.lt_of_mem_ancestors hmem, hj⟩
  · -- only verbatim content is added behind a node that is new as well
    rintro ⟨hij, -⟩
    obtain rfl : i = g.nodes.size := by omega
    obtain rfl : j = g.nodes.size + 1 := by omega
    rw [h.ancestors_content hs hj]
    exact List.mem_cons_self

theorem exists_spans (f : Flavor) (ps : List Piece) (hi : i < (ofPieces f ps).nodes.size) :
    ∃ m, (ofPieces f ps).Spans i m := by
  induction ps using List.reverseRecOn with
  | nil => simp [ofPieces, start] at hi
  | append_singleton ps p ih =>
    have hs := sound_ofPieces f ps
    have hl := lineage_ofPieces f ps
    have hfold : ofPieces f (ps ++ [p]) = (ofPieces f ps).grow p := ofPieces_append f ps [p]
    rw [hfold] at hi ⊢
    by_cases hold : i < (ofPieces f ps).nodes.size
    · by_cases hopen : ∀ a ∈ (ofPieces f ps).opened, a.id ≠ i
      · obtain ⟨m, hm⟩ := ih hold
        exact ⟨m, hm.grow hl hs hopen p⟩
      · push Not at hopen
        obtain ⟨a, ha, rfl⟩ := hopen
        exact ⟨_, hl.spans_grow hs ha p⟩
    · exact ⟨_, hl.spans_new hs (Nat.le_of_not_lt hold) hi⟩

end Growth

namespace Document

section Lists

variable {d : Document} {i j c : Nat} {p : Option Nat}

theorem mem_childrenOf : c ∈ d.childrenOf p ↔ c < d.size ∧ d.parent? c = p := by
  rw [childrenOf, List.mem_filter, ids, List.mem_range, beq_iff_eq]

theorem childrenOf_sorted (d : Document) (p : Option Nat) :
    (d.childrenOf p).Pairwise (· < ·) := List.pairwise_lt_range.filter _

theorem lt_size_of_parent {q : Nat} (h : d.parent? c = some q) : c < d.size :=
  lt_size_of_child (mem_children.2 h)

theorem lt_size_of_mem_ancestors (h : i ∈ d.ancestors j) : j < d.size := by
  obtain ⟨c, hc, hcj⟩ := exists_child_of_mem_ancestors h
  cases hparent : d.parent? j with
  | none =>
    rw [ancestors_of_root hparent] at h
    cases h
  | some q => exact lt_size_of_parent hparent

theorem mem_descendants : j ∈ d.descendants i ↔ i ∈ d.ancestors j := by
  rw [descendants, List.mem_filter, ids, List.mem_range, List.contains_iff_mem]
  exact and_iff_right_of_imp lt_size_of_mem_ancestors

theorem descendants_sorted (d : Document) (i : Nat) : (d.descendants i).Pairwise (· < ·) :=
  List.pairwise_lt_range.filter _

def Within (d : Document) (j i : Nat) : Prop :=
  Relation.TransGen (fun c q => d.parent? c = some q) j i

theorem within_of_mem_ancestors (h : i ∈ d.ancestors j) : d.Within j i := by
  fun_induction ancestors d j with
  | case1 => cases h
  | case2 j q hparent hlt ih =>
    rcases List.mem_cons.1 h with rfl | h
    · exact .single hparent
    · exact .head hparent (ih h)
  | case3 => cases h

end Lists

variable {f : Flavor} {text : String} {i j : Nat}

theorem lt_of_parent (h : (parse f text).parent? j = some i) : i < j :=
  lt_of_child (mem_children.2 h)

theorem mem_ancestors_iff : i ∈ (parse f text).ancestors j ↔ (parse f text).Within j i := by
  constructor
  · exact within_of_mem_ancestors
  · intro h
    induction h using Relation.TransGen.head_induction_on with
    | single hparent =>
      rw [ancestors_of_parent hparent (lt_of_parent hparent)]
      exact List.mem_cons_self
    | head hparent _ ih =>
      rw [ancestors_of_parent hparent (lt_of_parent hparent)]
      exact List.mem_cons_of_mem _ ih

theorem mem_descendants_of_spans {m : Nat}
    (h : (Growth.ofPieces f (pieces f (stripMark text.toList).1)).Spans i m) (j : Nat) :
    j ∈ (parse f text).descendants i ↔ i < j ∧ j < m := by
  rw [mem_descendants, ancestors_parse]
  constructor
  · intro hmem
    exact (h.mem j (lt_size_of_mem_ancestors hmem)).1 hmem
  · intro hbetween
    exact (h.mem j (Nat.lt_of_lt_of_le hbetween.2 h.le)).2 hbetween

theorem exists_span (hi : i < (parse f text).size) :
    ∃ m, i < m ∧ m ≤ (parse f text).size ∧
      ∀ j, j ∈ (parse f text).descendants i ↔ i < j ∧ j < m := by
  obtain ⟨m, hspans⟩ := Growth.exists_spans f (pieces f (stripMark text.toList).1) hi
  exact ⟨m, hspans.lt, hspans.le, mem_descendants_of_spans hspans⟩

theorem exists_descendants (hi : i < (parse f text).size) :
    ∃ k, (parse f text).descendants i = List.range' (i + 1) k := by
  obtain ⟨m, hlt, -, hmem⟩ := exists_span hi
  refine ⟨m - (i + 1), ?_⟩
  apply List.Pairwise.eq_of_mem_iff (descendants_sorted _ i) List.pairwise_lt_range'
  intro j
  rw [hmem, List.mem_range'_1]
  omega

def walk (d : Document) (i : Nat) : List Nat :=
  i :: (d.children i).attach.flatMap fun c => if i < c.1 then d.walk c.1 else []
termination_by d.size - i
decreasing_by
  have hsize := lt_size_of_child c.2
  omega

theorem walk_eq (i : Nat) :
    (parse f text).walk i =
      i :: ((parse f text).children i).flatMap (parse f text).walk := by
  have hall : ∀ c ∈ ((parse f text).children i).attach,
      (if i < c.1 then (parse f text).walk c.1 else []) = (parse f text).walk c.1 :=
    fun c _ => if_pos (lt_of_child c.2)
  rw [walk, List.flatMap_congr hall, List.flatMap_subtype (fun _ _ => rfl), List.unattach_attach]

theorem lt_of_not_within {c c' : Nat} (hlt : c < c') (hc : c < (parse f text).size)
    (hnot : c ∉ (parse f text).ancestors c') {x y : Nat}
    (hx : x ∈ c :: (parse f text).descendants c) (hy : y ∈ c' :: (parse f text).descendants c') :
    x < y := by
  obtain ⟨m, hm, -, hmem⟩ := exists_span hc
  have hbehind : ¬(c < c' ∧ c' < m) := by rwa [← hmem, mem_descendants]
  have hxm : x < m := by
    rcases List.mem_cons.1 hx with rfl | hx
    · exact hm
    · exact ((hmem x).1 hx).2
  have hyc : c' ≤ y := by
    rcases List.mem_cons.1 hy with rfl | hy
    · exact Nat.le_refl _
    · exact Nat.le_of_lt (lt_of_mem_ancestors (mem_descendants.1 hy))
  omega

theorem walks_sorted {cs : List Nat} (hcs : cs.Pairwise (· < ·))
    (hsize : ∀ c ∈ cs, c < (parse f text).size)
    (hnot : ∀ c ∈ cs, ∀ c' ∈ cs, c ∉ (parse f text).ancestors c') :
    (cs.flatMap fun c => c :: (parse f text).descendants c).Pairwise (· < ·) := by
  rw [List.pairwise_flatMap]
  constructor
  · intro c _
    refine List.pairwise_cons.2 ⟨fun x hx => ?_, descendants_sorted _ c⟩
    exact lt_of_mem_ancestors (mem_descendants.1 hx)
  · refine hcs.imp_of_mem fun {c c'} hc hc' hlt => ?_
    exact fun x hx y hy => lt_of_not_within hlt (hsize c hc) (hnot c hc c' hc') hx hy

theorem descendants_eq (i : Nat) :
    (parse f text).descendants i =
      ((parse f text).children i).flatMap fun c => c :: (parse f text).descendants c := by
  apply List.Pairwise.eq_of_mem_iff (descendants_sorted _ i)
  · exact walks_sorted (children_sorted _ i) (fun c hc => lt_size_of_child hc)
      fun c hc c' hc' => not_mem_ancestors_of_child hc hc'
  · intro j
    simp only [List.mem_flatMap, List.mem_cons, mem_descendants]
    constructor
    · intro h
      obtain ⟨c, hc, hcj⟩ := exists_child_of_mem_ancestors h
      exact ⟨c, hc, hcj.imp_left Eq.symm⟩
    · rintro ⟨c, hc, hcj⟩
      have hparent := Relation.TransGen.single (r := fun c q => (parse f text).parent? c = some q)
        (mem_children.1 hc)
      rcases hcj with rfl | hcj
      · exact mem_ancestors_iff.2 hparent
      · exact mem_ancestors_iff.2 ((mem_ancestors_iff.1 hcj).trans hparent)

theorem walk_eq_descendants (i : Nat) :
    (parse f text).walk i = i :: (parse f text).descendants i := by
  induction hn : (parse f text).size - i using Nat.strong_induction_on generalizing i with
  | _ n ih =>
    rw [walk_eq, descendants_eq]
    congr 1
    apply List.flatMap_congr
    intro c hc
    have hlt := lt_of_child hc
    have hsize := lt_size_of_child hc
    exact ih ((parse f text).size - c) (by omega) c rfl

theorem exists_root (hj : j < (parse f text).size) :
    ∃ r ∈ (parse f text).roots, j ∈ r :: (parse f text).descendants r := by
  induction j using Nat.strong_induction_on with
  | _ j ih =>
    cases hparent : (parse f text).parent? j with
    | none => exact ⟨j, mem_childrenOf.2 ⟨hj, hparent⟩, List.mem_cons_self⟩
    | some p =>
      have hlt := lt_of_parent hparent
      obtain ⟨r, hr, hmem⟩ := ih p hlt (Nat.lt_trans hlt hj)
      refine ⟨r, hr, List.mem_cons_of_mem _ (mem_descendants.2 ?_)⟩
      rw [ancestors_of_parent hparent hlt]
      rcases List.mem_cons.1 hmem with rfl | hmem
      · exact List.mem_cons_self
      · exact List.mem_cons_of_mem _ (mem_descendants.1 hmem)

theorem walk_roots :
    (parse f text).roots.flatMap (parse f text).walk = (parse f text).ids := by
  have hwalk : (parse f text).walk = fun i => i :: (parse f text).descendants i :=
    funext walk_eq_descendants
  rw [hwalk]
  apply List.Pairwise.eq_of_mem_iff (r := (· < ·)) _ List.pairwise_lt_range
  · intro j
    rw [List.mem_flatMap, List.mem_range]
    constructor
    · rintro ⟨r, hr, hj⟩
      rcases List.mem_cons.1 hj with rfl | hj
      · exact (mem_childrenOf.1 hr).1
      · exact lt_size_of_mem_ancestors (mem_descendants.1 hj)
    · intro hj
      exact exists_root hj
  · refine walks_sorted (childrenOf_sorted _ none) (fun r hr => (mem_childrenOf.1 hr).1) ?_
    intro r _ r' hr'
    rw [ancestors_of_root (mem_childrenOf.1 hr').2]
    exact List.not_mem_nil

/-- A stack of nodes, and the nodes met when each one is taken off for its children. -/
inductive Visits (d : Document) : List Nat → List Nat → Prop
  | done : Visits d [] []
  | next {i : Nat} {stack out : List Nat} (rest : Visits d (d.children i ++ stack) out) :
      Visits d (i :: stack) (i :: out)

theorem visits_walks {cs : List Nat}
    (hwalk : ∀ c ∈ cs, ∀ stack out, (parse f text).Visits stack out →
      (parse f text).Visits (c :: stack) ((parse f text).walk c ++ out))
    {stack out : List Nat} (h : (parse f text).Visits stack out) :
    (parse f text).Visits (cs ++ stack) (cs.flatMap (parse f text).walk ++ out) := by
  induction cs with
  | nil => exact h
  | cons c cs ih =>
    rw [List.flatMap_cons, List.append_assoc]
    exact hwalk c List.mem_cons_self _ _ (ih fun c' hc' => hwalk c' (List.mem_cons_of_mem _ hc'))

theorem visits_walk (i : Nat) {stack out : List Nat} (h : (parse f text).Visits stack out) :
    (parse f text).Visits (i :: stack) ((parse f text).walk i ++ out) := by
  -- the children are nearer to the end of the forest than the node they replace
  induction hn : (parse f text).size - i using Nat.strong_induction_on
      generalizing i stack out with
  | _ n ih =>
    rw [walk_eq]
    refine .next (visits_walks (fun c hc stack out h => ?_) h)
    have hlt := lt_of_child hc
    have hsize := lt_size_of_child hc
    exact ih ((parse f text).size - c) (by omega) c h rfl

structure Links where
  roots : List Nat
  children : Array (List Nat)

namespace Links

variable {l : Links}

def listOf (l : Links) : Option Nat → List Nat
  | none => l.roots
  | some i => l.children.getD i []

def push (l : Links) (parent : Option Nat) : Links :=
  match parent with
  | none => ⟨l.roots ++ [l.children.size], l.children.push []⟩
  | some p => ⟨l.roots, (l.children.push []).modify p (· ++ [l.children.size])⟩

theorem size_push (parent : Option Nat) :
    (l.push parent).children.size = l.children.size + 1 := by
  cases parent <;> simp [push]

theorem listOf_push {parent : Option Nat} (h : ∀ i, parent = some i → i < l.children.size)
    (q : Option Nat) :
    (l.push parent).listOf q = l.listOf q ++ if q = parent then [l.children.size] else [] := by
  have hnew : ∀ i, (l.children.push []).getD i [] = l.children.getD i [] := by
    intro i
    rcases Nat.lt_trichotomy i l.children.size with hlt | rfl | hgt
    · simp [Array.getD_eq_getD_getElem?, Array.getElem?_push, Nat.ne_of_lt hlt]
    · simp [Array.getD_eq_getD_getElem?]
    · simp [Array.getD_eq_getD_getElem?, Array.getElem?_push, Nat.ne_of_gt hgt]
  cases parent with
  | none =>
    cases q with
    | none => rfl
    | some i => simp [push, listOf, hnew]
  | some p =>
    cases q with
    | none => simp [push, listOf]
    | some i =>
      by_cases hip : p = i
      · subst hip
        have hp := h p rfl
        simp [push, listOf, Array.getD_eq_getD_getElem?, Array.getElem?_modify,
          Array.getElem?_push, Nat.ne_of_lt hp, hp]
      · have hne : ¬ i = p := fun heq => hip heq.symm
        have hold : l.listOf (some i) = (l.children.push []).getD i [] := (hnew i).symm
        rw [hold]
        simp [push, listOf, Array.getD_eq_getD_getElem?, Array.getElem?_modify, hip, hne]

end Links

def links (d : Document) : Links := d.nodes.foldl (fun l n => l.push n.parent) ⟨[], #[]⟩

theorem listOf_links (p : Option Nat) :
    (parse f text).links.listOf p = (parse f text).childrenOf p := by
  have htaken : ∀ k ≤ (parse f text).size,
      let l := ((parse f text).nodes.toList.take k).foldl (fun l n => l.push n.parent)
        (⟨[], #[]⟩ : Links)
      l.children.size = k ∧
        l.listOf p = (List.range k).filter fun j => (parse f text).parent? j == p := by
    intro k
    induction k with
    | zero =>
      intro _
      cases p <;> simp [Links.listOf]
    | succ k ih =>
      intro hk
      obtain ⟨hsize, hlist⟩ := ih (Nat.le_of_succ_le hk)
      have hlt : k < (parse f text).nodes.toList.length := hk
      have hparent : (parse f text).parent? k = (parse f text).nodes.toList[k].parent := by
        simp only [parent?, Array.getElem?_eq_getElem (show k < (parse f text).nodes.size from hk),
          Option.bind_some, Array.getElem_toList]
      simp only [List.take_succ_eq_append_getElem hlt, List.foldl_append, List.foldl_cons,
        List.foldl_nil, ← hparent]
      refine ⟨by rw [Links.size_push, hsize], ?_⟩
      rw [Links.listOf_push, hlist, hsize, List.range_succ, List.filter_append]
      · congr 1
        by_cases hp : (parse f text).parent? k = p
        · simp [hp]
        · simp [hp, Ne.symm hp]
      · intro i hi
        rw [hsize]
        exact lt_of_parent hi
  have hall := (htaken (parse f text).size (Nat.le_refl _)).2
  have htake : (parse f text).nodes.toList.take (parse f text).size =
      (parse f text).nodes.toList := List.take_of_length_le (Nat.le_refl _)
  rw [htake] at hall
  rw [links, ← Array.foldl_toList]
  exact hall

theorem listed_parse :
    ((parse f text).roots ++ (parse f text).ids.flatMap (parse f text).children).Perm
      (parse f text).ids := by
  have hnodup : ∀ p, ((parse f text).childrenOf p).Nodup := fun p =>
    (childrenOf_sorted _ p).imp fun hlt => Nat.ne_of_lt hlt
  have hapart : ∀ {p q : Option Nat}, p ≠ q →
      List.Disjoint ((parse f text).childrenOf p) ((parse f text).childrenOf q) := by
    intro p q hne c hp hq
    exact hne ((mem_childrenOf.1 hp).2.symm.trans (mem_childrenOf.1 hq).2)
  rw [List.perm_ext_iff_of_nodup]
  · intro j
    rw [List.mem_append, List.mem_flatMap, ids, List.mem_range]
    constructor
    · rintro (hroot | ⟨i, -, hchild⟩)
      · exact (mem_childrenOf.1 hroot).1
      · exact lt_size_of_child hchild
    · intro hj
      cases hparent : (parse f text).parent? j with
      | none => exact Or.inl (mem_childrenOf.2 ⟨hj, hparent⟩)
      | some p =>
        have hlt := lt_of_parent hparent
        exact Or.inr ⟨p, List.mem_range.2 (Nat.lt_trans hlt hj), mem_childrenOf.2 ⟨hj, hparent⟩⟩
  · rw [List.nodup_append', List.nodup_flatMap]
    refine ⟨hnodup none, ⟨fun i _ => hnodup (some i), ?_⟩, ?_⟩
    · refine List.nodup_range.imp fun {i j} hne => hapart ?_
      exact fun heq => hne (Option.some.inj heq)
    · intro c hroot hchild
      obtain ⟨i, -, hi⟩ := List.mem_flatMap.1 hchild
      exact hapart (Option.some_ne_none i).symm hroot hi
  · exact List.nodup_range

/-- How the nodes of a document lie in its root list and its child lists. -/
structure Arena (d : Document) : Prop where
  linked : ∀ p, d.links.listOf p = d.childrenOf p
  parents : ∀ j i, d.parent? j = some i → i < j ∧ d.isElement i = true
  listed : (d.roots ++ d.ids.flatMap d.children).Perm d.ids
  own : ∀ j p, j < d.size → (j ∈ d.childrenOf p ↔ p = d.parent? j)
  sorted : ∀ p, (d.childrenOf p).Pairwise (· < ·)
  numbered : d.roots.flatMap d.walk = d.ids
  visited : ∀ i, d.Visits (d.children i) (d.descendants i)
  contiguous : ∀ i < d.size, ∃ k, d.descendants i = List.range' (i + 1) k
  within : ∀ i j, j ∈ d.descendants i ↔ d.Within j i
  childless : ∀ i e, d.element? i = some e →
    e.closing ≠ .bracket ∨ d.flavor.isVoid e.name = true → d.children i = []

theorem childless_parse {e : Element} (he : (parse f text).element? i = some e)
    (h : e.closing ≠ .bracket ∨ f.isVoid e.name = true) : (parse f text).children i = [] := by
  by_contra hne
  obtain ⟨c, cs, hcs⟩ := List.exists_cons_of_ne_nil hne
  obtain ⟨n, e', hn, he', hbracket, hvoid⟩ :=
    bracket_of_child (c := c) (i := i) (hcs ▸ List.mem_cons_self)
  rw [element?, hn] at he
  obtain rfl := Option.some.inj (he.symm.trans he')
  rcases h with hclosing | hname
  · exact hclosing hbracket
  · rw [hvoid] at hname
    cases hname

theorem visits_descendants (i : Nat) :
    (parse f text).Visits ((parse f text).children i) ((parse f text).descendants i) := by
  have hwalks : ((parse f text).children i).flatMap (parse f text).walk =
      (parse f text).descendants i := by
    rw [descendants_eq]
    exact List.flatMap_congr fun c _ => walk_eq_descendants c
  have hvisits : (parse f text).Visits ((parse f text).children i ++ [])
      (((parse f text).children i).flatMap (parse f text).walk ++ []) :=
    visits_walks (fun c _ _ _ h => visits_walk c h) .done
  rwa [List.append_nil, List.append_nil, hwalks] at hvisits

theorem arena_parse (f : Flavor) (text : String) : (parse f text).Arena where
  linked := listOf_links
  parents := by
    intro j i hparent
    obtain ⟨n, e, hn, he, -⟩ := bracket_of_child (mem_children.2 hparent)
    refine ⟨lt_of_parent hparent, ?_⟩
    rw [isElement, element?, hn, Option.bind_some, he]
    rfl
  listed := listed_parse
  own := by
    intro j p hj
    rw [mem_childrenOf, and_iff_right hj]
    exact eq_comm
  sorted := childrenOf_sorted _
  numbered := walk_roots
  visited := visits_descendants
  contiguous := fun _ => exists_descendants
  within := fun _ _ => mem_descendants.trans mem_ancestors_iff
  childless := fun _ _ => childless_parse

end Document
end MarkupSplice
