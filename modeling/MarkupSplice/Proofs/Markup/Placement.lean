import MarkupSplice.Proofs.Markup.Outline
import MarkupSplice.Proofs.Markup.Tiling

/-!
# Where nodes stand

Nodes come in the order of the text: each begins behind the one in front of
it, and stands in one that was added before it (`Growth.Ordered`). Where a
document says that something begins or ends is always a place of its text, the
end of an element with its content included (`inside_outerEnd`).
-/
namespace MarkupSplice
open Markup Text
open scoped List

def Position.Inside (s : List Char) (p : Position) : Prop :=
  ∃ a, a <+: s ∧ p = Position.origin.advance a

structure Range.Inside (s : List Char) (r : Range) : Prop where
  start : r.start.Inside s
  stop : r.stop.Inside s

theorem Position.inside_append {s t : List Char} {p : Position} (h : p.Inside s) :
    p.Inside (s ++ t) := by
  obtain ⟨a, ha, hp⟩ := h
  exact ⟨a, ha.trans (List.prefix_append s t), hp⟩

theorem Position.inside_advance (a b : List Char) :
    (Position.origin.advance a).Inside (a ++ b) := ⟨a, List.prefix_append a b, rfl⟩

theorem Position.inside_self (a : List Char) : (Position.origin.advance a).Inside a :=
  ⟨a, List.prefix_refl a, rfl⟩

@[simp] theorem Node.range_head (n : Node) : n.head.range = n.range := by
  obtain ⟨kind, range, source, parent⟩ := n
  cases kind <;> rfl

@[simp] theorem Node.parent_head (n : Node) : n.head.parent = n.parent := by
  obtain ⟨kind, range, source, parent⟩ := n
  cases kind <;> rfl

theorem inside_regions (w : List Char) (p : Piece) :
    ∀ r ∈ p.regions (Position.origin.advance w), r.Inside (w ++ p.source) := by
  cases p with
  | verbatim t content close =>
    intro r hr
    simp only [Piece.regions, ← Position.advance_append] at hr
    rcases List.mem_append.1 hr with hr | hr
    · rcases List.mem_cons.1 hr with rfl | hr
      · refine ⟨Position.inside_advance _ _, ?_⟩
        simp only [Piece.source, ← List.append_assoc]
        exact Position.inside_append (Position.inside_advance _ _)
      · split at hr
        · cases hr
        · obtain rfl := List.mem_singleton.1 hr
          constructor
          · simp only [Piece.source, ← List.append_assoc]
            exact Position.inside_append (Position.inside_advance _ _)
          · simp only [Piece.source, ← List.append_assoc]
            exact Position.inside_advance _ _
    · cases close with
      | none => cases hr
      | some e =>
        obtain rfl := List.mem_singleton.1 hr
        simp only [Piece.source, Option.elim_some, ← List.append_assoc]
        exact ⟨Position.inside_advance _ _, Position.inside_self _⟩
  | _ =>
    intro r hr
    obtain rfl := List.mem_singleton.1 hr
    rw [← Position.advance_append]
    exact ⟨Position.inside_advance _ _, Position.inside_self _⟩

namespace Growth

variable {g : Growth}

theorem inside_foldl (h : g.Sound) {w : List Char} (hplace : g.place = Position.origin.advance w)
    (hg : ∀ r ∈ g.regions, r.Inside w) (ps : List Piece) :
    ∀ r ∈ (ps.foldl grow g).regions, r.Inside (w ++ ps.flatMap Piece.source) := by
  induction ps generalizing g w with
  | nil => simpa using hg
  | cons p ps ih =>
    have hplace' : (g.grow p).place = Position.origin.advance (w ++ p.source) := by
      rw [place_grow, hplace, Position.advance_append]
    rw [List.foldl_cons, List.flatMap_cons, ← List.append_assoc]
    apply ih (h.grow p) hplace'
    intro r hr
    have hmem := (regions_grow h p).subset (List.mem_append_left _ hr)
    rcases List.mem_append.1 hmem with hold | hnew
    · exact ⟨Position.inside_append (hg r hold).start, Position.inside_append (hg r hold).stop⟩
    · rw [hplace] at hnew
      exact inside_regions w p r hnew

structure Ordered (g : Growth) : Prop where
  ranges : g.heads.Pairwise fun a b => a.range.stop.offset ≤ b.range.start.offset
  passed : ∀ n ∈ g.heads, n.range.stop.offset ≤ g.place.offset
  parents : ∀ i, ∀ n : Node, n ∈ g.heads[i]? → ∀ p ∈ n.parent, p < i

theorem ordered_start (f : Flavor) : (start f).Ordered :=
  ⟨by simp [heads, start], by simp [heads, start], by simp [heads, start]⟩

theorem ranges_added (g : Growth) (p : Piece) :
    (g.added p).Pairwise (fun a b => a.range.stop.offset ≤ b.range.start.offset) ∧
      ∀ n ∈ g.added p, g.place.offset ≤ n.range.start.offset ∧
        n.range.stop.offset ≤ (g.grow p).place.offset := by
  rw [place_grow]
  cases p with
  | verbatim t content close =>
    simp only [added]
    split
    · refine ⟨List.pairwise_singleton _ _, ?_⟩
      intro n hn
      obtain rfl := List.mem_singleton.1 hn
      simp [elementNode, leafNode, Piece.source, Nat.add_assoc]
    · refine ⟨by simp [elementNode, leafNode, contentNode, inside], ?_⟩
      intro n hn
      rcases List.mem_cons.1 hn with rfl | hn
      · simp [elementNode, leafNode, Piece.source, Nat.add_assoc]
      · obtain rfl := List.mem_singleton.1 hn
        simp [contentNode, inside, Piece.source, Nat.add_assoc]
  | endTag t => simp [added]
  | _ => simp [added, elementNode, leafNode, Piece.source]

theorem parents_added (h : g.Sound) (p : Piece) :
    ∀ j, ∀ n : Node, n ∈ (g.added p)[j]? → ∀ q ∈ n.parent, q < g.nodes.size + j := by
  have hparent : ∀ q ∈ g.parent?, q < g.nodes.size := by
    intro q hq
    obtain ⟨o, ho, rfl⟩ := Option.map_eq_some_iff.1 hq
    exact h.id_lt (List.mem_of_mem_head? ho)
  have hleaf : ∀ {kind : NodeKind} {source : List Char} {j : Nat},
      ∀ n : Node, n ∈ [g.leafNode kind source][j]? → ∀ q ∈ n.parent, q < g.nodes.size + j := by
    intro kind source j n hn q hq
    obtain rfl := List.mem_singleton.1 (List.mem_of_getElem? hn)
    exact Nat.lt_of_lt_of_le (hparent q hq) (Nat.le_add_right _ _)
  cases p with
  | endTag t => simp [added]
  | verbatim t content close =>
    intro j n hn q hq
    cases j with
    | zero =>
      obtain rfl := Option.some.inj hn
      exact hparent q hq
    | succ j =>
      have hmem : n ∈ (if content.isEmpty then [] else [g.contentNode t content]) :=
        List.mem_of_getElem? hn
      split at hmem
      · cases hmem
      · obtain rfl := List.mem_singleton.1 hmem
        obtain rfl := Option.some.inj hq
        omega
  | _ => exact fun j => hleaf

theorem Ordered.grow (h : g.Ordered) (hs : g.Sound) (p : Piece) : (g.grow p).Ordered := by
  obtain ⟨hpairwise, hbetween⟩ := g.ranges_added p
  have hle : g.place.offset ≤ (g.grow p).place.offset := by
    rw [place_grow, Position.offset_advance]
    exact Nat.le_add_right _ _
  constructor
  · rw [heads_grow]
    refine List.pairwise_append.2 ⟨h.ranges, List.pairwise_map.2 (by simpa using hpairwise), ?_⟩
    intro a ha b hb
    obtain ⟨n, hn, rfl⟩ := List.mem_map.1 hb
    rw [Node.range_head]
    exact Nat.le_trans (h.passed a ha) (hbetween n hn).1
  · rw [heads_grow]
    intro n hn
    rcases List.mem_append.1 hn with hn | hn
    · exact Nat.le_trans (h.passed n hn) hle
    · obtain ⟨m, hm, rfl⟩ := List.mem_map.1 hn
      rw [Node.range_head]
      exact (hbetween m hm).2
  · rw [heads_grow]
    intro i n hn
    by_cases hi : i < g.heads.length
    · rw [List.getElem?_append_left hi] at hn
      exact h.parents i n hn
    · rw [List.getElem?_append_right (by omega), List.getElem?_map] at hn
      obtain ⟨m, hm, rfl⟩ := Option.map_eq_some_iff.1 hn
      intro q hq
      rw [Node.parent_head] at hq
      have hlt := parents_added hs p _ m hm q hq
      rw [length_heads] at hi hlt
      omega

theorem Ordered.foldl (h : g.Ordered) (hs : g.Sound) (ps : List Piece) :
    (ps.foldl Growth.grow g).Ordered := by
  induction ps generalizing g with
  | nil => exact h
  | cons p ps ih => exact ih (h.grow hs p) (hs.grow p)

end Growth

namespace Document

variable {f : Flavor} {text : String}

theorem inside_region {r : Range} (hr : r ∈ (parse f text).regions) :
    r.Inside (stripMark text.toList).1 := by
  have hall := Growth.inside_foldl (Growth.sound_start f) (w := []) rfl (by simp [Growth.regions,
    Growth.start]) (pieces f (stripMark text.toList).1)
  rw [List.nil_append, source_pieces] at hall
  exact hall r hr

theorem mem_regions {d : Document} {id : Nat} {n : Node} {r : Range} (hn : d.nodes[id]? = some n)
    (hr : r ∈ n.regions) : r ∈ d.regions := by
  rw [← Array.getElem?_toList] at hn
  exact List.mem_flatMap.2 ⟨n, List.mem_of_getElem? hn, hr⟩

theorem outerEnd_cases (d : Document) (id : Nat) :
    d.outerEnd id = .origin ∨ ∃ r ∈ d.regions, d.outerEnd id = r.stop := by
  have hrange : ∀ {id : Nat} {n : Node}, d.nodes[id]? = some n → n.range ∈ d.regions :=
    fun hn => mem_regions hn List.mem_cons_self
  fun_induction outerEnd d id with
  | case1 => exact Or.inl rfl
  | case2 id n hn => exact Or.inr ⟨_, hrange hn, rfl⟩
  | case3 id n hn e he r hr =>
    right
    unfold Node.endRange at hr
    split at hr
    · obtain rfl := Option.some.inj hr
      exact ⟨_, hrange hn, rfl⟩
    · exact ⟨r, mem_regions hn (by simp [Node.regions, he, hr]), rfl⟩
  | case4 id n hn => exact Or.inr ⟨_, hrange hn, rfl⟩
  | case5 id n hn e he hr last hlast hlt ih => exact ih
  | case6 id n hn => exact Or.inr ⟨_, hrange hn, rfl⟩

theorem inside_outerEnd (f : Flavor) (text : String) (id : Nat) :
    ((parse f text).outerEnd id).Inside (stripMark text.toList).1 := by
  rcases outerEnd_cases (parse f text) id with hend | ⟨r, hr, hend⟩
  · exact ⟨[], List.nil_prefix, hend⟩
  · exact hend ▸ (inside_region hr).stop

theorem ordered_parse (f : Flavor) (text : String) :
    (Growth.ofPieces f (pieces f (stripMark text.toList).1)).Ordered :=
  (Growth.ordered_start f).foldl (Growth.sound_start f) _

theorem head_parse {i : Nat} {n : Node} (hn : (parse f text).nodes[i]? = some n) :
    n.head ∈ (Growth.ofPieces f (pieces f (stripMark text.toList).1)).heads[i]? := by
  rw [← Array.getElem?_toList] at hn
  rw [Growth.heads, List.getElem?_map]
  exact Option.mem_def.2 (congrArg (Option.map Node.head) hn)

theorem stop_le_start {i j : Nat} {n m : Node} (hn : (parse f text).nodes[i]? = some n)
    (hm : (parse f text).nodes[j]? = some m) (hij : i < j) :
    n.range.stop.offset ≤ m.range.start.offset := by
  obtain ⟨hi, hgeti⟩ := List.getElem?_eq_some_iff.1 (head_parse hn)
  obtain ⟨hj, hgetj⟩ := List.getElem?_eq_some_iff.1 (head_parse hm)
  have hle := List.pairwise_iff_getElem.1 (ordered_parse f text).ranges i j hi hj hij
  rwa [hgeti, hgetj, Node.range_head, Node.range_head] at hle

theorem lt_of_child {id c : Nat} (hc : c ∈ (parse f text).children id) : id < c := by
  have hp := (List.mem_filter.1 hc).2
  rw [beq_iff_eq] at hp
  obtain ⟨m, hm, hparent⟩ := Option.bind_eq_some_iff.1 hp
  exact (ordered_parse f text).parents c m.head (head_parse hm) id (by simp [hparent])

theorem child_behind {id c : Nat} {n m : Node} (hn : (parse f text).nodes[id]? = some n)
    (hm : (parse f text).nodes[c]? = some m) (hc : c ∈ (parse f text).children id) :
    n.range.stop.offset ≤ m.range.start.offset := stop_le_start hn hm (lt_of_child hc)

end Document
end MarkupSplice
