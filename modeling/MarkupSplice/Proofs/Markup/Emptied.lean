import MarkupSplice.Proofs.Markup.Pruning

/-!
# Growing without the content of an element

When the pieces between a start tag and the end of its content are not read,
the forest lacks all that stands in the element and is the same otherwise
(`Interior.cleared`, `cleared_verbatim`). As long as the content is read the
elements around it stay open, so nothing changes in front of it; and what comes
behind finds them as they were.
-/
namespace MarkupSplice
open Markup Text

theorem Node.head_of_unclosed {n : Node} (h : n.Unclosed) : n.head = n := by
  obtain ⟨e, hkind, hend⟩ := h
  obtain ⟨kind, range, source, parent⟩ := n
  obtain ⟨name, attributes, closing, endTag⟩ := e
  subst hkind hend
  rfl

namespace Growth

variable {g g' : Growth} {o : OpenElement} {rest inner : List OpenElement} {ps : List Piece}
  {id k : Nat}

structure Cleared (id k : Nat) (g g' : Growth) : Prop where
  spans : g.Spans id (id + 1 + k)
  traces : g'.traces = (without (id + 1) k g.traces).map (Trace.renumber (renumber (id + 1) k))

theorem Cleared.foldl (hspans : g.Spans id (id + 1 + k)) (hpruned : Pruned (id + 1) k g g')
    (hs : g.Sound) (hl : g.Lineage) (hopen : ∀ a ∈ g.opened, a.id ≠ id) (ps : List Piece) :
    Cleared id k (ps.foldl Growth.grow g) (ps.foldl Growth.grow g') :=
  ⟨hspans.foldl hl hs hopen ps, (hpruned.foldl ps).traces⟩

/-- While all open elements stay open no node that is there changes. -/
theorem nodes_of_staying (hs : g.Sound) (hstay : ∀ a ∈ g.opened, a ∈ (ps.foldl grow g).opened)
    {i : Nat} (hi : i < g.nodes.size) : (ps.foldl grow g).nodes[i]? = g.nodes[i]? := by
  by_cases hopen : ∀ a ∈ g.opened, a.id ≠ i
  · exact (closed_foldl hs hi hopen ps).1
  · push Not at hopen
    obtain ⟨a, ha, rfl⟩ := hopen
    -- an open element has no end tag, before and after, so it is what it was when it was added
    obtain ⟨n, hn, hunclosed⟩ := hs.unclosed a ha
    obtain ⟨n', hn', hunclosed'⟩ := (hs.foldl ps).unclosed a (hstay a ha)
    obtain ⟨more, hmore⟩ := heads_prefix g ps
    have hhead : g.heads[a.id]? = some n := by
      rw [heads, List.getElem?_map, Option.mem_def.1 hn, Option.map_some,
        Node.head_of_unclosed hunclosed]
    have hhead' : (ps.foldl grow g).heads[a.id]? = some n' := by
      rw [heads, List.getElem?_map, Option.mem_def.1 hn', Option.map_some,
        Node.head_of_unclosed hunclosed']
    rw [← hmore, List.getElem?_append_left (by rwa [length_heads]), hhead] at hhead'
    rw [← Array.getElem?_toList, ← Array.getElem?_toList, Option.mem_def.1 hn,
      Option.mem_def.1 hn', hhead']

theorem traces_of_staying (hs : g.Sound) (hstay : ∀ a ∈ g.opened, a ∈ (ps.foldl grow g).opened)
    (hsize : (ps.foldl grow g).nodes.size = g.nodes.size + k) :
    without g.nodes.size k (ps.foldl grow g).traces = g.traces := by
  apply List.ext_getElem?
  intro j
  rw [getElem?_without (by rw [length_traces, hsize])]
  split_ifs with hj
  · rw [getElem?_traces, getElem?_traces, nodes_of_staying hs hstay hj]
  · rw [List.getElem?_eq_none (by rw [length_traces]; omega),
      List.getElem?_eq_none (by rw [length_traces]; omega)]

/-- Parents come first, so nothing changes in front of the nodes that are left out. -/
theorem renumber_traces (ho : g.Ordered) (k : Nat) :
    g.traces.map (Trace.renumber (renumber g.nodes.size k)) = g.traces := by
  apply List.ext_getElem?
  intro i
  rw [List.getElem?_map, getElem?_traces]
  cases hn : g.nodes[i]? with
  | none => rfl
  | some n =>
    have hhead : n.head ∈ g.heads[i]? := by
      rw [heads, List.getElem?_map, Array.getElem?_toList, hn]
      rfl
    have hi : i < g.nodes.size := (Array.getElem?_eq_some_iff.1 hn).1
    have hparent : n.parent.map (renumber g.nodes.size k) = n.parent := by
      cases hp : n.parent with
      | none => rfl
      | some p =>
        have hlt := ho.parents i n.head hhead p (by rw [Node.parent_head, hp]; rfl)
        rw [Option.map_some, renumber, if_pos (by omega)]
    simp [Trace.renumber, Node.trace, hparent]

theorem size_foldl (g : Growth) (ps : List Piece) : g.nodes.size ≤ (ps.foldl grow g).nodes.size := by
  induction ps generalizing g with
  | nil => exact Nat.le_refl _
  | cons p ps ih =>
    have hsize := size_grow (g := g) p
    exact Nat.le_trans (by omega) (ih (g.grow p))

structure Filled (inner : List OpenElement) (k : Nat) (g g' : Growth) : Prop where
  flavor : g'.flavor = g.flavor
  opened : g.opened = inner ++ g'.opened
  size : g.nodes.size = g'.nodes.size + k
  traces : without g'.nodes.size k g.traces = g'.traces

namespace Filled

variable {t : EndTag}

theorem reopened (h : Filled inner k g g') (hinner : ∀ a ∈ inner, a.name ≠ g'.nameOf t.name) :
    g.reopened t = g'.reopened t := by
  have hname : g'.nameOf t.name = g.nameOf t.name := by rw [nameOf, h.flavor, nameOf]
  have hskip : inner.dropWhile (fun a => a.name != g.nameOf t.name) = [] := by
    rw [← hname]
    simpa only [List.dropWhile_eq_nil_iff, bne_iff_ne] using hinner
  rw [Growth.reopened, h.opened, List.dropWhile_append, hskip, Growth.reopened, hname]
  rfl

theorem pruned_endTag (h : Filled inner k g g') (hs : g'.Sound) (ho : g'.Ordered)
    (hinner : ∀ a ∈ inner, a.name ≠ g'.nameOf t.name) (hne : g'.reopened t ≠ []) :
    Pruned g'.nodes.size k (g.grow (.endTag t)) (g'.grow (.endTag t)) ∧
      (g.grow (.endTag t)).opened = (g'.grow (.endTag t)).opened := by
  obtain ⟨c, cs, hr'⟩ := List.exists_cons_of_ne_nil hne
  have hr : g.reopened t = c :: cs := (h.reopened hinner).trans hr'
  have hopened : (g.grow (.endTag t)).opened = cs := by
    rw [opened_grow]
    simp [openedBy, hr]
  have hopened' : (g'.grow (.endTag t)).opened = cs := by
    rw [opened_grow]
    simp [openedBy, hr']
  have hlt : ∀ a ∈ c :: cs, a.id < g'.nodes.size := by
    intro a ha
    exact hs.id_lt ((g'.reopened_sublist t).subset (hr' ▸ ha))
  have hkeep : ∀ a ∈ c :: cs, renumber g'.nodes.size k a.id = a.id :=
    fun a ha => if_pos (hlt a ha)
  refine ⟨⟨?_, ?_, ?_, ?_, ?_⟩, hopened.trans hopened'.symm⟩
  · rw [flavor_grow, flavor_grow, h.flavor]
  · rw [hopened, hopened']
    apply List.map_congr_left
    intro a ha
    rw [hkeep a (List.mem_cons_of_mem c ha)]
    rfl
  · rw [hopened]
    exact fun a ha => Or.inl (hlt a (List.mem_cons_of_mem c ha))
  · rw [size_grow, h.size]
    exact Nat.le_add_right _ _
  · have hlen : g'.nodes.size + k ≤ g.traces.length := by rw [length_traces, h.size]
    have hmodify := without_modify hlen (Or.inl (hlt c List.mem_cons_self)) Trace.close
    rw [traces_grow, traces_grow]
    simp only [closes?, hr, hr', List.head?_cons, Option.map_some, closeTrace?, Option.elim_some,
      added, List.map_nil, List.append_nil]
    rw [hmodify, h.traces, hkeep c List.mem_cons_self, map_modify (Trace.renumber_close _),
      renumber_traces ho]

theorem cleared (h : Filled inner k g g') (hs : g.Sound) (hl : g.Lineage) (hs' : g'.Sound)
    (ho : g'.Ordered) (hopened : g'.opened = o :: rest) (hsize : g'.nodes.size = o.id + 1)
    (hleaves : g'.Leaves ps) (hnames : ∀ t qs, ps = .endTag t :: qs →
      ∀ a ∈ inner, a.name ≠ g'.nameOf t.name) :
    Cleared o.id k (ps.foldl grow g) (ps.foldl grow g') := by
  have hopen : o ∈ g.opened := by
    rw [h.opened, hopened]
    simp
  have hlen : g.nodes.size = o.id + 1 + k := by rw [h.size, hsize]
  rcases hleaves with rfl | ⟨t, qs, rfl, hname⟩
  · refine ⟨hlen ▸ hl.spans_opened hs hopen, ?_⟩
    have htraces := h.traces
    have hfront := renumber_traces ho k
    rw [hsize] at htraces hfront
    rw [List.foldl_nil, List.foldl_nil, htraces, hfront]
  · have hne : g'.reopened t ≠ [] := by
      rw [ne_eq, reopened_eq_nil]
      obtain ⟨a, ha, heq⟩ := hname
      exact fun hall => hall a ha heq
    obtain ⟨hpruned, hsame⟩ := h.pruned_endTag hs' ho (hnames t qs rfl) hne
    have hspans := hl.spans_grow hs hopen (.endTag t)
    have hleft : (g'.grow (.endTag t)).opened <:+ rest :=
      opened_of_outer (hopened.trans (List.nil_append _).symm) (by simp) (hopened ▸ hname)
    have hnodup := hs'.nodup
    rw [hopened, List.map_cons, List.nodup_cons] at hnodup
    rw [size_grow, hlen] at hspans
    rw [hsize] at hpruned
    refine Cleared.foldl hspans hpruned (hs.grow _) (hl.grow hs _) ?_ qs
    intro a ha heq
    rw [hsame] at ha
    exact hnodup.1 (heq ▸ List.mem_map_of_mem (hleft.subset ha))

end Filled

/-- Without the content of an element the same end tags follow, and close the same elements. -/
theorem Interior.cleared (x : g.Interior o.id ps) (hs : g.Sound) (ho : g.Ordered)
    (hl : g.Lineage) (hopened : g.opened = o :: rest) (hsize : g.nodes.size = o.id + 1) :
    ∃ k, Cleared o.id k (ps.foldl grow g)
      ((x.early ++ (x.late ++ x.behind)).foldl grow g) := by
  obtain ⟨inner, hinner, hnames⟩ := x.stays
  obtain ⟨hnodes, hidle⟩ := x.idle.foldl
  obtain ⟨hnodes', hpassed⟩ := x.passes.foldl
  have hfull : ps.foldl grow g =
      x.behind.foldl grow (x.late.foldl grow ((x.early ++ x.content).foldl grow g)) := by
    conv_lhs => rw [x.pieces]
    simp only [List.foldl_append]
  have hshort : (x.early ++ (x.late ++ x.behind)).foldl grow g =
      x.behind.foldl grow ((x.early ++ x.late).foldl grow g) := by
    simp only [List.foldl_append]
  -- where the content ends all that was open in front of it is open
  have hstay : ∀ a ∈ g.opened, a ∈ ((x.early ++ x.content).foldl grow g).opened := by
    intro a ha
    rw [hinner]
    exact List.mem_append_right inner ha
  obtain ⟨k, hk⟩ := Nat.exists_eq_add_of_le (g.size_foldl (x.early ++ x.content))
  have hfilled : Filled inner k (x.late.foldl grow ((x.early ++ x.content).foldl grow g))
      ((x.early ++ x.late).foldl grow g) := by
    constructor
    · simp only [flavor_foldl]
    · rw [hidle, hinner, hpassed]
    · rw [hnodes, hnodes', hk]
    · rw [traces, traces, hnodes, hnodes']
      exact traces_of_staying hs hstay hk
  have hsound := hs.foldl (x.early ++ x.content)
  rw [hfull, hshort]
  refine ⟨k, hfilled.cleared (hsound.foldl x.late) ((hl.foldl hs _).foldl hsound x.late)
    (hs.foldl _) (ho.foldl hs _) (hpassed.trans hopened) (hnodes' ▸ hsize)
    (x.leaves.congr (flavor_foldl g _) hpassed) fun t qs hcons => ?_⟩
  rw [nameOf_foldl]
  exact hnames t qs hcons

theorem cleared_verbatim (hs : g.Sound) (ho : g.Ordered) (hl : g.Lineage) {t : StartTag}
    {content : List Char} (hne : content ≠ []) (close : Option EndTag) (ps : List Piece) :
    Cleared g.nodes.size 1 (ps.foldl grow (g.grow (.verbatim t content close)))
      (ps.foldl grow (g.grow (.verbatim t [] close))) := by
  have hempty : content.isEmpty = false := by simpa using hne
  have hsize : (g.grow (.verbatim t content close)).nodes.size = g.nodes.size + 1 + 1 := by
    rw [size_grow, added, hempty]
    rfl
  have hopened : ∀ content, (g.grow (.verbatim t content close)).opened = g.opened :=
    fun content => opened_grow _
  have hspans := hl.spans_new (p := .verbatim t content close) hs (Nat.le_refl _) (by omega)
  rw [hsize] at hspans
  refine Cleared.foldl hspans ⟨?_, ?_, ?_, ?_, ?_⟩ (hs.grow _) (hl.grow hs _) ?_ ps
  · rw [flavor_grow, flavor_grow]
  · rw [hopened, hopened]
    apply List.map_congr_left
    intro a ha
    rw [renumber, if_pos (Nat.lt_succ_of_lt (hs.id_lt ha))]
    rfl
  · rw [hopened]
    exact fun a ha => Or.inl (Nat.lt_succ_of_lt (hs.id_lt ha))
  · omega
  · have hfront := renumber_traces (ho.grow hs (.verbatim t [] close)) 1
    have hsize' : (g.grow (.verbatim t [] close)).nodes.size = g.nodes.size + 1 := size_grow _
    have htrace : ∀ r r' : EndTag → Range,
        (g.elementNode t (close.map r)).trace = (g.elementNode t (close.map r')).trace := by
      intro r r'
      cases close <;> rfl
    have hfull : (g.grow (.verbatim t content close)).traces =
        (g.grow (.verbatim t [] close)).traces ++ [(g.contentNode t content).trace] := by
      rw [traces_grow, traces_grow]
      simp only [closes?, Option.map_none, closeTrace?, Option.elim_none, added, hempty,
        List.isEmpty_nil, Bool.false_eq_true, if_false, if_true, List.map_cons, List.map_nil,
        List.append_assoc, List.cons_append, List.nil_append]
      exact congrArg (fun e => g.traces ++ [e, (g.contentNode t content).trace]) (htrace _ _)
    rw [hsize'] at hfront
    rw [hfull, without, ← hsize', List.take_left' (length_traces _),
      List.drop_of_length_le (by simp), List.append_nil, hsize', hfront]
  · rw [hopened]
    exact fun a ha => Nat.ne_of_lt (hs.id_lt ha)

end Growth
end MarkupSplice
