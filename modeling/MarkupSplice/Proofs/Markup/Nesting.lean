import Mathlib.Data.List.Chain
import Mathlib.Data.List.Induction
import MarkupSplice.Proofs.Markup.Placement

/-!
# How elements nest

Elements that are open stand in one another, each as the last child of the one
around it, so all of them end for now where the last piece ended that was not
passed over (`Nested.grow`, `Nested.exists_run`). What stands in an element
that is not open any more stays as it is (`closed_foldl`).
-/
namespace MarkupSplice
open Markup Text

theorem Node.endRange_of_slash {n : Node} {e : Element} (h : e.closing = .slash) :
    n.endRange e = some n.range := if_pos (beq_iff_eq.2 h)

theorem Node.endRange_of_ne {n : Node} {e : Element} (h : e.closing ≠ .slash) :
    n.endRange e = e.endTag := if_neg (mt beq_iff_eq.1 h)

namespace Document

variable {d : Document} {id : Nat} {n : Node} {e : Element}

theorem mem_children {c : Nat} : c ∈ d.children id ↔ d.parent? c = some id := by
  rw [children, childrenOf, List.mem_filter, beq_iff_eq, and_iff_right_iff_imp]
  intro hparent
  obtain ⟨m, hm, -⟩ := Option.bind_eq_some_iff.1 hparent
  obtain ⟨hlt, -⟩ := Array.getElem?_eq_some_iff.1 hm
  exact List.mem_range.2 hlt

theorem lt_size_of_child {c : Nat} (h : c ∈ d.children id) : c < d.size :=
  List.mem_range.1 (List.mem_filter.1 h).1

theorem outerEnd_of_leaf (hn : d.nodes[id]? = some n) (he : n.element? = none) :
    d.outerEnd id = n.range.stop := by
  rw [outerEnd]
  simp [hn, he]

theorem outerEnd_of_endRange {r : Range} (hn : d.nodes[id]? = some n)
    (he : n.element? = some e) (hr : n.endRange e = some r) : d.outerEnd id = r.stop := by
  rw [outerEnd]
  simp [hn, he, hr]

theorem outerEnd_of_childless (hn : d.nodes[id]? = some n) (he : n.element? = some e)
    (hr : n.endRange e = none) (hc : d.children id = []) : d.outerEnd id = n.range.stop := by
  rw [outerEnd]
  simp [hn, he, hr, hc]

theorem outerEnd_of_last {last : Nat} (hn : d.nodes[id]? = some n) (he : n.element? = some e)
    (hr : n.endRange e = none) (hlast : (d.children id).getLast? = some last) (hlt : id < last) :
    d.outerEnd id = d.outerEnd last := by
  have hsize := lt_size_of_child (List.mem_of_getLast? hlast)
  rw [outerEnd]
  simp [hn, he, hr, hlast, hlt, hsize]

/-- Where an element ends depends on nothing but what stands in it. -/
theorem outerEnd_congr_within {d' : Document} {P : Nat → Prop}
    (h : ∀ i, P i → i < d.size →
      d'.nodes[i]? = d.nodes[i]? ∧ d'.children i = d.children i ∧
        ∀ c ∈ d.children i, i < c → P c)
    (hid : P id) (hlt : id < d.size) : d'.outerEnd id = d.outerEnd id := by
  fun_induction outerEnd d id with
  | case1 id hn =>
    rw [Array.getElem?_eq_none_iff] at hn
    exact absurd hlt (Nat.not_lt.2 hn)
  | case2 id n hn he =>
    rw [← (h id hid hlt).1] at hn
    exact outerEnd_of_leaf hn he
  | case3 id n hn e he r hr =>
    rw [← (h id hid hlt).1] at hn
    exact outerEnd_of_endRange hn he hr
  | case4 id n hn e he hr hlast =>
    obtain ⟨hnodes, hchildren, -⟩ := h id hid hlt
    rw [← hnodes] at hn
    refine outerEnd_of_childless hn he hr ?_
    rw [hchildren, List.getLast?_eq_none_iff.1 hlast]
  | case5 id n hn e he hr last hlast hbelow ih =>
    obtain ⟨hnodes, hchildren, hwithin⟩ := h id hid hlt
    have hmem := List.mem_of_getLast? hlast
    rw [← hnodes] at hn
    rw [← hchildren] at hlast
    rw [outerEnd_of_last hn he hr hlast hbelow.1]
    exact ih (hwithin last hmem hbelow.1) hbelow.2
  | case6 id n hn e he hr last hlast hnot =>
    obtain ⟨hnodes, hchildren, -⟩ := h id hid hlt
    have hmem := lt_size_of_child (List.mem_of_getLast? hlast)
    have hbelow : ¬id < last := fun hbelow => hnot ⟨hbelow, hmem⟩
    rw [← hnodes] at hn
    rw [← hchildren] at hlast
    rw [outerEnd]
    simp [hn, he, hr, hlast, hbelow]

theorem outerEnd_congr {d' : Document} {lo : Nat}
    (h : ∀ i, lo ≤ i → i < d.size →
      d'.nodes[i]? = d.nodes[i]? ∧ d'.children i = d.children i) (hid : lo ≤ id)
    (hlt : id < d.size) : d'.outerEnd id = d.outerEnd id := by
  refine @outerEnd_congr_within _ _ _ (lo ≤ ·) (fun i hle hi => ?_) hid hlt
  obtain ⟨hnodes, hchildren⟩ := h i hle hi
  exact ⟨hnodes, hchildren, fun c _ hc => Nat.le_trans hle (Nat.le_of_lt hc)⟩

end Document

def Markup.Piece.isEndTag : Piece → Bool
  | .endTag _ => true
  | _ => false

def Markup.Piece.Bracketed : Piece → Prop
  | .verbatim t _ _ => t.closing = .bracket
  | _ => True

def Markup.Piece.Fillable (f : Flavor) : Piece → Prop
  | .verbatim t _ _ => t.closing = .bracket ∧ f.isVoid (f.normalize (String.ofList t.name)) = false
  | _ => True

theorem Markup.Piece.Fillable.bracketed {f : Flavor} {p : Piece} (h : p.Fillable f) :
    p.Bracketed := by
  cases p with
  | verbatim t content close => exact h.1
  | _ => trivial

theorem Flavor.not_void_of_verbatim {f : Flavor} {name : String} (h : f.isVerbatim name = true) :
    f.isVoid name = false := by
  simp only [isVerbatim, Bool.and_eq_true, List.contains_eq_mem, decide_eq_true_eq] at h
  have hall : ∀ name ∈ verbatimNames, voidNames.contains name = false := by decide
  rw [isVoid, hall name h.2, Bool.and_false]

theorem Markup.fillable_readPiece (f : Flavor) (s : List Char) : (readPiece f s).1.Fillable f := by
  unfold readPiece
  split
  case h_5 =>
    dsimp only [readContent]
    split
    · rename_i h
      split <;> exact ⟨h.1, Flavor.not_void_of_verbatim h.2⟩
    · trivial
  all_goals trivial

theorem Markup.fillable_of_mem {f : Flavor} {s : List Char} {p : Piece} (h : p ∈ pieces f s) :
    p.Fillable f := by
  fun_induction pieces f s with
  | case1 => cases h
  | case2 s hs _ ih =>
    rcases List.mem_cons.1 h with rfl | h
    · exact fillable_readPiece f s
    · exact ih h

theorem Markup.bracketed_of_mem {f : Flavor} {s : List Char} {p : Piece} (h : p ∈ pieces f s) :
    p.Bracketed := (fillable_of_mem h).bracketed

def childrenIn (parents : List (Option Nat)) (i : Nat) : List Nat :=
  (List.range parents.length).filter fun id => parents[id]? == some (some i)

theorem childrenIn_concat (parents : List (Option Nat)) (q : Option Nat) (i : Nat) :
    childrenIn (parents ++ [q]) i =
      childrenIn parents i ++ if q = some i then [parents.length] else [] := by
  rw [childrenIn, List.length_append, List.length_singleton, List.range_succ, List.filter_append,
    childrenIn]
  congr 1
  · apply List.filter_congr
    intro id hid
    rw [List.getElem?_append_left (List.mem_range.1 hid)]
  · by_cases hq : q = some i <;> simp [hq]

namespace Growth

variable {g : Growth} {p : Piece}

def document (g : Growth) : Document := ⟨g.flavor, false, g.nodes, []⟩

def parents (g : Growth) : List (Option Nat) := g.nodes.toList.map Node.parent

@[simp] theorem nodes_document (g : Growth) : g.document.nodes = g.nodes := rfl

@[simp] theorem length_parents (g : Growth) : g.parents.length = g.nodes.size := by
  simp [parents]

theorem parents_eq (g : Growth) : g.parents = g.heads.map Node.parent := by
  simp [parents, heads, Function.comp_def]

theorem parents_grow (p : Piece) :
    (g.grow p).parents = g.parents ++ (g.added p).map Node.parent := by
  rw [parents_eq, parents_eq, heads_grow, List.map_append, List.map_map]
  congr 1
  exact List.map_congr_left fun n _ => n.parent_head

theorem children_document (g : Growth) (i : Nat) :
    g.document.children i = childrenIn g.parents i := by
  rw [childrenIn, length_parents]
  apply List.filter_congr
  intro id _
  rw [Document.parent?, nodes_document, parents, List.getElem?_map, Array.getElem?_toList]
  cases g.nodes[id]? <;> simp

theorem parent_added (hp : p.isEndTag = false) :
    (g.added p).map Node.parent = [g.parent?] ∨
      (g.added p).map Node.parent = [g.parent?] ++ [some g.nodes.size] := by
  cases p with
  | endTag t => cases hp
  | verbatim t content close =>
    by_cases hc : content.isEmpty = true
    · exact Or.inl (by simp [added, hc, elementNode, leafNode])
    · exact Or.inr (by simp [added, hc, elementNode, leafNode, contentNode])
  | _ => exact Or.inl rfl

theorem closes?_of_added (hp : p.isEndTag = false) : g.closes? p = none := by
  cases p with
  | endTag t => cases hp
  | _ => rfl

theorem getElem_added (hp : p.isEndTag = false) :
    (g.grow p).nodes[g.nodes.size]? = (g.added p)[0]? := by
  rw [← Array.getElem?_toList, nodes_grow, closes?_of_added hp, closeAt,
    List.getElem?_append_right (by simp), Array.length_toList, Nat.sub_self]

theorem children_grow (hp : p.isEndTag = false) {i : Nat} (hi : i < g.nodes.size) :
    (g.grow p).document.children i =
      g.document.children i ++ if g.parent? = some i then [g.nodes.size] else [] := by
  have hne : ¬some g.nodes.size = some i := by
    rw [Option.some.injEq]
    omega
  rw [children_document, children_document, parents_grow]
  rcases parent_added hp with hadded | hadded
  · rw [hadded, childrenIn_concat, length_parents]
  · rw [hadded, ← List.append_assoc, childrenIn_concat, childrenIn_concat, if_neg hne,
      List.append_nil, length_parents]

theorem children_endTag (t : EndTag) (i : Nat) :
    (g.grow (.endTag t)).document.children i = g.document.children i := by
  rw [children_document, children_document, parents_grow]
  simp [added]

theorem prefix_children_grow (p : Piece) (i : Nat) :
    g.document.children i <+: (g.grow p).document.children i := by
  rw [children_document, children_document, parents_grow]
  generalize (g.added p).map Node.parent = qs
  induction qs using List.reverseRecOn with
  | nil => simp
  | append_singleton qs q ih =>
    rw [← List.append_assoc, childrenIn_concat]
    exact ih.trans (List.prefix_append _ _)

theorem prefix_children (g : Growth) (ps : List Piece) (i : Nat) :
    g.document.children i <+: (ps.foldl grow g).document.children i := by
  induction ps generalizing g with
  | nil => exact List.prefix_refl _
  | cons p ps ih => exact (prefix_children_grow p i).trans (ih (g.grow p))

theorem Ordered.parent_lt (h : g.Ordered) {i c : Nat} (hc : c ∈ g.document.children i) :
    i < c := by
  obtain ⟨n, hn, hparent⟩ := Option.bind_eq_some_iff.1 (Document.mem_children.1 hc)
  have hhead : n.head ∈ g.heads[c]? := by
    rw [nodes_document, ← Array.getElem?_toList] at hn
    rw [heads, List.getElem?_map, hn]
    rfl
  exact h.parents c n.head hhead i (by rw [Node.parent_head]; exact hparent)

theorem children_of_size_le (h : g.Ordered) {i : Nat} (hi : g.nodes.size ≤ i + 1) :
    g.document.children i = [] := by
  apply List.eq_nil_iff_forall_not_mem.2
  intro c hc
  have hlt := h.parent_lt hc
  have hsize : c < g.nodes.size := Document.lt_size_of_child hc
  omega

theorem nodes_grow_left {i : Nat} (hi : i < g.nodes.size)
    (hc : ∀ a ∈ g.closes? p, a.id ≠ i) : (g.grow p).nodes[i]? = g.nodes[i]? := by
  rw [← Array.getElem?_toList, ← Array.getElem?_toList, nodes_grow,
    List.getElem?_append_left (by simpa using hi), getElem_closeAt hc]

theorem size_grow (p : Piece) :
    (g.grow p).nodes.size = g.nodes.size + (g.added p).length := by
  have hlen := congrArg List.length (nodes_grow (g := g) p)
  simpa using hlen

theorem closed_grow (h : g.Sound) {i : Nat} (hi : i < g.nodes.size)
    (hopen : ∀ a ∈ g.opened, a.id ≠ i) (p : Piece) :
    (g.grow p).nodes[i]? = g.nodes[i]? ∧
      (g.grow p).document.children i = g.document.children i ∧
      ∀ a ∈ (g.grow p).opened, a.id ≠ i := by
  refine ⟨nodes_grow_left hi ?_, ?_, ?_⟩
  · intro a ha
    cases p with
    | endTag t => exact hopen a ((g.reopened_sublist t).subset (List.mem_of_mem_head? ha))
    | _ => cases ha
  · by_cases hp : p.isEndTag = true
    · cases p with
      | endTag t => exact children_endTag t i
      | _ => cases hp
    · have hparent : ¬g.parent? = some i := by
        intro heq
        obtain ⟨a, ha, hid⟩ := Option.map_eq_some_iff.1 heq
        exact hopen a (List.mem_of_mem_head? ha) hid
      rw [children_grow (by simpa using hp) hi, if_neg hparent, List.append_nil]
  · intro a ha
    rcases mem_opened_grow h ha with ⟨hold, -⟩ | ⟨t, -, hid⟩
    · exact hopen a hold
    · omega

theorem closed_foldl (h : g.Sound) {i : Nat} (hi : i < g.nodes.size)
    (hopen : ∀ a ∈ g.opened, a.id ≠ i) (ps : List Piece) :
    (ps.foldl grow g).nodes[i]? = g.nodes[i]? ∧
      (ps.foldl grow g).document.children i = g.document.children i ∧
      ∀ a ∈ (ps.foldl grow g).opened, a.id ≠ i := by
  induction ps generalizing g with
  | nil => exact ⟨rfl, rfl, hopen⟩
  | cons p ps ih =>
    obtain ⟨hnodes, hchildren, hopen'⟩ := closed_grow h hi hopen p
    have hsize : i < (g.grow p).nodes.size := by
      rw [size_grow]
      omega
    obtain ⟨hnodes', hchildren', hopen''⟩ := ih (h.grow p) hsize hopen'
    exact ⟨hnodes'.trans hnodes, hchildren'.trans hchildren, hopen''⟩

/-- Each open element is the last child of the next one, and all of them end at `q` for now. -/
structure Nested (g : Growth) (q : Position) : Prop where
  chain : g.opened.IsChain fun a b => (g.document.children b.id).getLast? = some a.id
  endless : ∀ a ∈ g.opened, ∃ n e, g.nodes[a.id]? = some n ∧ n.element? = some e ∧
    n.endRange e = none
  ends : ∀ a ∈ g.opened.head?, g.document.outerEnd a.id = q

theorem nested_start (f : Flavor) (q : Position) : (start f).Nested q :=
  ⟨List.isChain_nil, by simp [start], by simp [start]⟩

variable {q : Position}

theorem Nested.outerEnd_eq (h : g.Nested q) (ho : g.Ordered) :
    ∀ a ∈ g.opened, g.document.outerEnd a.id = q := by
  obtain ⟨hchain, hendless, hends⟩ := h
  generalize g.opened = as at hchain hendless hends
  induction as with
  | nil => simp
  | cons a as ih =>
    intro b hb
    rcases List.mem_cons.1 hb with rfl | hb
    · exact hends b rfl
    · obtain ⟨hlast, hrest⟩ := List.isChain_cons.1 hchain
      refine ih hrest (fun c hc => hendless c (List.mem_cons_of_mem _ hc)) ?_ b hb
      intro c hc
      obtain ⟨n, e, hn, he, hr⟩ := hendless c (List.mem_cons_of_mem _ (List.mem_of_mem_head? hc))
      have hlt := ho.parent_lt (List.mem_of_getLast? (hlast c hc))
      rw [Document.outerEnd_of_last hn he hr (hlast c hc) hlt]
      exact hends a rfl

theorem outerEnd_added (hs : g.Sound) (ho : g.Ordered) (hp : p.isEndTag = false)
    (hb : p.Bracketed) :
    (g.grow p).document.outerEnd g.nodes.size = (g.grow p).place := by
  have hnode : (g.grow p).document.nodes[g.nodes.size]? = (g.added p)[0]? := getElem_added hp
  have hsize := size_grow (g := g) p
  have ho' := ho.grow hs p
  rw [place_grow]
  cases p with
  | endTag t => cases hp
  | startTag t =>
    have hchildren := children_of_size_le ho' (i := g.nodes.size) (by simp [hsize, added])
    by_cases hslash : t.closing = .slash
    · exact Document.outerEnd_of_endRange hnode rfl (Node.endRange_of_slash hslash)
    · exact Document.outerEnd_of_childless hnode rfl (Node.endRange_of_ne hslash) hchildren
  | verbatim t content close =>
    have hslash : t.closing ≠ .slash := by
      rw [show t.closing = .bracket from hb]
      exact Closing.noConfusion
    cases close with
    | some e =>
      rw [Document.outerEnd_of_endRange hnode rfl (Node.endRange_of_ne hslash)]
      simp [Piece.source, inside]
    | none =>
      by_cases hc : content.isEmpty = true
      · have hchildren := children_of_size_le ho' (i := g.nodes.size) (by simp [hsize, added, hc])
        rw [Document.outerEnd_of_childless hnode rfl (Node.endRange_of_ne hslash) hchildren]
        simp [elementNode, leafNode, Piece.source, List.isEmpty_iff.1 hc]
      · have hlast : ((g.grow (.verbatim t content none)).document.children
            g.nodes.size).getLast? = some (g.nodes.size + 1) := by
          rw [children_document, parents_grow]
          simp only [added, hc, Bool.false_eq_true, if_false, List.map_cons, List.map_nil]
          rw [← List.singleton_append, ← List.append_assoc, childrenIn_concat]
          simp [contentNode]
        have hcontent : (g.grow (.verbatim t content none)).document.nodes[g.nodes.size + 1]? =
            some (g.contentNode t content) := by
          rw [nodes_document, ← Array.getElem?_toList, nodes_grow]
          simp [closeAt, closes?, added, hc]
        rw [Document.outerEnd_of_last hnode rfl (Node.endRange_of_ne hslash) hlast
          (Nat.lt_succ_self _), Document.outerEnd_of_leaf hcontent rfl]
        simp [contentNode, inside, Piece.source]
  | _ => exact Document.outerEnd_of_leaf hnode rfl

theorem stray?_eq_some {t : EndTag} :
    g.stray? p = some t ↔ p = .endTag t ∧ g.reopened t = [] := by
  cases p with
  | endTag t' =>
    rw [stray?, Option.ite_none_right_eq_some, List.isEmpty_iff, Option.some.injEq,
      Piece.endTag.injEq]
    constructor
    · rintro ⟨h, rfl⟩
      exact ⟨rfl, h⟩
    · rintro ⟨rfl, h⟩
      exact ⟨h, rfl⟩
  | _ => simp [stray?]

theorem piece_cases (g : Growth) (p : Piece) :
    p.isEndTag = false ∨ (g.stray? p).isSome = true ∨
      ∃ t a rest, p = .endTag t ∧ g.reopened t = a :: rest := by
  cases p with
  | endTag t =>
    right
    cases hr : g.reopened t with
    | nil => exact Or.inl (by simp [stray?, hr])
    | cons a rest => exact Or.inr ⟨t, a, rest, rfl, hr⟩
  | _ => exact Or.inl rfl

theorem grow_stray (h : (g.stray? p).isSome = true) :
    (g.grow p).nodes = g.nodes ∧ (g.grow p).opened = g.opened := by
  obtain ⟨t, ht⟩ := Option.isSome_iff_exists.1 h
  obtain ⟨rfl, hr⟩ := stray?_eq_some.1 ht
  constructor
  · rw [← Array.toList_inj, nodes_grow]
    simp [closeAt, closes?, added, hr]
  · rw [opened_grow]
    simp [openedBy, hr]

theorem document_eq {g' : Growth} (hf : g'.flavor = g.flavor) (hn : g'.nodes = g.nodes) :
    g'.document = g.document := by
  rw [document, document, hf, hn]

theorem Nested.grow_stray (h : g.Nested q) (hp : (g.stray? p).isSome = true) :
    (g.grow p).Nested q := by
  obtain ⟨hnodes, hopened⟩ := Growth.grow_stray hp
  have hdocument := document_eq (flavor_grow p) hnodes
  exact ⟨by rw [hopened, hdocument]; exact h.chain, by rw [hopened, hnodes]; exact h.endless,
    by rw [hopened, hdocument]; exact h.ends⟩

theorem opened_of_added (hp : p.isEndTag = false) :
    (g.grow p).opened = g.opened ∨ ∃ t, p = .startTag t ∧ t.closing = .bracket ∧
      (g.grow p).opened = ⟨g.nodes.size, g.nameOf t.name, g.place⟩ :: g.opened := by
  rw [opened_grow]
  cases p with
  | endTag t => cases hp
  | startTag t =>
    simp only [openedBy]
    split
    · rename_i h
      exact Or.inr ⟨t, rfl, h.1, rfl⟩
    · exact Or.inl rfl
  | _ => exact Or.inl rfl

theorem not_parent_of_tail (h : g.Sound) {b : OpenElement} (hb : b ∈ g.opened.tail) :
    ¬g.parent? = some b.id := by
  have hnodup := h.nodup
  rw [parent?]
  cases hopened : g.opened with
  | nil => simp [hopened] at hb
  | cons a as =>
    rw [hopened, List.tail_cons] at hb
    rw [hopened, List.map_cons, List.nodup_cons] at hnodup
    rw [List.head?_cons, Option.map_some, Option.some.injEq]
    exact fun heq => hnodup.1 (heq ▸ List.mem_map_of_mem hb)

theorem Nested.grow_added (h : g.Nested q) (hs : g.Sound) (ho : g.Ordered)
    (hp : p.isEndTag = false) (hb : p.Bracketed) : (g.grow p).Nested (g.grow p).place := by
  have hnew := outerEnd_added hs ho hp hb
  have hclose := closes?_of_added hp (g := g)
  have hchain : g.opened.IsChain fun a b =>
      ((g.grow p).document.children b.id).getLast? = some a.id := by
    refine h.chain.imp_of_mem_tail_imp fun a b _ hb hlast => ?_
    rw [children_grow hp (hs.id_lt (List.mem_of_mem_tail hb)), if_neg (not_parent_of_tail hs hb),
      List.append_nil]
    exact hlast
  have hendless : ∀ a ∈ g.opened, ∃ n e, (g.grow p).nodes[a.id]? = some n ∧
      n.element? = some e ∧ n.endRange e = none := by
    intro a ha
    rw [nodes_grow_left (hs.id_lt ha) (by simp [hclose])]
    exact h.endless a ha
  have hlast : ∀ a ∈ g.opened.head?,
      ((g.grow p).document.children a.id).getLast? = some g.nodes.size := by
    intro a ha
    have hparent : g.parent? = some a.id := by rw [parent?, Option.mem_def.1 ha]; rfl
    rw [children_grow hp (hs.id_lt (List.mem_of_mem_head? ha)), if_pos hparent,
      List.getLast?_concat]
  rcases opened_of_added hp (g := g) with hopened | ⟨t, rfl, hbracket, hopened⟩
  · rw [← hopened] at hchain hendless hlast
    refine ⟨hchain, hendless, ?_⟩
    intro a ha
    obtain ⟨n, e, hn, he, hr⟩ := hendless a (List.mem_of_mem_head? ha)
    have hlt := (ho.grow hs p).parent_lt (List.mem_of_getLast? (hlast a ha))
    rw [Document.outerEnd_of_last hn he hr (hlast a ha) hlt, hnew]
  · -- the new element has no child yet, so it ends where its start tag does
    refine ⟨?_, ?_, ?_⟩
    · rw [hopened, List.isChain_cons]
      exact ⟨hlast, hchain⟩
    · rw [hopened]
      intro a ha
      rcases List.mem_cons.1 ha with rfl | ha
      · refine ⟨g.elementNode t none, _, ?_, rfl, Node.endRange_of_ne ?_⟩
        · rw [← Array.getElem?_toList, nodes_grow]
          simp [closeAt, closes?, added]
        · rw [hbracket]
          exact Closing.noConfusion
      · exact hendless a ha
    · rw [hopened]
      intro a ha
      obtain rfl := Option.some.inj ha
      exact hnew

theorem Nested.outerEnd_close (h : g.Nested q) (hs : g.Sound) {t : EndTag} {a : OpenElement}
    {rest : List OpenElement} (hr : g.reopened t = a :: rest) :
    (g.grow (.endTag t)).document.outerEnd a.id = (g.grow (.endTag t)).place := by
  have ha : a ∈ g.opened := (g.reopened_sublist t).subset (by simp [hr])
  obtain ⟨n, e, hn, he, hendless⟩ := h.endless a ha
  have hslash : e.closing ≠ .slash := by
    intro hslash
    rw [Node.endRange_of_slash hslash] at hendless
    cases hendless
  have hclosed : (g.grow (.endTag t)).nodes[a.id]? =
      some (setEndTag ⟨g.place, g.place.advance t.source⟩ n) := by
    rw [← Array.getElem?_toList] at hn ⊢
    rw [nodes_grow, List.getElem?_append_left (by simpa using hs.id_lt ha)]
    simp [closes?, hr, closeAt, hn, Piece.source]
  obtain ⟨kind, range, source, parent⟩ := n
  cases kind with
  | element e' =>
    obtain rfl : e' = e := Option.some.inj he
    have hrange : ∀ (m : Node) (r : Range), m.endRange { e' with endTag := some r } = some r :=
      fun _ _ => Node.endRange_of_ne hslash
    rw [Document.outerEnd_of_endRange hclosed rfl (hrange _ _), place_grow]
    rfl
  | _ => cases he

theorem Nested.grow_close (h : g.Nested q) (hs : g.Sound) (ho : g.Ordered) {t : EndTag}
    {a : OpenElement} {rest : List OpenElement} (hr : g.reopened t = a :: rest) :
    (g.grow (.endTag t)).Nested (g.grow (.endTag t)).place := by
  have hsuffix : a :: rest <:+ g.opened := hr ▸ List.dropWhile_suffix _
  have hopened : (g.grow (.endTag t)).opened = rest := by
    rw [opened_grow]
    simp [openedBy, hr]
  have hne : ∀ b ∈ rest, a.id ≠ b.id := by
    intro b hb heq
    have hnodup := hs.nodup.sublist (hsuffix.sublist.map OpenElement.id)
    rw [List.map_cons, List.nodup_cons, heq] at hnodup
    exact hnodup.1 (List.mem_map_of_mem hb)
  have hmem : ∀ b ∈ rest, b ∈ g.opened := fun b hb => hsuffix.subset (List.mem_cons_of_mem _ hb)
  have hnode : ∀ b ∈ rest, (g.grow (.endTag t)).nodes[b.id]? = g.nodes[b.id]? := by
    intro b hb
    refine nodes_grow_left (hs.id_lt (hmem b hb)) ?_
    intro c hc
    rw [closes?, hr, List.head?_cons, Option.mem_some] at hc
    exact hc ▸ hne b hb
  obtain ⟨hlast, hchain⟩ := List.isChain_cons.1 (h.chain.suffix hsuffix)
  refine ⟨?_, ?_, ?_⟩
  · rw [hopened]
    exact hchain.imp fun b c hbc => (children_endTag t c.id).symm ▸ hbc
  · rw [hopened]
    intro b hb
    rw [hnode b hb]
    exact h.endless b (hmem b hb)
  · rw [hopened]
    intro b hb
    have hb' := List.mem_of_mem_head? hb
    obtain ⟨n, e, hn, he, hendless⟩ := h.endless b (hmem b hb')
    have hlt := ho.parent_lt (List.mem_of_getLast? (hlast b hb))
    rw [← hnode b hb'] at hn
    have hlast' : ((g.grow (.endTag t)).document.children b.id).getLast? = some a.id := by
      rw [children_endTag]
      exact hlast b hb
    rw [Document.outerEnd_of_last hn he hendless hlast' hlt, h.outerEnd_close hs hr]

theorem Nested.grow (h : g.Nested q) (hs : g.Sound) (ho : g.Ordered) (hb : p.Bracketed)
    (hp : (g.stray? p).isSome = false) : (g.grow p).Nested (g.grow p).place := by
  rcases g.piece_cases p with hadds | hstray | ⟨t, a, rest, rfl, hr⟩
  · exact h.grow_added hs ho hadds hb
  · rw [hp] at hstray
    cases hstray
  · exact h.grow_close hs ho hr

theorem Nested.foldl {q : Position} (hn : g.Nested q) (h : g.Sound) (ho : g.Ordered)
    {ps : List Piece} (hb : ∀ p ∈ ps, p.Bracketed) : ∃ q', (ps.foldl Growth.grow g).Nested q' := by
  induction ps generalizing g q with
  | nil => exact ⟨q, hn⟩
  | cons p ps ih =>
    have hb' : ∀ p ∈ ps, p.Bracketed := fun p' hp' => hb p' (List.mem_cons_of_mem _ hp')
    cases hp : (g.stray? p).isSome with
    | true => exact ih (hn.grow_stray hp) (h.grow p) (ho.grow h p) hb'
    | false =>
      exact ih (hn.grow h ho (hb p List.mem_cons_self) hp) (h.grow p) (ho.grow h p) hb'

def PassesOver (g : Growth) (ps : List Piece) : Prop := ∀ p ∈ ps, (g.stray? p).isSome = true

theorem stray?_congr {g' : Growth} (hf : g'.flavor = g.flavor) (ho : g'.opened = g.opened)
    (p : Piece) : g'.stray? p = g.stray? p := by
  cases p with
  | endTag t => rw [stray?, stray?, reopened, reopened, nameOf, nameOf, hf, ho]
  | _ => rfl

theorem PassesOver.foldl {ps : List Piece} (h : g.PassesOver ps) :
    (ps.foldl Growth.grow g).nodes = g.nodes ∧ (ps.foldl Growth.grow g).opened = g.opened := by
  induction ps generalizing g with
  | nil => exact ⟨rfl, rfl⟩
  | cons p ps ih =>
    obtain ⟨hnodes, hopened⟩ := Growth.grow_stray (h p List.mem_cons_self)
    have hrest : (g.grow p).PassesOver ps := by
      intro p' hp'
      rw [stray?_congr (flavor_grow p) hopened]
      exact h p' (List.mem_cons_of_mem _ hp')
    obtain ⟨hnodes', hopened'⟩ := ih hrest
    exact ⟨hnodes'.trans hnodes, hopened'.trans hopened⟩

/-- Behind the place where all open elements end, end tags were passed over and nothing else. -/
theorem Nested.exists_run (h : g.Nested g.place) (hs : g.Sound) (ho : g.Ordered) {ps : List Piece}
    (hb : ∀ p ∈ ps, p.Bracketed) :
    ∃ front strays, ps = front ++ strays ∧
      (front.foldl Growth.grow g).Nested (front.foldl Growth.grow g).place ∧
      (front.foldl Growth.grow g).PassesOver strays := by
  -- from the last piece on: it is passed over too, or what was passed over lies in front of it
  induction ps using List.reverseRecOn with
  | nil => exact ⟨[], [], rfl, h, by simp [PassesOver]⟩
  | append_singleton ps p ih =>
    obtain ⟨front, strays, rfl, hnested, hpasses⟩ :=
      ih fun p' hp' => hb p' (List.mem_append_left _ hp')
    obtain ⟨hnodes, hopened⟩ := hpasses.foldl
    have hflavor := flavor_foldl (front.foldl Growth.grow g) strays
    cases hstray : ((front.foldl Growth.grow g).stray? p).isSome with
    | true =>
      refine ⟨front, strays ++ [p], by simp, hnested, ?_⟩
      intro p' hp'
      rcases List.mem_append.1 hp' with hp' | hp'
      · exact hpasses p' hp'
      · rwa [List.mem_singleton.1 hp']
    | false =>
      refine ⟨front ++ strays ++ [p], [], by simp, ?_, by simp [PassesOver]⟩
      have hdocument := document_eq hflavor hnodes
      have hsame : (strays.foldl Growth.grow (front.foldl Growth.grow g)).Nested
          (front.foldl Growth.grow g).place :=
        ⟨by rw [hopened, hdocument]; exact hnested.chain,
          by rw [hopened, hnodes]; exact hnested.endless,
          by rw [hopened, hdocument]; exact hnested.ends⟩
      rw [List.foldl_append, List.foldl_append, List.foldl_cons, List.foldl_nil]
      apply hsame.grow ((hs.foldl front).foldl strays) ((ho.foldl hs front).foldl (hs.foldl front)
        strays) (hb p (by simp))
      rw [stray?_congr hflavor hopened, hstray]

end Growth

namespace Document

theorem children_parse (f : Flavor) (text : String) (id : Nat) :
    (parse f text).children id =
      (Growth.ofPieces f (pieces f (stripMark text.toList).1)).document.children id := rfl

theorem outerEnd_parse {f : Flavor} {text : String} {id : Nat} (h : id < (parse f text).size) :
    (parse f text).outerEnd id =
      (Growth.ofPieces f (pieces f (stripMark text.toList).1)).document.outerEnd id := by
  refine (@outerEnd_congr (parse f text) id _ 0 ?_ (Nat.zero_le id) h).symm
  exact fun _ _ _ => ⟨rfl, rfl⟩

end Document
end MarkupSplice
