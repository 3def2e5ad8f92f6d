import MarkupSplice.Proofs.Markup.Interior
import MarkupSplice.Proofs.Markup.Lineage
import MarkupSplice.Proofs.Markup.Site

/-!
# How far elements reach

All that is read while an element is open belongs to it, and nothing else does.
So an element ends in front of every node behind it that does not stand in it
(`outerEnd_le_start`), and what stands in it ends in front of its end tag, and
with its last child (`outerEnd_le_last`).
-/
namespace MarkupSplice
open Markup Text

theorem Position.Inside.offset_le {s : List Char} {p : Position} (h : p.Inside s) :
    p.offset ≤ byteLength s := by
  obtain ⟨a, ⟨b, rfl⟩, rfl⟩ := h
  simp [Position.origin]

namespace Growth

variable {g : Growth} {p : Piece}

theorem getElem_grow_new (g : Growth) (p : Piece) (j : Nat) :
    (g.grow p).nodes[g.nodes.size + j]? = (g.added p)[j]? := by
  rw [← Array.getElem?_toList, nodes_grow, List.getElem?_append_right (by simp), length_closeAt,
    Nat.add_sub_cancel_left]

theorem outerEnd_le_place (f : Flavor) (ps : List Piece) (i : Nat) :
    ((ofPieces f ps).document.outerEnd i).offset ≤ (ofPieces f ps).place.offset := by
  rcases Document.outerEnd_cases (ofPieces f ps).document i with hend | ⟨r, hr, hend⟩
  · rw [hend]
    exact Nat.zero_le _
  · have hinside := inside_foldl (sound_start f) (w := []) rfl (by simp [regions, start]) ps r hr
    have hle := hinside.stop.offset_le
    rw [hend, place_ofPieces]
    simpa [Position.origin] using hle

structure Separated (g : Growth) : Prop where
  apart : ∀ i j n, i < j → g.nodes[j]? = some n → i ∉ g.document.ancestors j →
    (g.document.outerEnd i).offset ≤ n.range.start.offset
  ended : ∀ i n e r, g.nodes[i]? = some n → n.element? = some e → e.endTag = some r →
    n.range.stop.offset ≤ r.start.offset ∧
      ∀ c ∈ g.document.children i, (g.document.outerEnd c).offset ≤ r.start.offset

theorem separated_start (f : Flavor) : (start f).Separated :=
  ⟨by simp [start], by simp [start]⟩

theorem not_opened_of_endTag (hs : g.Sound) {i : Nat} {n : Node} {e : Element} {r : Range}
    (hn : g.nodes[i]? = some n) (he : n.element? = some e) (hr : e.endTag = some r) :
    ∀ a ∈ g.opened, a.id ≠ i := by
  rintro a ha rfl
  obtain ⟨m, hm, e', hkind, hnone⟩ := hs.unclosed a ha
  rw [Array.getElem?_toList, Option.mem_def] at hm
  obtain rfl := Option.some.inj (hn.symm.trans hm)
  rw [Node.element?, hkind] at he
  obtain rfl := Option.some.inj he
  rw [hnone] at hr
  cases hr

theorem Separated.apart_grow (h : g.Separated) (hs : g.Sound) (hl : g.Lineage)
    (hle : ∀ i, (g.document.outerEnd i).offset ≤ g.place.offset) {i j : Nat} {n : Node}
    (hij : i < j) (hn : (g.grow p).nodes[j]? = some n)
    (hi : i ∉ (g.grow p).document.ancestors j) :
    ((g.grow p).document.outerEnd i).offset ≤ n.range.start.offset := by
  obtain ⟨hj, -⟩ := Array.getElem?_eq_some_iff.1 hn
  by_cases hold : j < g.nodes.size
  · rw [ancestors_grow hold] at hi
    have hopen : ∀ a ∈ g.opened, a.id ≠ i := by
      rintro a ha rfl
      exact hi (hl.below a ha j hij hold)
    obtain ⟨m, hm⟩ : ∃ m, g.nodes[j]? = some m := ⟨_, Array.getElem?_eq_getElem hold⟩
    obtain ⟨m', hm', hrange⟩ := node_foldl hm [p]
    obtain rfl := Option.some.inj (hn.symm.trans hm')
    rw [hl.outerEnd_grow hs (Nat.lt_trans hij hold) hopen, hrange]
    exact h.apart i j m hij hm hi
  · have hstart : g.place.offset ≤ n.range.start.offset := by
      obtain ⟨k, rfl⟩ := Nat.exists_eq_add_of_le (Nat.le_of_not_lt hold)
      rw [getElem_grow_new] at hn
      exact ((g.ranges_added p).2 n (List.mem_of_getElem? hn)).1
    by_cases hsize : i < g.nodes.size
    · have hopen : ∀ a ∈ g.opened, a.id ≠ i := fun a ha heq =>
        hi ((hl.mem_ancestors_new hs (Nat.le_of_not_lt hold) hj hsize).2 ⟨a, ha, heq⟩)
      rw [hl.outerEnd_grow hs hsize hopen]
      exact Nat.le_trans (hle i) hstart
    · -- only verbatim content has another new node in front of it, which it stands in
      have hlength := size_grow (g := g) p
      have htwo := g.length_added_le p
      obtain rfl : i = g.nodes.size := by omega
      obtain rfl : j = g.nodes.size + 1 := by omega
      rw [hl.ancestors_content hs hj] at hi
      exact absurd List.mem_cons_self hi

/-- The only new element that has an end tag from the start is one with verbatim content. -/
theorem verbatim_of_endTag {j : Nat} {n : Node} {e : Element} {r : Range}
    (hn : (g.added p)[j]? = some n) (he : n.element? = some e) (hr : e.endTag = some r) :
    j = 0 ∧ ∃ t content close, p = .verbatim t content close := by
  have helement : n.head.isElement = true := by
    rw [Node.isElement_head, Node.isElement, he]
    rfl
  obtain ⟨rfl, -⟩ := startTag_of_added (g := g) (p := p) (n := n.head) (j := j)
    (by rw [List.getElem?_map, hn]; rfl) helement
  refine ⟨rfl, ?_⟩
  cases p with
  | verbatim t content close => exact ⟨t, content, close, rfl⟩
  | endTag t => simp [added] at hn
  | startTag t =>
    obtain rfl := Option.some.inj hn
    obtain rfl := Option.some.inj he
    cases hr
  | _ =>
    obtain rfl := Option.some.inj hn
    cases he

theorem ended_verbatim {t : StartTag} {content : List Char} {close : Option EndTag}
    (ho : (g.grow (.verbatim t content close)).Ordered) {n : Node} {e : Element} {r : Range}
    (hn : (g.added (.verbatim t content close))[0]? = some n) (he : n.element? = some e)
    (hr : e.endTag = some r) :
    n.range.stop.offset ≤ r.start.offset ∧
      ∀ c ∈ (g.grow (.verbatim t content close)).document.children g.nodes.size,
        ((g.grow (.verbatim t content close)).document.outerEnd c).offset ≤ r.start.offset := by
  obtain rfl := Option.some.inj hn
  obtain rfl := Option.some.inj he
  obtain ⟨e, rfl, rfl⟩ := Option.map_eq_some_iff.1 hr
  refine ⟨by simp [elementNode, leafNode, inside], fun c hc => ?_⟩
  have hlt := ho.parent_lt hc
  have hsize : c < (g.grow (.verbatim t content (some e))).nodes.size :=
    Document.lt_size_of_child hc
  have htwo := g.length_added_le (.verbatim t content (some e))
  rw [size_grow] at hsize
  obtain rfl : c = g.nodes.size + 1 := by omega
  have hget := g.getElem_grow_new (.verbatim t content (some e)) 1
  by_cases hempty : content.isEmpty = true
  · simp only [added, hempty, if_true, List.length_singleton] at hsize
    omega
  · simp only [added, hempty, Bool.false_eq_true, if_false, List.getElem?_cons_succ,
      List.getElem?_cons_zero] at hget
    rw [Document.outerEnd_of_leaf hget rfl]
    exact Nat.le_refl _

theorem endTag_setEndTag {r r' : Range} {n : Node} {e : Element}
    (he : (setEndTag r n).element? = some e) (hr : e.endTag = some r') : r' = r := by
  obtain ⟨kind, range, source, parent⟩ := n
  cases kind with
  | element e' =>
    obtain rfl := Option.some.inj he
    exact (Option.some.inj hr).symm
  | _ => cases he

theorem ended_endTag {t : EndTag} {a : OpenElement} (ho : g.Ordered)
    (hle : ∀ i, (g.document.outerEnd i).offset ≤ g.place.offset) (ha : a ∈ g.closes? (.endTag t))
    (hi : a.id < g.nodes.size) {n : Node} {e : Element} {r : Range}
    (hn : (g.grow (.endTag t)).nodes[a.id]? = some n) (he : n.element? = some e)
    (hr : e.endTag = some r) :
    n.range.stop.offset ≤ r.start.offset ∧
      ∀ c ∈ (g.grow (.endTag t)).document.children a.id,
        ((g.grow (.endTag t)).document.outerEnd c).offset ≤ r.start.offset := by
  obtain ⟨m, hm⟩ : ∃ m, g.nodes[a.id]? = some m := ⟨_, Array.getElem?_eq_getElem hi⟩
  obtain rfl : n = setEndTag ⟨g.place, g.place.advance t.source⟩ m := by
    rw [← Array.getElem?_toList] at hm hn
    rw [nodes_grow, List.getElem?_append_left (by simpa using hi), Option.mem_def.1 ha] at hn
    simpa [closeAt, hm, Piece.source, eq_comm] using hn
  obtain rfl := endTag_setEndTag he hr
  rw [← Node.range_head, head_setEndTag]
  constructor
  · apply ho.passed
    rw [← Array.getElem?_toList] at hm
    exact List.mem_map_of_mem (List.mem_of_getElem? hm)
  · intro c hc
    rw [children_endTag] at hc
    have hlt := ho.parent_lt hc
    have hsame : (g.grow (.endTag t)).document.outerEnd c = g.document.outerEnd c := by
      refine @Document.outerEnd_congr _ _ _ c (fun j hle hj => ⟨?_, children_endTag t j⟩)
        (Nat.le_refl _) (Document.lt_size_of_child hc)
      refine nodes_grow_left hj fun b hb => ?_
      obtain rfl := Option.some.inj (Option.mem_def.1 ha ▸ Option.mem_def.1 hb)
      omega
    rw [hsame]
    exact hle c

theorem Separated.ended_grow (h : g.Separated) (hs : g.Sound) (ho : g.Ordered) (hl : g.Lineage)
    (hle : ∀ i, (g.document.outerEnd i).offset ≤ g.place.offset) {i : Nat} {n : Node}
    {e : Element} {r : Range} (hn : (g.grow p).nodes[i]? = some n) (he : n.element? = some e)
    (hr : e.endTag = some r) :
    n.range.stop.offset ≤ r.start.offset ∧
      ∀ c ∈ (g.grow p).document.children i,
        ((g.grow p).document.outerEnd c).offset ≤ r.start.offset := by
  by_cases hi : i < g.nodes.size
  · by_cases hclosed : ∃ a ∈ g.closes? p, a.id = i
    · obtain ⟨a, ha, rfl⟩ := hclosed
      cases p with
      | endTag t => exact ended_endTag ho hle ha hi hn he hr
      | _ => cases ha
    · -- an element that has its end tag already is not open any more, nor is any in it
      have hold : g.nodes[i]? = some n := by
        rw [← nodes_grow_left hi fun a ha heq => hclosed ⟨a, ha, heq⟩]
        exact hn
      have hopen := not_opened_of_endTag hs hold he hr
      obtain ⟨hstop, hends⟩ := h.ended i n e r hold he hr
      obtain ⟨-, hchildren, -⟩ := closed_grow hs hi hopen p
      refine ⟨hstop, fun c hc => ?_⟩
      rw [hchildren] at hc
      rw [hl.outerEnd_grow hs (Document.lt_size_of_child hc)]
      · exact hends c hc
      · intro a ha heq
        obtain ⟨b, hb, hid⟩ := hl.open_of_child hc (ho.parent_lt hc) ha heq
        exact hopen b hb hid
  · obtain ⟨k, rfl⟩ := Nat.exists_eq_add_of_le (Nat.le_of_not_lt hi)
    rw [getElem_grow_new] at hn
    obtain ⟨rfl, t, content, close, rfl⟩ := verbatim_of_endTag hn he hr
    exact ended_verbatim (ho.grow hs _) hn he hr

theorem Separated.grow (h : g.Separated) (hs : g.Sound) (ho : g.Ordered) (hl : g.Lineage)
    (hle : ∀ i, (g.document.outerEnd i).offset ≤ g.place.offset) (p : Piece) :
    (g.grow p).Separated :=
  ⟨fun _ _ _ => h.apart_grow hs hl hle, fun _ _ _ _ => h.ended_grow hs ho hl hle⟩

theorem separated_ofPieces (f : Flavor) (ps : List Piece) : (ofPieces f ps).Separated := by
  induction ps using List.reverseRecOn with
  | nil => exact separated_start f
  | append_singleton ps p ih =>
    have hgrow := ih.grow (sound_ofPieces f ps) ((ordered_start f).foldl (sound_start f) ps)
      (lineage_ofPieces f ps) (outerEnd_le_place f ps) p
    rw [ofPieces_append]
    exact hgrow

def Bracket (g : Growth) (i : Nat) : Prop :=
  ∃ n ∈ g.heads[i]?, ∃ e, n.element? = some e ∧ e.closing = .bracket ∧
    g.flavor.isVoid e.name = false

structure Parental (g : Growth) : Prop where
  opened : ∀ a ∈ g.opened, g.Bracket a.id
  parents : ∀ c i, g.document.parent? c = some i → g.Bracket i
  ended : ∀ i n e r, g.nodes[i]? = some n → n.element? = some e → e.endTag = some r → g.Bracket i

theorem Bracket.grow {i : Nat} (h : g.Bracket i) (p : Piece) : (g.grow p).Bracket i := by
  obtain ⟨n, hn, he⟩ := h
  obtain ⟨hi, -⟩ := List.getElem?_eq_some_iff.1 (Option.mem_def.1 hn)
  rw [Bracket, flavor_grow]
  refine ⟨n, ?_, he⟩
  rw [heads_grow, List.getElem?_append_left hi]
  exact hn

theorem bracket_added {t : StartTag} (ht : p.startTag? = some t) (hc : t.closing = .bracket)
    (hv : g.flavor.isVoid (g.nameOf t.name) = false) : (g.grow p).Bracket g.nodes.size := by
  have hhead : ∃ more, (g.added p).map Node.head = g.elementNode t none :: more := by
    cases p with
    | startTag t' =>
      cases ht
      exact ⟨_, rfl⟩
    | verbatim t' content close =>
      cases ht
      exact ⟨_, rfl⟩
    | _ => cases ht
  obtain ⟨more, hmore⟩ := hhead
  rw [Bracket, flavor_grow]
  refine ⟨g.elementNode t none, ?_, _, rfl, hc, hv⟩
  rw [heads_grow, hmore, ← length_heads]
  simp

theorem mem_of_closes? {a : OpenElement} (ha : a ∈ g.closes? p) : a ∈ g.opened := by
  cases p with
  | endTag t => exact (List.dropWhile_suffix _).subset (List.mem_of_mem_head? ha)
  | _ => cases ha

theorem parent_of_added {n : Node} (hn : n ∈ g.added p) :
    n.parent = g.parent? ∨
      ∃ t content close, p = .verbatim t content close ∧ n.parent = some g.nodes.size := by
  cases p with
  | verbatim t content close =>
    rcases List.mem_cons.1 hn with rfl | hn
    · exact Or.inl rfl
    · split at hn
      · cases hn
      · obtain rfl := List.mem_singleton.1 hn
        exact Or.inr ⟨t, content, close, rfl, rfl⟩
  | endTag t => cases hn
  | _ =>
    obtain rfl := List.mem_singleton.1 hn
    exact Or.inl rfl

theorem Parental.ended_grow (h : g.Parental) (hb : p.Fillable g.flavor) {i : Nat} {n : Node} {e : Element}
    {r : Range} (hn : (g.grow p).nodes[i]? = some n) (he : n.element? = some e)
    (hr : e.endTag = some r) : (g.grow p).Bracket i := by
  by_cases hi : i < g.nodes.size
  · by_cases hclosed : ∃ a ∈ g.closes? p, a.id = i
    · obtain ⟨a, ha, rfl⟩ := hclosed
      exact (h.opened a (mem_of_closes? ha)).grow p
    · rw [nodes_grow_left hi fun a ha heq => hclosed ⟨a, ha, heq⟩] at hn
      exact (h.ended i n e r hn he hr).grow p
  · obtain ⟨k, rfl⟩ := Nat.exists_eq_add_of_le (Nat.le_of_not_lt hi)
    rw [getElem_grow_new] at hn
    obtain ⟨rfl, t, content, close, rfl⟩ := verbatim_of_endTag hn he hr
    exact bracket_added rfl hb.1 hb.2

theorem Parental.grow (h : g.Parental) (hs : g.Sound) (hb : p.Fillable g.flavor) :
    (g.grow p).Parental := by
  refine ⟨?_, ?_, fun _ _ _ _ => h.ended_grow hb⟩
  · intro a ha
    rcases mem_opened_grow hs ha with ⟨hold, -⟩ | ⟨t, rfl, hid⟩
    · exact (h.opened a hold).grow p
    · rw [opened_grow, openedBy] at ha
      split at ha
      · rename_i hopens
        exact hid ▸ bracket_added rfl hopens.1 (by simpa using hopens.2)
      · exact (h.opened a ha).grow _
  · intro c i hparent
    rw [parent?_document, parents_grow] at hparent
    by_cases hc : c < g.nodes.size
    · rw [List.getElem?_append_left (by simpa using hc), ← parent?_document] at hparent
      exact (h.parents c i hparent).grow p
    · rw [List.getElem?_append_right (by simpa using hc), Option.join_eq_some_iff] at hparent
      obtain ⟨m, hm, hmi⟩ := List.mem_map.1 (List.mem_of_getElem? hparent)
      rcases parent_of_added hm with hopen | ⟨t, content, close, rfl, hnew⟩
      · obtain ⟨a, ha, hid⟩ := Option.map_eq_some_iff.1 (hopen.symm.trans hmi)
        exact ((hid ▸ h.opened a (List.mem_of_mem_head? ha)).grow p)
      · obtain rfl := Option.some.inj (hnew.symm.trans hmi)
        exact bracket_added rfl hb.1 hb.2

theorem parental_start (f : Flavor) : (start f).Parental :=
  ⟨by simp [start], by simp [start, parent?_document, Growth.parents], by simp [start]⟩

theorem parental_ofPieces (f : Flavor) {ps : List Piece} (hb : ∀ p ∈ ps, p.Fillable f) :
    (ofPieces f ps).Parental := by
  induction ps using List.reverseRecOn with
  | nil => exact parental_start f
  | append_singleton ps p ih =>
    have hfillable : p.Fillable (ofPieces f ps).flavor := by
      rw [flavor_ofPieces]
      exact hb p (by simp)
    have hgrow := (ih fun q hq => hb q (List.mem_append_left _ hq)).grow (sound_ofPieces f ps)
      hfillable
    rw [ofPieces_append]
    exact hgrow

end Growth

namespace Document

variable {f : Flavor} {text : String} {i j : Nat} {n m : Node}

theorem lt_of_mem_regions {r : Range} (hr : r ∈ (parse f text).regions) :
    r.start.offset < r.stop.offset := by
  obtain ⟨rs, hperm, htiles⟩ := exists_tiles f text
  exact lt_of_mem_tiles htiles r (hperm.subset (List.mem_append_left _ hr))

theorem lt_of_node (hn : (parse f text).nodes[i]? = some n) :
    n.range.start.offset < n.range.stop.offset :=
  lt_of_mem_regions (mem_regions hn List.mem_cons_self)

theorem exists_node_of_lt {d : Document} (hi : i < d.size) : ∃ n, d.nodes[i]? = some n :=
  ⟨_, Array.getElem?_eq_getElem hi⟩

/-- An element ends in front of the nodes behind it that do not stand in it. -/
theorem outerEnd_le_start (hm : (parse f text).nodes[j]? = some m) (hij : i < j)
    (hi : i ∉ (parse f text).ancestors j) :
    ((parse f text).outerEnd i).offset ≤ m.range.start.offset := by
  obtain ⟨hj, -⟩ := Array.getElem?_eq_some_iff.1 hm
  rw [ancestors_parse] at hi
  rw [outerEnd_parse (Nat.lt_trans hij hj)]
  exact (Growth.separated_ofPieces f _).apart i j m hij hm hi

theorem element_of_bracket
    (h : (Growth.ofPieces f (pieces f (stripMark text.toList).1)).Bracket i) :
    ∃ n e, (parse f text).nodes[i]? = some n ∧ n.element? = some e ∧ e.closing = .bracket ∧
      f.isVoid e.name = false := by
  obtain ⟨m, hm, e, he, hbracket, hvoid⟩ := h
  rw [Growth.flavor_ofPieces] at hvoid
  rw [Growth.heads, List.getElem?_map, Array.getElem?_toList] at hm
  obtain ⟨n, hn, rfl⟩ := Option.map_eq_some_iff.1 hm
  obtain ⟨kind, range, source, parent⟩ := n
  cases kind with
  | element e' =>
    obtain rfl := Option.some.inj he
    exact ⟨_, e', hn, rfl, hbracket, hvoid⟩
  | _ => cases he

theorem parental_parse (f : Flavor) (text : String) :
    (Growth.ofPieces f (pieces f (stripMark text.toList).1)).Parental :=
  Growth.parental_ofPieces f fun _ hp => fillable_of_mem hp

theorem bracket_of_child {c : Nat} (hc : c ∈ (parse f text).children i) :
    ∃ n e, (parse f text).nodes[i]? = some n ∧ n.element? = some e ∧ e.closing = .bracket ∧
      f.isVoid e.name = false :=
  element_of_bracket ((parental_parse f text).parents c i (mem_children.1 hc))

section EndTag

variable {e : Element} {r : Range}

theorem stop_le_endTag (hn : (parse f text).nodes[i]? = some n) (he : n.element? = some e)
    (hr : e.endTag = some r) : n.range.stop.offset ≤ r.start.offset :=
  ((Growth.separated_ofPieces f _).ended i n e r hn he hr).1

theorem child_le_endTag (hn : (parse f text).nodes[i]? = some n) (he : n.element? = some e)
    (hr : e.endTag = some r) {c : Nat} (hc : c ∈ (parse f text).children i) :
    ((parse f text).outerEnd c).offset ≤ r.start.offset := by
  rw [outerEnd_parse (lt_size_of_child hc)]
  exact ((Growth.separated_ofPieces f _).ended i n e r hn he hr).2 c hc

theorem endTag_le_outerEnd (hn : (parse f text).nodes[i]? = some n) (he : n.element? = some e)
    (hr : e.endTag = some r) : r.stop.offset ≤ ((parse f text).outerEnd i).offset := by
  obtain ⟨m, e', hm, he', hbracket, -⟩ :=
    element_of_bracket ((parental_parse f text).ended i n e r hn he hr)
  obtain rfl := Option.some.inj (hn.symm.trans hm)
  obtain rfl := Option.some.inj (he.symm.trans he')
  have hrange : n.endRange e = e.endTag := Node.endRange_of_ne (by simp [hbracket])
  rw [outerEnd_of_endRange hn he (hrange.trans hr)]

theorem lt_of_endTag (hn : (parse f text).nodes[i]? = some n) (he : n.element? = some e)
    (hr : e.endTag = some r) : r.start.offset < r.stop.offset :=
  lt_of_mem_regions (mem_regions hn (by simp [Node.regions, he, hr]))

end EndTag

theorem stop_le_outerEnd (hn : (parse f text).nodes[i]? = some n) :
    n.range.stop.offset ≤ ((parse f text).outerEnd i).offset := by
  generalize hd : parse f text = d at hn
  fun_induction outerEnd d i generalizing n with
  | case1 i hnone =>
    rw [hnone] at hn
    cases hn
  | case2 i m hm =>
    obtain rfl := Option.some.inj (hn.symm.trans hm)
    exact Nat.le_refl _
  | case3 i m hm e he r hr =>
    obtain rfl := Option.some.inj (hn.symm.trans hm)
    subst hd
    unfold Node.endRange at hr
    split at hr
    · obtain rfl := Option.some.inj hr
      exact Nat.le_refl _
    · exact Nat.le_trans (stop_le_endTag hn he hr) (Nat.le_of_lt (lt_of_endTag hn he hr))
  | case4 i m hm =>
    obtain rfl := Option.some.inj (hn.symm.trans hm)
    exact Nat.le_refl _
  | case5 i m hm e he hr last hlast hlt ih =>
    obtain ⟨k, hk⟩ := exists_node_of_lt hlt.2
    subst hd
    have hstart := lt_of_node hk
    have hbehind := stop_le_start hn hk hlt.1
    have hend := ih hk
    omega
  | case6 i m hm =>
    obtain rfl := Option.some.inj (hn.symm.trans hm)
    exact Nat.le_refl _

variable {last : Nat}

theorem not_mem_ancestors_of_child {c : Nat} (hc : c ∈ (parse f text).children i)
    (hj : j ∈ (parse f text).children i) : c ∉ (parse f text).ancestors j := by
  intro hmem
  rw [ancestors_of_parent (mem_children.1 hj) (lt_of_child hj)] at hmem
  have hlt := lt_of_child hc
  rcases List.mem_cons.1 hmem with rfl | hmem
  · exact Nat.lt_irrefl _ hlt
  · exact Nat.lt_asymm hlt (lt_of_mem_ancestors hmem)

theorem child_le_last (hlast : ((parse f text).children i).getLast? = some last) {c : Nat}
    (hc : c ∈ (parse f text).children i) :
    ((parse f text).outerEnd c).offset ≤ ((parse f text).outerEnd last).offset := by
  have hmem := List.mem_of_getLast? hlast
  obtain ⟨front, hfront⟩ := List.getLast?_eq_some_iff.1 hlast
  have hsorted := children_sorted (parse f text) i
  rw [hfront] at hc hsorted
  rcases List.mem_append.1 hc with hc' | hc'
  · -- a child in front of the last one ends in front of it
    have hlt := (List.pairwise_append.1 hsorted).2.2 c hc' last List.mem_cons_self
    obtain ⟨m, hm⟩ := exists_node_of_lt (lt_size_of_child hmem)
    have hends := outerEnd_le_start hm hlt (not_mem_ancestors_of_child (hfront ▸ hc) hmem)
    have hstart := lt_of_node hm
    have hstop := stop_le_outerEnd hm
    omega
  · rw [List.mem_singleton.1 hc']

theorem child_le_outerEnd {c : Nat} (hc : c ∈ (parse f text).children i) :
    ((parse f text).outerEnd c).offset ≤ ((parse f text).outerEnd i).offset := by
  obtain ⟨n, e, hn, he, hbracket, -⟩ := bracket_of_child hc
  have hrange : n.endRange e = e.endTag := Node.endRange_of_ne (by simp [hbracket])
  cases hend : e.endTag with
  | some r =>
    rw [outerEnd_of_endRange hn he (hrange.trans hend)]
    exact Nat.le_trans (child_le_endTag hn he hend hc) (Nat.le_of_lt (lt_of_endTag hn he hend))
  | none =>
    have hlast := List.getLast?_eq_some_getLast (List.ne_nil_of_mem hc)
    rw [outerEnd_of_last hn he (hrange.trans hend) hlast (lt_of_child (List.mem_of_getLast? hlast))]
    exact child_le_last hlast hc

theorem outerEnd_le_ancestor (h : i ∈ (parse f text).ancestors j) :
    ((parse f text).outerEnd j).offset ≤ ((parse f text).outerEnd i).offset := by
  generalize hd : parse f text = d at h
  fun_induction ancestors d j with
  | case1 => cases h
  | case2 j p hparent hlt ih =>
    subst hd
    have hle := child_le_outerEnd (mem_children.2 hparent)
    rcases List.mem_cons.1 h with rfl | h
    · exact hle
    · exact Nat.le_trans hle (ih h)
  | case3 => cases h

theorem outerEnd_le_last (hlast : ((parse f text).children i).getLast? = some last)
    (h : i ∈ (parse f text).ancestors j) :
    ((parse f text).outerEnd j).offset ≤ ((parse f text).outerEnd last).offset := by
  obtain ⟨c, hc, rfl | hmem⟩ := exists_child_of_mem_ancestors h
  · exact child_le_last hlast hc
  · exact Nat.le_trans (outerEnd_le_ancestor hmem) (child_le_last hlast hc)

theorem outerEnd_le_endTag {e : Element} {r : Range} (hn : (parse f text).nodes[i]? = some n)
    (he : n.element? = some e) (hr : e.endTag = some r) (h : i ∈ (parse f text).ancestors j) :
    ((parse f text).outerEnd j).offset ≤ r.start.offset := by
  obtain ⟨c, hc, rfl | hmem⟩ := exists_child_of_mem_ancestors h
  · exact child_le_endTag hn he hr hc
  · exact Nat.le_trans (outerEnd_le_ancestor hmem) (child_le_endTag hn he hr hc)

theorem first_le_start {first : Nat} (hfirst : ((parse f text).children i).head? = some first)
    (hn : (parse f text).nodes[first]? = some n) (h : i ∈ (parse f text).ancestors j)
    (hm : (parse f text).nodes[j]? = some m) : n.range.start.offset ≤ m.range.start.offset := by
  have hle : first ≤ j := by
    obtain ⟨c, hc, hmem⟩ := exists_child_of_mem_ancestors h
    have hcj : c ≤ j := by
      rcases hmem with rfl | hmem
      · exact Nat.le_refl _
      · exact Nat.le_of_lt (lt_of_mem_ancestors hmem)
    obtain ⟨rest, hrest⟩ := List.head?_eq_some_iff.1 hfirst
    have hsorted := children_sorted (parse f text) i
    rw [hrest] at hc hsorted
    rcases List.mem_cons.1 hc with rfl | hc
    · exact hcj
    · exact Nat.le_trans (Nat.le_of_lt ((List.pairwise_cons.1 hsorted).1 c hc)) hcj
  rcases Nat.eq_or_lt_of_le hle with rfl | hlt
  · obtain rfl := Option.some.inj (hn.symm.trans hm)
    exact Nat.le_refl _
  · exact Nat.le_trans (Nat.le_of_lt (lt_of_node hn)) (stop_le_start hn hm hlt)

end Document
end MarkupSplice
