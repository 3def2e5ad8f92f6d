import MarkupSplice.Proofs.Edit.Copying
import MarkupSplice.Proofs.Markup.Enclosure

/-!
# Documents written back

A walk through a document that speaks in front of the children of each node and
behind them (`Document.around`) meets all ranges in the order of the text
(`passages_eq`). So when no end tag was passed over, start tags, children and end
tags, written one after another, are the text again (`written_parse`).
-/
namespace MarkupSplice
open Markup Text
open scoped List

def Range.sourceIn (s : List Char) (r : Range) : List Char := slice s r.start.offset r.stop.offset

theorem sourceIn_advance (a b c : List Char) :
    (⟨Position.origin.advance a, Position.origin.advance (a ++ b)⟩ : Range).sourceIn (a ++ b ++ c) =
      b := by
  have hslice := slice_byteLength a b c
  simpa [Range.sourceIn, Position.origin] using hslice

theorem flatMap_sourceIn {s a b : List Char} {rs : List Range} (hs : s = a ++ b)
    (h : Tiles (Position.origin.advance a) (Position.origin.advance s) rs)
    (hinside : ∀ r ∈ rs, r.stop.Inside s) : rs.flatMap (Range.sourceIn s) = b := by
  induction rs generalizing a b with
  | nil =>
    have hlength := congrArg Position.offset h
    simp only [Position.offset_advance, hs, byteLength_append] at hlength
    exact (byteLength_eq_zero.1 (by omega)).symm
  | cons r rs ih =>
    obtain ⟨hstart, hlt, hrest⟩ := h
    obtain ⟨a', ha', hstop⟩ := hinside r List.mem_cons_self
    -- the tile begins where `a` ends and ends behind that, so it is what `a'` has more than `a`
    have hle : byteLength a ≤ byteLength a' := by
      rw [hstop, Position.offset_advance, Position.offset_advance] at hlt
      omega
    obtain ⟨x, rfl⟩ := prefix_of_byteLength_le (hs ▸ List.prefix_append a b) ha' hle
    obtain ⟨y, hy⟩ := ha'
    have hb : b = x ++ y := by
      rw [hs, List.append_assoc] at hy
      exact (List.append_cancel_left hy).symm
    have hr : r = ⟨Position.origin.advance a, Position.origin.advance (a ++ x)⟩ := by
      rw [← hstart, ← hstop]
    rw [hstop] at hrest
    rw [List.flatMap_cons, ih hy.symm hrest fun r' hr' => hinside r' (List.mem_cons_of_mem _ hr'),
      hb, hr, ← hy, sourceIn_advance]

namespace Document

section Around

variable {α β : Type}

/-- What is said at a node in front of its children, at its children, and at the node again. -/
def around (d : Document) (front behind : Nat → List α) (i : Nat) : List α :=
  front i ++
    ((d.children i).attach.flatMap fun c => if i < c.1 then d.around front behind c.1 else []) ++
    behind i
termination_by d.size - i
decreasing_by
  have hsize := lt_size_of_child c.2
  omega

variable {f : Flavor} {text : String}

theorem around_eq (front behind : Nat → List α) (i : Nat) :
    (parse f text).around front behind i =
      front i ++ ((parse f text).children i).flatMap ((parse f text).around front behind) ++
        behind i := by
  have hall : ∀ c ∈ ((parse f text).children i).attach,
      (if i < c.1 then (parse f text).around front behind c.1 else []) =
        (parse f text).around front behind c.1 := fun c _ => if_pos (lt_of_child c.2)
  rw [around, List.flatMap_congr hall, List.flatMap_subtype (fun _ _ => rfl), List.unattach_attach]

theorem walk_induction {P : Nat → Prop}
    (h : ∀ i, (∀ c ∈ (parse f text).children i, P c) → P i) (i : Nat) : P i := by
  induction hn : (parse f text).size - i using Nat.strong_induction_on generalizing i with
  | _ n ih =>
    refine h i fun c hc => ?_
    have hlt := lt_of_child hc
    have hsize := lt_size_of_child hc
    exact ih ((parse f text).size - c) (by omega) c rfl

theorem flatMap_around (k : α → List β) (front behind : Nat → List α) (i : Nat) :
    ((parse f text).around front behind i).flatMap k =
      (parse f text).around (fun j => (front j).flatMap k) (fun j => (behind j).flatMap k) i := by
  induction i using @walk_induction f text with
  | h i ih =>
    rw [around_eq, around_eq, List.flatMap_append, List.flatMap_append, List.flatMap_assoc,
      List.flatMap_congr ih]

theorem around_perm (front behind : Nat → List α) (i : Nat) :
    (parse f text).around front behind i ~
      ((parse f text).walk i).flatMap fun j => front j ++ behind j := by
  induction i using @walk_induction f text with
  | h i ih =>
    -- what is said behind the children is moved in front of them
    rw [around_eq, walk_eq, List.flatMap_cons, List.flatMap_assoc, List.append_assoc,
      List.append_assoc]
    refine List.Perm.append_left _ (List.perm_append_comm.trans (List.Perm.append_left _ ?_))
    exact List.Perm.flatMap_left _ ih

end Around

def rangeAt (d : Document) (i : Nat) : List Range := ((d.nodes[i]?).map Node.range).toList

def endTagAt (d : Document) (i : Nat) : List Range := ((d.element? i).bind Element.endTag).toList

def passage (d : Document) (i : Nat) : List Range := d.around d.rangeAt d.endTagAt i

def written (d : Document) (s : List Char) (i : Nat) : List Char :=
  d.around (fun j => (d.nodes[j]?).elim [] fun n => n.source.toList)
    (fun j => (d.endTagAt j).flatMap (Range.sourceIn s)) i

theorem regionsAt_eq (d : Document) (i : Nat) : d.regionsAt i = d.rangeAt i ++ d.endTagAt i := by
  rw [regionsAt, rangeAt, endTagAt, element?]
  cases d.nodes[i]? <;> rfl

theorem flatMap_regionsAt (d : Document) : d.ids.flatMap d.regionsAt = d.regions := by
  have hget : d.ids.map (fun i => d.nodes[i]?) = d.nodes.toList.map some := by
    apply List.ext_getElem
    · simp [ids, size]
    · intro i h₁ h₂
      have hi : i < d.nodes.size := by simpa using h₂
      simp [ids, hi]
  calc d.ids.flatMap d.regionsAt
    _ = (d.ids.map fun i => d.nodes[i]?).flatMap fun o => o.elim [] Node.regions := by
      rw [List.flatMap_map]; rfl
    _ = d.regions := by rw [hget, List.flatMap_map]; rfl

theorem mem_rangeAt {d : Document} {i : Nat} {r : Range} :
    r ∈ d.rangeAt i ↔ ∃ n, d.nodes[i]? = some n ∧ n.range = r := by
  rw [rangeAt, Option.mem_toList, Option.map_eq_some_iff]

theorem mem_endTagAt {d : Document} {i : Nat} {r : Range} :
    r ∈ d.endTagAt i ↔
      ∃ n e, d.nodes[i]? = some n ∧ n.element? = some e ∧ e.endTag = some r := by
  rw [endTagAt, Option.mem_toList, element?]
  cases d.nodes[i]? with
  | none => simp
  | some n => simp [Option.bind_eq_some_iff]

theorem pairwise_toList {α : Type} {R : α → α → Prop} (o : Option α) : o.toList.Pairwise R := by
  cases o with
  | none => exact List.Pairwise.nil
  | some a => exact List.pairwise_singleton R a

section Passages

variable {f : Flavor} {text : String} {i : Nat} {r : Range}

theorem passage_perm (i : Nat) :
    (parse f text).passage i ~ ((parse f text).walk i).flatMap (parse f text).regionsAt := by
  have hat : (parse f text).regionsAt =
      fun j => (parse f text).rangeAt j ++ (parse f text).endTagAt j :=
    funext fun j => regionsAt_eq _ j
  rw [hat]
  exact around_perm _ _ i

theorem mem_passage (hr : r ∈ (parse f text).passage i) : r ∈ (parse f text).regionsIn i := by
  rw [regionsIn, ← walk_eq_descendants]
  exact (passage_perm i).subset hr

theorem passages_perm :
    (parse f text).roots.flatMap (parse f text).passage ~ (parse f text).regions := by
  rw [← flatMap_regionsAt, ← walk_roots, List.flatMap_assoc]
  exact List.Perm.flatMap_left _ fun i _ => passage_perm i

theorem start_le_of_mem_regionsIn (hr : r ∈ (parse f text).regionsIn i) :
    ((parse f text).extent i).start.offset ≤ r.start.offset := by
  obtain ⟨j, hj, m, hm, hmem⟩ := mem_regionsIn.1 hr
  have hown : m.range.start.offset ≤ r.start.offset := by
    rcases List.mem_cons.1 hmem with rfl | hend
    · exact Nat.le_refl _
    · obtain ⟨e, he, hr'⟩ := Option.bind_eq_some_iff.1 (Option.mem_toList.1 hend)
      exact Nat.le_trans (Nat.le_of_lt (lt_of_node hm)) (stop_le_endTag hm he hr')
  rcases List.mem_cons.1 hj with rfl | hwithin
  · rwa [extent_eq hm]
  · have hlt := lt_of_mem_ancestors (mem_descendants.1 hwithin)
    obtain ⟨hsize, -⟩ := Array.getElem?_eq_some_iff.1 hm
    obtain ⟨n, hn⟩ := exists_node_of_lt (Nat.lt_trans hlt hsize)
    have hle := stop_le_start hn hm hlt
    have hpos := lt_of_node hn
    rw [extent_eq hn]
    exact Nat.le_trans (Nat.le_of_lt hpos) (Nat.le_trans hle hown)

theorem passages_before {ids : List Nat}
    (hids : ids.Pairwise fun a b => ((parse f text).extent a).Before ((parse f text).extent b))
    (hown : ∀ c ∈ ids, ((parse f text).passage c).Pairwise Range.Before) :
    (ids.flatMap (parse f text).passage).Pairwise Range.Before := by
  rw [List.pairwise_flatMap]
  refine ⟨hown, hids.imp fun {a b} hab r hr r' hr' => ?_⟩
  have hstop := stop_le_of_mem_regionsIn (mem_passage hr)
  have hstart := start_le_of_mem_regionsIn (mem_passage hr')
  exact Nat.le_trans hstop (Nat.le_trans hab hstart)

theorem passage_sorted (i : Nat) : ((parse f text).passage i).Pairwise Range.Before := by
  induction i using @walk_induction f text with
  | h i ih =>
    rw [passage, around_eq, List.append_assoc, List.pairwise_append, List.pairwise_append]
    refine ⟨pairwise_toList _, ⟨passages_before (children_before i) ih, pairwise_toList _, ?_⟩, ?_⟩
    · intro r hr r' hr'
      obtain ⟨c, hc, hmem⟩ := List.mem_flatMap.1 hr
      obtain ⟨n, e, hn, he, hend⟩ := mem_endTagAt.1 hr'
      have hstop := stop_le_of_mem_regionsIn (mem_passage hmem)
      exact Nat.le_trans hstop (child_le_endTag hn he hend hc)
    · intro r hr r' hr'
      obtain ⟨n, hn, rfl⟩ := mem_rangeAt.1 hr
      rcases List.mem_append.1 hr' with hbetween | hend
      · obtain ⟨c, hc, hmem⟩ := List.mem_flatMap.1 hbetween
        exact Nat.le_trans (startTag_before hn hc) (start_le_of_mem_regionsIn (mem_passage hmem))
      · obtain ⟨m, e, hm, he, hr⟩ := mem_endTagAt.1 hend
        obtain rfl := Option.some.inj (hn.symm.trans hm)
        exact stop_le_endTag hn he hr

theorem passages_sorted :
    ((parse f text).roots.flatMap (parse f text).passage).Pairwise Range.Before :=
  passages_before roots_before fun i _ => passage_sorted i

theorem passages_eq {rs : List Range} {i k : Position} (h : Tiles i k rs)
    (hp : (parse f text).regions ~ rs) :
    (parse f text).roots.flatMap (parse f text).passage = rs := by
  rw [← mergeSort_of_tiles h (passages_perm.trans hp)]
  refine (List.mergeSort_of_pairwise (passages_sorted.imp_of_mem fun {a b} ha _ hab => ?_)).symm
  have hlt := lt_of_mem_regions (passages_perm.subset ha)
  exact decide_eq_true (Nat.le_trans (Nat.le_of_lt hlt) hab)

theorem source_head (n : Node) : n.head.source = n.source := by
  obtain ⟨kind, range, source, parent⟩ := n
  cases kind <;> rfl

theorem source_added (g : Growth) (p : Piece) : ∀ n ∈ g.added p, ∃ a b,
    p.source = a ++ n.source.toList ++ b ∧
      n.range = ⟨g.place.advance a, g.place.advance (a ++ n.source.toList)⟩ := by
  have hleaf : ∀ (kind : NodeKind) (source : List Char), ∃ a b,
      source = a ++ (g.leafNode kind source).source.toList ++ b ∧ (g.leafNode kind source).range =
        ⟨g.place.advance a, g.place.advance (a ++ (g.leafNode kind source).source.toList)⟩ :=
    fun kind source => ⟨[], [], by simp [Growth.leafNode], by simp [Growth.leafNode]⟩
  cases p with
  | verbatim t content close =>
    intro n hn
    rcases List.mem_cons.1 hn with rfl | hn
    · refine ⟨[], content ++ close.elim [] EndTag.source, ?_, ?_⟩
      · simp [Growth.elementNode, Growth.leafNode, Piece.source]
      · simp [Growth.elementNode, Growth.leafNode]
    · split at hn
      · cases hn
      · obtain rfl := List.mem_singleton.1 hn
        refine ⟨t.source, close.elim [] EndTag.source, ?_, ?_⟩
        · simp [Growth.contentNode, Piece.source]
        · simp [Growth.contentNode, Growth.inside]
  | endTag t => exact fun n hn => absurd hn List.not_mem_nil
  | _ =>
    intro n hn
    obtain rfl := List.mem_singleton.1 hn
    exact hleaf _ _

theorem source_node {n : Node} (hn : (parse f text).nodes[i]? = some n) :
    n.range.sourceIn (stripMark text.toList).1 = n.source.toList := by
  obtain ⟨before, p, after, hpieces, -, hmem⟩ :=
    Growth.added_of_head (Growth.start f) (head_parse hn) (Nat.zero_le i)
  obtain ⟨m, hm, hhead⟩ := List.mem_map.1 (List.mem_of_getElem? (Option.mem_def.1 hmem))
  obtain ⟨a, b, hsource, hrange⟩ := source_added _ p m hm
  have hrange' := congrArg Node.range hhead
  have hsource' := congrArg Node.source hhead
  rw [Node.range_head, Node.range_head] at hrange'
  rw [source_head, source_head] at hsource'
  have hs : (stripMark text.toList).1 = before.flatMap Piece.source ++ a ++ n.source.toList ++
      (b ++ after.flatMap Piece.source) := by
    rw [← source_pieces f (stripMark text.toList).1, hpieces, List.flatMap_append,
      List.flatMap_cons, hsource, hsource']
    simp only [List.append_assoc]
  have hplace : (before.foldl Growth.grow (Growth.start f)).place =
      Position.origin.advance (before.flatMap Piece.source) := Growth.place_ofPieces f before
  rw [← hrange', hrange, hplace, ← Position.advance_append, ← Position.advance_append,
    ← List.append_assoc, hsource', hs, sourceIn_advance]

theorem written_eq (i : Nat) :
    (parse f text).written (stripMark text.toList).1 i =
      ((parse f text).passage i).flatMap (Range.sourceIn (stripMark text.toList).1) := by
  have hsource : (fun j => ((parse f text).nodes[j]?).elim [] fun n => n.source.toList) =
      fun j => ((parse f text).rangeAt j).flatMap (Range.sourceIn (stripMark text.toList).1) := by
    funext j
    rw [rangeAt]
    cases hn : (parse f text).nodes[j]? with
    | none => rfl
    | some n => simp [source_node hn]
  rw [written, passage, flatMap_around, hsource]

/-- A document in which every end tag closes an element is its text when it is written back. -/
theorem written_parse (h : strayTags f text = []) :
    (parse f text).roots.flatMap ((parse f text).written (stripMark text.toList).1) =
      (stripMark text.toList).1 := by
  obtain ⟨rs, hperm, htiles⟩ := exists_tiles f text
  rw [h, List.map_nil, List.append_nil] at hperm
  have hinside : ∀ r ∈ rs, r.stop.Inside (stripMark text.toList).1 :=
    fun r hr => (inside_region (hperm.symm.subset hr)).stop
  have hwritten : (parse f text).written (stripMark text.toList).1 = fun i =>
      ((parse f text).passage i).flatMap (Range.sourceIn (stripMark text.toList).1) :=
    funext written_eq
  rw [hwritten, ← List.flatMap_assoc, passages_eq htiles hperm]
  exact flatMap_sourceIn (List.nil_append _).symm htiles hinside

end Passages
end Document
end MarkupSplice
