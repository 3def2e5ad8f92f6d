import MarkupSplice.Proofs.Plan.Clearing
import MarkupSplice.Proofs.Plan.Element

/-!
# Elements emptied

With the content of an element deleted a text is read as its document without
all that stands in the element (`clearContent_empties`). The nodes that are
left say what they said, have the source that they had and come in the same
order, each in the node that it stood in.
-/
namespace MarkupSplice
open Markup Text

namespace Document

def trace? (d : Document) (i : Nat) : Option Trace := d.nodes[i]?.map Node.trace

def kept (d : Document) (id : Nat) : List Nat :=
  d.ids.filter fun i => !(d.descendants id).contains i

/-- How a document reads when nothing stands in `id` any more. -/
structure Emptied (d d' : Document) (id : Nat) : Prop where
  size : d'.size = (d.kept id).length
  same : ∀ j i, (d.kept id)[j]? = some i →
    d'.trace? j = (d.trace? i).map (Trace.renumber (d.kept id).idxOf)
  own : d'.trace? id = d.trace? id
  children : d'.children id = []

structure Holds (d : Document) (id k : Nat) : Prop where
  le : id + 1 + k ≤ d.size
  mem : ∀ j, j ∈ d.descendants id ↔ id + 1 ≤ j ∧ j < id + 1 + k

variable {d d' : Document} {id k i j p : Nat}

theorem Holds.le_length (h : d.Holds id k) : id + 1 + k ≤ d.ids.length := by
  rw [ids, List.length_range]
  exact h.le

theorem mem_kept : i ∈ d.kept id ↔ i < d.size ∧ i ∉ d.descendants id := by
  simp [kept, ids]

theorem Holds.getElem?_ids (h : d.Holds id k) :
    (without (id + 1) k d.ids)[j]? = some i ↔
      (if j < id + 1 then j else j + k) = i ∧ i < d.size := by
  rw [getElem?_without h.le_length, List.getElem?_eq_some_iff]
  simp only [ids, List.getElem_range, List.length_range]
  constructor
  · intro hget
    obtain ⟨hlt, rfl⟩ := hget
    exact ⟨rfl, hlt⟩
  · intro hget
    obtain ⟨rfl, hlt⟩ := hget
    exact ⟨hlt, rfl⟩

theorem Holds.kept_eq (h : d.Holds id k) : d.kept id = without (id + 1) k d.ids := by
  have hsorted : d.ids.Pairwise (· < ·) := List.pairwise_lt_range
  have hsublist : (without (id + 1) k d.ids).Sublist d.ids := by
    conv_rhs => rw [← List.take_append_drop (id + 1) d.ids]
    exact (List.Sublist.refl _).append (List.drop_sublist_drop_left d.ids (Nat.le_add_right _ _))
  apply List.Pairwise.eq_of_mem_iff (hsorted.filter _) (hsorted.sublist hsublist)
  intro i
  rw [← kept, mem_kept, h.mem, List.mem_iff_getElem?]
  simp only [h.getElem?_ids]
  constructor
  · intro hi
    by_cases hfront : i < id + 1
    · exact ⟨i, if_pos hfront, hi.1⟩
    · refine ⟨i - k, ?_, hi.1⟩
      rw [if_neg (by omega)]
      omega
  · intro hi
    obtain ⟨j, hplace, hlt⟩ := hi
    refine ⟨hlt, ?_⟩
    split_ifs at hplace <;> omega

theorem Holds.getElem?_kept (h : d.Holds id k) :
    (d.kept id)[j]? = some i ↔ (if j < id + 1 then j else j + k) = i ∧ i < d.size := by
  rw [h.kept_eq, h.getElem?_ids]

theorem Holds.idxOf_kept (h : d.Holds id k) (hp : p < d.size) (hout : p ∉ d.descendants id) :
    (d.kept id).idxOf p = renumber (id + 1) k p := by
  rw [h.mem] at hout
  have hnodup : (d.kept id).Nodup := List.nodup_range.filter _
  have hget : (d.kept id)[renumber (id + 1) k p]? = some p := by
    rw [h.getElem?_kept, renumber]
    refine ⟨?_, hp⟩
    split_ifs <;> omega
  obtain ⟨hlt, heq⟩ := List.getElem?_eq_some_iff.1 hget
  conv_lhs => rw [← heq]
  exact hnodup.idxOf_getElem _ hlt

theorem not_mem_descendants_of_parent {f : Flavor} {text : String}
    (hparent : (parse f text).parent? i = some p) (hi : i ∉ (parse f text).descendants id) :
    p ∉ (parse f text).descendants id := by
  intro hp
  rw [mem_descendants] at hp hi
  rw [ancestors_of_parent hparent (lt_of_parent hparent)] at hi
  exact hi (List.mem_cons_of_mem p hp)

end Document

namespace Growth

variable {f : Flavor} {text after : String} {id k : Nat} {g : Growth}

theorem Cleared.holds (h : Cleared id k (ofPieces f (pieces f (Document.stripMark text.toList).1)) g) :
    (Document.parse f text).Holds id k :=
  ⟨h.spans.le, Document.mem_descendants_of_spans h.spans⟩

theorem renumber_trace?_congr {d : Document} {i : Nat} {r r' : Nat → Nat}
    (h : ∀ p, d.parent? i = some p → r p = r' p) :
    (d.trace? i).map (Trace.renumber r) = (d.trace? i).map (Trace.renumber r') := by
  rw [Document.trace?]
  cases hn : d.nodes[i]? with
  | none => rfl
  | some n =>
    have hparent : d.parent? i = n.parent := by
      rw [Document.parent?, hn]
      rfl
    have hmap : n.parent.map r = n.parent.map r' := by
      cases hp : n.parent with
      | none => rfl
      | some p => rw [Option.map_some, Option.map_some, h p (hparent.trans hp)]
    simp only [Option.map_some, Trace.renumber, Node.trace, hmap]

theorem renumber_trace?_kept (h : (Document.parse f text).Holds id k) {i : Nat}
    (hi : i ∉ (Document.parse f text).descendants id) :
    ((Document.parse f text).trace? i).map (Trace.renumber (renumber (id + 1) k)) =
      ((Document.parse f text).trace? i).map
        (Trace.renumber ((Document.parse f text).kept id).idxOf) := by
  apply renumber_trace?_congr
  intro p hp
  have hlt := Nat.lt_trans (Document.lt_of_parent hp) (Document.lt_size_of_parent hp)
  rw [h.idxOf_kept hlt (Document.not_mem_descendants_of_parent hp hi)]

theorem renumber_trace?_self :
    ((Document.parse f text).trace? id).map (Trace.renumber (renumber (id + 1) k)) =
      (Document.parse f text).trace? id := by
  have hfront : ∀ p, (Document.parse f text).parent? id = some p →
      renumber (id + 1) k p = p := by
    intro p hp
    exact if_pos (Nat.lt_succ_of_lt (Document.lt_of_parent hp))
  refine (renumber_trace?_congr hfront).trans ?_
  cases (Document.parse f text).trace? id with
  | none => rfl
  | some t => exact congrArg Option.some t.renumber_self

theorem Cleared.emptied
    (h : Cleared id k (ofPieces f (pieces f (Document.stripMark text.toList).1)) g)
    (hnodes : (Document.parse f after).nodes = g.nodes) (hchildren : g.document.children id = []) :
    (Document.parse f text).Emptied (Document.parse f after) id := by
  have hholds := h.holds
  have hlength : (Document.parse f after).size = ((Document.parse f text).kept id).length := by
    have hlen := congrArg List.length h.traces
    rw [List.length_map, length_traces, length_without (by simpa using h.spans.le),
      length_traces] at hlen
    rw [hholds.kept_eq, length_without hholds.le_length, Document.ids, List.length_range,
      Document.size, hnodes, hlen]
    rfl
  have hsame : ∀ j i, ((Document.parse f text).kept id)[j]? = some i →
      (Document.parse f after).trace? j = ((Document.parse f text).trace? i).map
        (Trace.renumber ((Document.parse f text).kept id).idxOf) := by
    intro j i hget
    have hkept := (Document.mem_kept.1 (List.mem_of_getElem? hget)).2
    rw [← renumber_trace?_kept hholds hkept]
    obtain ⟨hplace, -⟩ := hholds.getElem?_kept.1 hget
    rw [Document.trace?, hnodes, ← getElem?_traces, h.traces, List.getElem?_map,
      getElem?_without (by simpa using h.spans.le), hplace, getElem?_traces]
    rfl
  have hsize : id + 1 + k ≤ (Document.parse f text).size := hholds.le
  have hself : ((Document.parse f text).kept id)[id]? = some id := by
    rw [hholds.getElem?_kept]
    exact ⟨if_pos (Nat.lt_succ_self id), by omega⟩
  have hfree := (Document.mem_kept.1 (List.mem_of_getElem? hself)).2
  refine ⟨hlength, hsame, ?_, ?_⟩
  · rw [hsame id id hself, ← renumber_trace?_kept hholds hfree, renumber_trace?_self]
  · have hsame : (Document.parse f after).children id = g.document.children id := by
      unfold Document.children Document.childrenOf Document.ids Document.size Document.parent?
      rw [hnodes, nodes_document]
    rw [hsame, hchildren]

end Growth

namespace Site

variable {f : Flavor} {text : String} (x : Site f (Document.stripMark text.toList).1) {n : Node}
  {e : Element} {edit : Edit} {tail : List Stretch}

theorem applyEdits_cleared (hold : Stretch.oldText tail = x.rest)
    (hedits : Stretch.edits (x.delimiter + byteLength x.tag.closing.source) tail = [edit]) :
    applyEdits text (Edit.shiftPastMark text.toList [edit]) =
      .ok (String.ofList (Stretch.mark text.toList ++ x.rewrite x.tag (Stretch.newText tail))) := by
  have hinside : byteLength (x.front ++ x.tag.source) =
      x.delimiter + byteLength x.tag.closing.source := by
    rw [← x.offset_inside]
    simp [Position.origin]
  have htext : (Document.stripMark text.toList).1 =
      Stretch.oldText (.keep (x.front ++ x.tag.source) :: tail) := by
    refine x.rewrite_tag.symm.trans ?_
    rw [Stretch.oldText_cons, hold]
    simp [rewrite, Stretch.keep]
  have hall : Stretch.edits 0 (.keep (x.front ++ x.tag.source) :: tail) = [edit] := by
    rw [Stretch.edits_keep, Nat.zero_add, hinside, hedits]
  rw [Stretch.applyEdits_stretches htext (by rw [Stretch.Distinct, hall]; simp)
    fun o => by rw [hall], Stretch.newText_cons]
  simp [rewrite, Stretch.keep]

end Site

/-- To clear an element deletes what stands in it, and nothing else. -/
theorem clearContent_empties {f : Flavor} {text : String} {id : Nat} {n : Node} {e : Element}
    (hn : (Document.parse f text).nodes[id]? = some n) (he : n.element? = some e) :
    (Plan.clearContent (Document.parse f text) id = none ↔
        (Document.parse f text).children id = []) ∧
      ∀ edit, Plan.clearContent (Document.parse f text) id = some edit →
        ∃ after, applyEdits text (Edit.shiftPastMark text.toList [edit]) = .ok after ∧
          (Document.parse f text).Emptied (Document.parse f after) id := by
  obtain ⟨x, rfl, hhead⟩ := exists_site_parse hn he
  by_cases hnone : (Document.parse f text).children x.id = []
  · have hclear := Plan.clearContent_of_childless hnone
    refine ⟨iff_of_true hclear hnone, fun edit hedit => ?_⟩
    rw [hclear] at hedit
    cases hedit
  · obtain ⟨tail, hclears⟩ := x.exists_clears hnone
    obtain ⟨k, hcleared⟩ := hclears.cleared
    have hedits := hclears.edits
    have hsome : Plan.clearContent (Document.parse f text) x.id ≠ none := by
      intro hclear
      rw [hclear] at hedits
      exact hclears.deletes hedits
    refine ⟨iff_of_false hsome hnone, fun edit hedit => ?_⟩
    rw [hedit] at hedits
    refine ⟨_, x.applyEdits_cleared hclears.old hedits, ?_⟩
    exact hcleared.emptied (x.nodes_parse_rewrite x.tag (Stretch.newText tail))
      (hclears.empty x.tag rfl rfl x.sound).2

theorem clearContent_empties_unclosed :
    (Document.parse .html "<p><b>x</p>y").children 0 = [1] ∧
      Plan.clearContent (Document.parse .html "<p><b>x</p>y") 0 = some (.delete 3 7) ∧
      (Document.parse .html "<p><b>x</p>y").Emptied (Document.parse .html "<p></p>y") 0 := by
  let e : Element := ⟨"p", [], .bracket, some ⟨⟨7, 1, 8⟩, ⟨11, 1, 12⟩⟩⟩
  let n : Node := ⟨.element e, ⟨⟨0, 1, 1⟩, ⟨3, 1, 4⟩⟩, "<p>", none⟩
  have hn : (Document.parse .html "<p><b>x</p>y").nodes[0]? = some n := by decide +kernel
  have he : n.element? = some e := rfl
  have hedit : Plan.clearContent (Document.parse .html "<p><b>x</p>y") 0 = some (.delete 3 7) := by
    decide +kernel
  have hresult : applyEdits "<p><b>x</p>y" (Edit.shiftPastMark "<p><b>x</p>y".toList
      [.delete 3 7]) = .ok "<p></p>y" := by decide +kernel
  obtain ⟨after, happly, hempty⟩ := (clearContent_empties hn he).2 _ hedit
  obtain rfl := Except.ok.inj (happly.symm.trans hresult)
  exact ⟨by decide +kernel, hedit, hempty⟩

end MarkupSplice
