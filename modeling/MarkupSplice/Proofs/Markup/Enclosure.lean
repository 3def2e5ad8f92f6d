import MarkupSplice.Proofs.Markup.Subtree

/-!
# Extents

A node with its content and its end tag takes up an extent of the text. The
extents of siblings lie one behind another, those of children behind the start
tag and in front of the end tag of their parent, and an extent ends where the
last of all that stands in the node does (`extents_parse`).
-/
namespace MarkupSplice
open Markup Text

def Range.Before (a b : Range) : Prop := a.stop.offset ≤ b.start.offset

namespace Document

/-- All that a node takes up in the text, with its content and its end tag. -/
def extent (d : Document) (id : Nat) : Range :=
  ⟨(d.nodes[id]?).elim .origin fun n => n.range.start, d.outerEnd id⟩

def regionsAt (d : Document) (id : Nat) : List Range := (d.nodes[id]?).elim [] Node.regions

def regionsIn (d : Document) (id : Nat) : List Range :=
  (id :: d.descendants id).flatMap d.regionsAt

theorem extent_eq {d : Document} {i : Nat} {n : Node} (hn : d.nodes[i]? = some n) :
    d.extent i = ⟨n.range.start, d.outerEnd i⟩ := by
  rw [extent, hn]
  rfl

theorem mem_regionsIn {d : Document} {i : Nat} {r : Range} :
    r ∈ d.regionsIn i ↔
      ∃ j ∈ i :: d.descendants i, ∃ n, d.nodes[j]? = some n ∧ r ∈ n.regions := by
  rw [regionsIn, List.mem_flatMap]
  refine exists_congr fun j => and_congr_right fun _ => ?_
  rw [regionsAt]
  cases d.nodes[j]? <;> simp

section Parsed

variable {f : Flavor} {text : String} {i j : Nat} {n : Node} {r : Range}

theorem extent_before (hij : i < j) (hj : j < (parse f text).size)
    (hi : i ∉ (parse f text).ancestors j) :
    ((parse f text).extent i).Before ((parse f text).extent j) := by
  obtain ⟨m, hm⟩ := exists_node_of_lt hj
  rw [Range.Before, extent_eq hm]
  exact outerEnd_le_start hm hij hi

theorem extents_before {ids : List Nat} (hsorted : ids.Pairwise (· < ·))
    (hsize : ∀ c ∈ ids, c < (parse f text).size)
    (hapart : ∀ c ∈ ids, ∀ c' ∈ ids, c ∉ (parse f text).ancestors c') :
    ids.Pairwise fun a b => ((parse f text).extent a).Before ((parse f text).extent b) :=
  hsorted.imp_of_mem fun ha hb hlt => extent_before hlt (hsize _ hb) (hapart _ ha _ hb)

theorem children_before (i : Nat) :
    ((parse f text).children i).Pairwise fun a b =>
      ((parse f text).extent a).Before ((parse f text).extent b) :=
  extents_before (children_sorted _ i) (fun _ hc => lt_size_of_child hc)
    fun _ hc _ hc' => not_mem_ancestors_of_child hc hc'

theorem roots_before :
    (parse f text).roots.Pairwise fun a b =>
      ((parse f text).extent a).Before ((parse f text).extent b) := by
  refine extents_before (childrenOf_sorted _ none) (fun _ hr => (mem_childrenOf.1 hr).1) ?_
  intro r _ r' hr'
  rw [ancestors_of_root (mem_childrenOf.1 hr').2]
  exact List.not_mem_nil

theorem startTag_before (hn : (parse f text).nodes[i]? = some n) {c : Nat}
    (hc : c ∈ (parse f text).children i) : n.range.Before ((parse f text).extent c) := by
  obtain ⟨m, hm⟩ := exists_node_of_lt (lt_size_of_child hc)
  rw [Range.Before, extent_eq hm]
  exact child_behind hn hm hc

theorem mem_regionsIn_self (hn : (parse f text).nodes[i]? = some n) (hr : r ∈ n.regions) :
    r ∈ (parse f text).regionsIn i :=
  mem_regionsIn.2 ⟨i, List.mem_cons_self, n, hn, hr⟩

theorem regionsIn_child {c : Nat} (hc : c ∈ (parse f text).children i)
    (hr : r ∈ (parse f text).regionsIn c) : r ∈ (parse f text).regionsIn i := by
  obtain ⟨j, hj, n, hn, hmem⟩ := mem_regionsIn.1 hr
  refine mem_regionsIn.2 ⟨j, List.mem_cons_of_mem _ ?_, n, hn, hmem⟩
  rw [descendants_eq]
  exact List.mem_flatMap.2 ⟨c, hc, hj⟩

theorem exists_stop_eq (hn : (parse f text).nodes[i]? = some n) :
    ∃ r ∈ (parse f text).regionsIn i, r.stop = (parse f text).outerEnd i := by
  generalize hd : parse f text = d at hn
  -- only the last child is followed, and only where no end tag says where the element ends
  fun_induction outerEnd d i generalizing n with
  | case1 i hnone =>
    rw [hnone] at hn
    cases hn
  | case2 i m hm =>
    subst hd
    exact ⟨_, mem_regionsIn_self hm List.mem_cons_self, rfl⟩
  | case3 i m hm e he r hr =>
    subst hd
    refine ⟨r, mem_regionsIn_self hm ?_, rfl⟩
    unfold Node.endRange at hr
    split at hr
    · obtain rfl := Option.some.inj hr
      exact List.mem_cons_self
    · simp [Node.regions, he, hr]
  | case4 i m hm =>
    subst hd
    exact ⟨_, mem_regionsIn_self hm List.mem_cons_self, rfl⟩
  | case5 i m hm e he hr last hlast hlt ih =>
    subst hd
    obtain ⟨k, hk⟩ := exists_node_of_lt hlt.2
    obtain ⟨r, hmem, hstop⟩ := ih hk
    exact ⟨r, regionsIn_child (List.mem_of_getLast? hlast) hmem, hstop⟩
  | case6 i m hm =>
    subst hd
    exact ⟨_, mem_regionsIn_self hm List.mem_cons_self, rfl⟩

theorem stop_le_of_mem_regionsIn (hr : r ∈ (parse f text).regionsIn i) :
    r.stop.offset ≤ ((parse f text).outerEnd i).offset := by
  obtain ⟨j, hj, m, hm, hmem⟩ := mem_regionsIn.1 hr
  have hown : r.stop.offset ≤ ((parse f text).outerEnd j).offset := by
    rcases List.mem_cons.1 hmem with rfl | hend
    · exact stop_le_outerEnd hm
    · obtain ⟨e, he, hr'⟩ := Option.bind_eq_some_iff.1 (Option.mem_toList.1 hend)
      exact endTag_le_outerEnd hm he hr'
  rcases List.mem_cons.1 hj with rfl | hwithin
  · exact hown
  · exact Nat.le_trans hown (outerEnd_le_ancestor (mem_descendants.1 hwithin))

end Parsed

/-- How the extents of the nodes of a document lie in one another. -/
theorem extents_parse (f : Flavor) (text : String) :
    let d := parse f text
    (d.roots.Pairwise fun a b => (d.extent a).Before (d.extent b)) ∧
    ∀ i n, d.nodes[i]? = some n →
      d.extent i = ⟨n.range.start, d.outerEnd i⟩ ∧
      n.range.start.offset < (d.outerEnd i).offset ∧
      (∃ r ∈ d.regionsIn i, r.stop = d.outerEnd i) ∧
      (∀ r ∈ d.regionsIn i, r.stop.offset ≤ (d.outerEnd i).offset) ∧
      ((d.children i).Pairwise fun a b => (d.extent a).Before (d.extent b)) ∧
      (∀ c ∈ d.children i, n.range.Before (d.extent c)) ∧
      ∀ e r, n.element? = some e → e.endTag = some r →
        n.range.Before r ∧ (∀ c ∈ d.children i, (d.extent c).Before r) ∧
          r.start.offset ≤ (d.outerEnd i).offset := by
  intro d
  refine ⟨roots_before, fun i n hn => ?_⟩
  have hstart : n.range.start.offset < (d.outerEnd i).offset :=
    Nat.lt_of_lt_of_le (lt_of_node hn) (stop_le_outerEnd hn)
  refine ⟨extent_eq hn, hstart, exists_stop_eq hn, fun r hr => stop_le_of_mem_regionsIn hr,
    children_before i, fun c hc => startTag_before hn hc, fun e r he hr => ?_⟩
  have hend : r.start.offset ≤ (d.outerEnd i).offset :=
    Nat.le_trans (Nat.le_of_lt (lt_of_endTag hn he hr)) (endTag_le_outerEnd hn he hr)
  exact ⟨stop_le_endTag hn he hr, fun c hc => child_le_endTag hn he hr hc, hend⟩

theorem extents_parse_unclosed :
    let d := parse .html "<p><b>x</p>y"
    d.children 0 = [1] ∧ ∃ n e r, d.nodes[0]? = some n ∧ n.element? = some e ∧
      e.endTag = some r ∧ n.range.Before (d.extent 1) ∧ (d.extent 1).Before r := by
  let e : Element := ⟨"p", [], .bracket, some ⟨⟨7, 1, 8⟩, ⟨11, 1, 12⟩⟩⟩
  let n : Node := ⟨.element e, ⟨⟨0, 1, 1⟩, ⟨3, 1, 4⟩⟩, "<p>", none⟩
  have hn : (parse .html "<p><b>x</p>y").nodes[0]? = some n := by decide +kernel
  have hchildren : (parse .html "<p><b>x</p>y").children 0 = [1] := by decide +kernel
  have hchild : 1 ∈ (parse .html "<p><b>x</p>y").children 0 := hchildren ▸ List.mem_cons_self
  obtain ⟨-, -, -, -, -, hstart, hend⟩ := (extents_parse .html "<p><b>x</p>y").2 0 n hn
  exact ⟨hchildren, n, e, _, hn, rfl, rfl, hstart 1 hchild, (hend e _ rfl rfl).2.1 1 hchild⟩

end Document
end MarkupSplice
