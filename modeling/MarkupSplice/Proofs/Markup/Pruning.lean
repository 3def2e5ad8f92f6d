import MarkupSplice.Proofs.Markup.Subtree

/-!
# Forests without a subtree

Two forests that grow from the same pieces stay alike but for some nodes that
only one of them has, if none of these is open (`Pruned.foldl`): the other
nodes keep what they say and their order, and are numbered without the gap.
-/
namespace MarkupSplice
open Markup Text

namespace Trace

def close (t : Trace) : Trace := { t with content := (Outline.mk t.parent t.content).close.content }

theorem renumber_close (k : Nat → Nat) (t : Trace) : t.close.renumber k = (t.renumber k).close := by
  obtain ⟨parent, content, source⟩ := t
  cases content <;> rfl

end Trace

section Gaps

variable {α : Type} {as bs : List α} {lo k i : Nat}

def without (lo k : Nat) (as : List α) : List α := as.take lo ++ as.drop (lo + k)

/-- The number of a member when `k` of them from `lo` on are left out. -/
def renumber (lo k i : Nat) : Nat := if i < lo then i else i - k

theorem length_without (h : lo + k ≤ as.length) : (without lo k as).length = as.length - k := by
  simp only [without, List.length_append, List.length_take, List.length_drop]
  omega

theorem getElem?_without (h : lo + k ≤ as.length) (j : Nat) :
    (without lo k as)[j]? = as[if j < lo then j else j + k]? := by
  have hlen : (as.take lo).length = lo := by
    rw [List.length_take]
    omega
  rw [without, List.getElem?_append, hlen]
  split_ifs with hj
  · rw [List.getElem?_take_of_lt hj]
  · rw [List.getElem?_drop]
    congr 1
    omega

theorem without_append (h : lo + k ≤ as.length) (bs : List α) :
    without lo k (as ++ bs) = without lo k as ++ bs := by
  rw [without, List.take_append_of_le_length (by omega), List.drop_append_of_le_length h, without,
    List.append_assoc]

theorem without_modify (h : lo + k ≤ as.length) (hi : i < lo ∨ lo + k ≤ i) (f : α → α) :
    without lo k (as.modify i f) = (without lo k as).modify (renumber lo k i) f := by
  have hplace : ∀ j, i = (if j < lo then j else j + k) ↔ renumber lo k i = j := by
    intro j
    rw [renumber]
    split_ifs <;> omega
  apply List.ext_getElem?
  intro j
  rw [getElem?_without (by simpa using h), List.getElem?_modify, List.getElem?_modify,
    getElem?_without h]
  simp only [hplace]

end Gaps

namespace Growth

variable {g g' : Growth} {lo k : Nat}

def traces (g : Growth) : List Trace := g.nodes.toList.map Node.trace

@[simp] theorem length_traces (g : Growth) : g.traces.length = g.nodes.size := by simp [traces]

theorem getElem?_traces (g : Growth) (i : Nat) : g.traces[i]? = g.nodes[i]?.map Node.trace := by
  rw [traces, List.getElem?_map, Array.getElem?_toList]

theorem trace_setEndTag (r : Range) (n : Node) : (setEndTag r n).trace = n.trace.close := by
  obtain ⟨kind, range, source, parent⟩ := n
  cases kind <;> rfl

def closeTrace? (c : Option Nat) (ts : List Trace) : List Trace :=
  c.elim ts fun i => ts.modify i Trace.close

theorem traces_grow (p : Piece) :
    (g.grow p).traces =
      closeTrace? ((g.closes? p).map OpenElement.id) g.traces ++ (g.added p).map Node.trace := by
  simp only [traces, nodes_grow, List.map_append]
  cases g.closes? p with
  | none => rfl
  | some o =>
    simp only [closeAt, closeTrace?, Option.map_some, Option.elim_some,
      map_modify (trace_setEndTag _)]

/-- Forests that are alike but for `k` nodes from `lo` on, which only the first one has. -/
structure Pruned (lo k : Nat) (g g' : Growth) : Prop where
  flavor : g'.flavor = g.flavor
  opened : g'.opened.map OpenElement.key =
    g.opened.map fun o => (renumber lo k o.id, o.name)
  outside : ∀ o ∈ g.opened, o.id < lo ∨ lo + k ≤ o.id
  size : lo + k ≤ g.nodes.size
  traces : g'.traces = (without lo k g.traces).map (Trace.renumber (renumber lo k))

namespace Pruned

theorem size_eq (h : Pruned lo k g g') : g'.nodes.size = renumber lo k g.nodes.size := by
  have hle := h.size
  have hlen := congrArg List.length h.traces
  rw [List.length_map, length_traces, length_without (by rwa [length_traces]), length_traces] at hlen
  rw [hlen, renumber, if_neg (by omega)]

theorem alike (h : Pruned lo k g g') : Alike (renumber lo k) g g' := ⟨h.flavor, h.size_eq, h.opened⟩

theorem outside_openedBy (h : Pruned lo k g g') (p : Piece) :
    ∀ o ∈ g.openedBy p, o.id < lo ∨ lo + k ≤ o.id := by
  intro o ho
  cases p with
  | startTag t =>
    simp only [Growth.openedBy] at ho
    split at ho
    · rcases List.mem_cons.1 ho with rfl | ho
      · exact Or.inr h.size
      · exact h.outside o ho
    · exact h.outside o ho
  | endTag t =>
    rw [← opened_grow] at ho
    exact h.outside o ((g.opened_endTag_suffix t).subset ho)
  | _ => exact h.outside o ho

theorem closeTraces (h : Pruned lo k g g') (p : Piece) :
    closeTrace? ((g'.closes? p).map OpenElement.id) g'.traces =
      (without lo k (closeTrace? ((g.closes? p).map OpenElement.id) g.traces)).map
        (Trace.renumber (renumber lo k)) := by
  have hsize : lo + k ≤ g.traces.length := by
    rw [length_traces]
    exact h.size
  have hcloses : (g'.closes? p).map OpenElement.id =
      ((g.closes? p).map OpenElement.id).map (renumber lo k) := by
    have hfirst := congrArg (Option.map Prod.fst) (h.alike.closes p)
    simpa [OpenElement.key, Function.comp_def] using hfirst
  rw [hcloses]
  cases hc : g.closes? p with
  | none => exact h.traces
  | some o =>
    have ho : o ∈ g.opened := by
      cases p with
      | endTag t => exact (g.reopened_sublist t).subset (List.mem_of_head? hc)
      | _ => cases hc
    simp only [closeTrace?, Option.map_some, Option.elim_some]
    rw [without_modify hsize (h.outside o ho), map_modify (Trace.renumber_close _), ← h.traces]

theorem grow (h : Pruned lo k g g') (p : Piece) : Pruned lo k (g.grow p) (g'.grow p) := by
  have hsize := size_grow (g := g) p
  have hle := h.size
  constructor
  · rw [flavor_grow, flavor_grow, h.flavor]
  · rw [opened_grow, opened_grow]
    exact h.alike.openedBy p
  · rw [opened_grow]
    exact h.outside_openedBy p
  · omega
  · have hlen : lo + k ≤ (closeTrace? ((g.closes? p).map OpenElement.id) g.traces).length := by
      cases g.closes? p <;> simpa [closeTrace?] using hle
    rw [traces_grow, traces_grow, h.alike.added, h.closeTraces, without_append hlen, List.map_append]

theorem foldl (h : Pruned lo k g g') (ps : List Piece) :
    Pruned lo k (ps.foldl Growth.grow g) (ps.foldl Growth.grow g') := by
  induction ps generalizing g g' with
  | nil => exact h
  | cons p ps ih => exact ih (h.grow p)

end Pruned
end Growth
end MarkupSplice
