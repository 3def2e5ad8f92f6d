import MarkupSplice.Proofs.Markup.Gaps
import MarkupSplice.Proofs.Plan.Clearing

/-!
# What clearing leaves

The content of an element is deleted from where its first child begins to where
its last one ends. In front of the one and behind the other there can be end
tags that closed nothing: they make no node, and so they stay between the tags
of the element, and its tags stand side by side exactly when no such end tag was
noted there (`clearContent_remainder`).
-/
namespace MarkupSplice
open Markup Text

theorem Position.Inside.isBoundary {s : List Char} {p : Position} (h : p.Inside s) :
    isBoundary s p.offset = true := by
  obtain ⟨x, ⟨y, hs⟩, rfl⟩ := h
  exact isBoundary_iff.2 ⟨x, y, hs.symm, Position.offset_advance_origin x⟩

theorem applyEdits_nil (text : String) :
    applyEdits text (Edit.shiftPastMark text.toList []) = .ok text := by
  have happly := @Stretch.applyEdits_stretches text [] [.keep (Document.stripMark text.toList).1]
    (by simp [Stretch.keep]) List.Pairwise.nil fun _ => rfl
  rw [happly]
  simp [Stretch.keep, Stretch.mark_append]

theorem applyEdits_delete {text : String} {a b : Nat}
    (ha : isBoundary (Document.stripMark text.toList).1 a = true)
    (hb : isBoundary (Document.stripMark text.toList).1 b = true) (hle : a ≤ b) :
    applyEdits text (Edit.shiftPastMark text.toList [.delete a b]) =
      .ok (String.ofList (Stretch.mark text.toList ++ (upTo (Document.stripMark text.toList).1 a ++
        slice (Document.stripMark text.toList).1 b
          (byteLength (Document.stripMark text.toList).1)))) := by
  generalize hs : (Document.stripMark text.toList).1 = s at ha hb
  have hsplit : upTo s a ++ (slice s a b ++ slice s b (byteLength s)) = s := by
    rw [← List.append_assoc, upTo_append_slice ha hb hle,
      upTo_append_slice hb (isBoundary_length s) (le_of_isBoundary hb), upTo_length]
  have hstop : a + byteLength (slice s a b) = b := by
    have hlength := congrArg byteLength (upTo_append_slice ha hb hle)
    rwa [byteLength_append, byteLength_upTo ha, byteLength_upTo hb] at hlength
  have happly := @Stretch.applyEdits_stretches text [.delete a b]
    [.keep (upTo s a), .replace (slice s a b) [], .keep (slice s b (byteLength s))]
    (by simp [Stretch.keep, Stretch.replace, hs, hsplit])
    (by simp [Stretch.Distinct])
    (fun _ => by simp [byteLength_upTo ha, hstop, Edit.delete])
  rw [happly]
  simp [Stretch.keep, Stretch.replace]

namespace Document

variable {f : Flavor} {text : String} {i : Nat} {n : Node} {e : Element} {r : Range}

theorem flatMap_straysIn_eq_nil {a b : Nat} :
    (straysIn f text a b).flatMap (·.2.source) = [] ↔
      ∀ issue ∈ (parse f text).issues, issue.isStray = true →
        issue.position.isWithin a b = false := by
  have hsource : ∀ t : EndTag, t.source ≠ [] := fun t => by simp [EndTag.source]
  calc (straysIn f text a b).flatMap (·.2.source) = []
    _ ↔ (straysIn f text a b).map (Growth.strayIssue f) = [] := by
      rw [List.flatMap_eq_nil_iff, List.map_eq_nil_iff, List.eq_nil_iff_forall_not_mem]
      exact forall₂_congr fun x _ => iff_of_false (hsource x.2) id
    _ ↔ _ := by
      rw [← issues_straysIn, List.filter_eq_nil_iff]
      simp only [Bool.and_eq_true, not_and', Bool.not_eq_true]

theorem applyEdits_clearContent (hn : (parse f text).nodes[i]? = some n) (he : n.element? = some e)
    (hr : e.endTag = some r) :
    let s := (stripMark text.toList).1
    applyEdits text (Edit.shiftPastMark text.toList (Plan.clearContent (parse f text) i).toList) =
      .ok (String.ofList (Stretch.mark text.toList ++ (upTo s n.range.stop.offset ++
        ((parse f text).gaps i n.range.stop.offset r.start.offset).flatMap
          (fun g => slice s g.1 g.2) ++ slice s r.start.offset (byteLength s)))) := by
  intro s
  have htag : isBoundary s n.range.stop.offset = true :=
    (inside_region (mem_regions hn List.mem_cons_self)).stop.isBoundary
  have hend : isBoundary s r.start.offset = true :=
    (inside_region (mem_regions hn (by simp [Node.regions, he, hr]))).start.isBoundary
  have hback := upTo_append_slice hend (isBoundary_length s) (le_of_isBoundary hend)
  rcases children_cases (parse f text) i with hchildren | ⟨first, last, hfirst, hlast⟩
  · have hbetween := upTo_append_slice htag hend (stop_le_endTag hn he hr)
    rw [Plan.clearContent_of_childless hchildren, gaps_of_childless hchildren,
      List.flatMap_singleton, hbetween, hback, upTo_length, Stretch.mark_append,
      String.ofList_toList]
    exact applyEdits_nil text
  · have hmem := List.mem_of_mem_head? hfirst
    obtain ⟨m, hm⟩ := exists_node_of_lt (lt_size_of_child hmem)
    have hstart : isBoundary s m.range.start.offset = true :=
      (inside_region (mem_regions hm List.mem_cons_self)).start.isBoundary
    have hstop : isBoundary s ((parse f text).outerEnd last).offset = true :=
      (inside_outerEnd f text last).isBoundary
    have hle : m.range.start.offset ≤ ((parse f text).outerEnd last).offset :=
      Nat.le_trans (Nat.le_of_lt (lt_of_node hm))
        (Nat.le_trans (stop_le_outerEnd hm) (child_le_last hlast hmem))
    -- what stays in front of the deletion, and behind it, is cut where the tags end and begin
    have hfront := upTo_append_slice htag hstart (child_behind hn hm hmem)
    have hbehind := slice_append_slice hstop hend (isBoundary_length s)
      (child_le_endTag hn he hr (List.mem_of_getLast? hlast)) (le_of_isBoundary hend)
    rw [Plan.clearContent_parse hfirst hlast hm, gaps_of_children hfirst hlast, extent_eq hm,
      Option.toList_some, applyEdits_delete hstart hstop hle, ← hfront, ← hbehind]
    simp [extent]

/-- Between the tags of an element whose content is deleted only end tags are left that closed
nothing, which were all noted as issues, and nothing is left where there was none. -/
theorem clearContent_remainder (hn : (parse f text).nodes[i]? = some n) (he : n.element? = some e)
    (hr : e.endTag = some r) :
    let d := parse f text
    let s := (stripMark text.toList).1
    let front := Stretch.mark text.toList ++ upTo s n.range.stop.offset
    let back := slice s r.start.offset (byteLength s)
    let gaps := d.gaps i n.range.stop.offset r.start.offset
    ∃ out, applyEdits text (Edit.shiftPastMark text.toList (Plan.clearContent d i).toList) =
        .ok out ∧
      (Plan.clearContent d i = none → out = text) ∧
      out.toList = front ++ gaps.flatMap (fun g => slice s g.1 g.2) ++ back ∧
      (∀ g ∈ gaps, slice s g.1 g.2 = (straysIn f text g.1 g.2).flatMap (·.2.source) ∧
        d.issues.filter (fun issue => issue.position.isWithin g.1 g.2 && issue.isStray) =
          (straysIn f text g.1 g.2).map (Growth.strayIssue f)) ∧
      (out.toList = front ++ back ↔ ∀ g ∈ gaps, ∀ issue ∈ d.issues, issue.isStray = true →
        issue.position.isWithin g.1 g.2 = false) := by
  intro d s front back gaps
  have happly := applyEdits_clearContent hn he hr
  refine ⟨_, happly, fun hnone => ?_, ?_, fun g hg => ⟨slice_gap hn he hr hg, issues_straysIn _ _⟩,
    ?_⟩
  · rw [hnone] at happly
    exact Except.ok.inj (happly.symm.trans (applyEdits_nil text))
  · simp only [String.toList_ofList, List.append_assoc, front, back, gaps, d, s]
  · have hempty : gaps.flatMap (fun g => slice s g.1 g.2) = [] ↔ ∀ g ∈ gaps, ∀ issue ∈ d.issues,
        issue.isStray = true → issue.position.isWithin g.1 g.2 = false := by
      rw [List.flatMap_eq_nil_iff]
      refine forall₂_congr fun g hg => ?_
      rw [slice_gap hn he hr hg, flatMap_straysIn_eq_nil]
    rw [← hempty, String.toList_ofList, ← List.append_assoc, ← List.append_assoc,
      List.append_cancel_right_eq, List.append_right_eq_self]

theorem clearContent_remainder_stray :
    let d := parse .html "<p>a</b></p>"
    ∃ n e r, d.nodes[0]? = some n ∧ n.element? = some e ∧ e.endTag = some r ∧
      d.gaps 0 n.range.stop.offset r.start.offset = [(3, 3), (4, 8)] ∧
      applyEdits "<p>a</b></p>" (Plan.clearContent d 0).toList = .ok "<p></b></p>" := by
  let e : Element := ⟨"p", [], .bracket, some ⟨⟨8, 1, 9⟩, ⟨12, 1, 13⟩⟩⟩
  let n : Node := ⟨.element e, ⟨⟨0, 1, 1⟩, ⟨3, 1, 4⟩⟩, "<p>", none⟩
  have hn : (parse .html "<p>a</b></p>").nodes[0]? = some n := by decide +kernel
  have hgaps : (parse .html "<p>a</b></p>").gaps 0 3 8 = [(3, 3), (4, 8)] := by decide +kernel
  obtain ⟨out, happly, -, hout, -, -⟩ := clearContent_remainder (e := e) hn rfl rfl
  have htext : out = "<p></b></p>" := by
    rw [← String.toList_inj, hout]
    decide +kernel
  refine ⟨n, e, _, hn, rfl, rfl, hgaps, ?_⟩
  rw [← htext, ← happly]
  rfl

end Document
end MarkupSplice
