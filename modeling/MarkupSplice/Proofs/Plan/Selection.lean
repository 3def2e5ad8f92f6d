import MarkupSplice.Proofs.Fallible
import MarkupSplice.Proofs.Plan.Clearing
import MarkupSplice.Proofs.Plan.Region

/-!
# Edits of several elements

Elements of which none stands in another are edited together without a conflict,
in whatever order they are selected (`schedule_of_independent`). When one stands
in another, the content of the outer one is deleted, and every edit of the inner
one is in conflict with that, unless it is an insertion at the very end of the
text, where the deletion ends (`conflict_of_nested_iff`).
-/
namespace MarkupSplice
open Markup Text

variable {f : Flavor} {text value : String} {o : PlanOptions} {names : List String}

theorem Plan.compatible_of_independent {i j : Nat} {p q : Edit}
    (hp : p.Fits (Document.stripMark text.toList).1 ∧ Plan.Placed (Document.parse f text) i p)
    (hq : q.Fits (Document.stripMark text.toList).1 ∧ Plan.Placed (Document.parse f text) j q)
    (hne : i ≠ j) (hi : i ∉ (Document.parse f text).ancestors j)
    (hj : j ∉ (Document.parse f text).ancestors i) : Edit.Compatible p q := by
  have hpo := hp.1.ordered
  have hqo := hq.1.ordered
  rcases Nat.lt_or_gt_of_ne hne with hlt | hlt
  · have hbefore := hp.2.owns.before hq.2.owns hlt hi
    exact Or.inr (Or.inr (Or.inl ⟨by omega, by omega⟩))
  · have hbefore := hq.2.owns.before hp.2.owns hlt hj
    exact Or.inr (Or.inr (Or.inr ⟨by omega, by omega⟩))

/-- Edits for elements of which none stands in another are planned, valid and accepted. -/
theorem schedule_of_independent {ids : List Nat}
    (h : ∀ a ∈ ids, ∀ b ∈ ids, a ∉ (Document.parse f text).ancestors b) :
    ∃ plans, ids.mapM (fun id => Plan.element o (Document.parse f text) id names value) =
        .ok plans ∧
      (∀ edit ∈ Edit.shiftPastMark text.toList plans.flatten,
        edit.validate text.toList = .ok ()) ∧
      ∃ scheduled, Edit.schedule text.toList (Edit.shiftPastMark text.toList plans.flatten) =
        .ok scheduled := by
  choose edits hedits hclear hplaced hcompatible using fun id =>
    Plan.exists_element f o text id names value
  obtain ⟨plans, hplans⟩ : ∃ plans,
      ids.mapM (fun id => Plan.element o (Document.parse f text) id names value) = .ok plans :=
    exists_mapM fun id _ => ⟨edits id, hedits id⟩
  have hmem : ∀ edit ∈ plans.flatten, ∃ id ∈ ids, edit ∈ edits id := by
    intro edit hedit
    obtain ⟨id, hid, es, hes, hmem⟩ := mem_of_mapM hplans hedit
    obtain rfl := Except.ok.inj (hes.symm.trans (hedits id))
    exact ⟨id, hid, hmem⟩
  have hfits : ∀ edit ∈ plans.flatten, edit.Fits (Document.stripMark text.toList).1 := by
    intro edit hedit
    obtain ⟨id, -, hmem⟩ := hmem edit hedit
    exact (hplaced id edit hmem).1
  refine ⟨plans, hplans, ?_, Edit.exists_schedule_shiftPastMark hfits ?_⟩
  · exact fun edit hedit => Edit.validate_eq_ok.2 (Edit.fits_shiftPastMark hfits edit hedit)
  · intro p hp q hq
    obtain ⟨i, hi, hp⟩ := hmem p hp
    obtain ⟨j, hj, hq⟩ := hmem q hq
    by_cases hij : i = j
    · subst hij
      exact hcompatible i p hp q hq
    · exact Plan.compatible_of_independent (hplaced i p hp) (hplaced j q hq) hij (h i hi j hj)
        (h j hj i hi)

theorem ancestors_siblings : (Document.parse .html "<p><b>x</b><i>").ancestors 1 = [0] ∧
    (Document.parse .html "<p><b>x</b><i>").ancestors 3 = [0] := by
  have hroot : (Document.parse .html "<p><b>x</b><i>").ancestors 0 = [] :=
    Document.ancestors_of_root (by decide +kernel)
  constructor
  · rw [Document.ancestors_of_parent (p := 0) (by decide +kernel) (by decide), hroot]
  · rw [Document.ancestors_of_parent (p := 0) (by decide +kernel) (by decide), hroot]

theorem schedule_of_independent_siblings :
    ∃ plans, [3, 1].mapM (fun id => Plan.element ⟨.html, .preserve⟩
        (Document.parse .html "<p><b>x</b><i>") id ["src"] "v") = .ok plans ∧
      (∀ edit ∈ Edit.shiftPastMark "<p><b>x</b><i>".toList plans.flatten,
        edit.validate "<p><b>x</b><i>".toList = .ok ()) ∧
      ∃ scheduled, Edit.schedule "<p><b>x</b><i>".toList
        (Edit.shiftPastMark "<p><b>x</b><i>".toList plans.flatten) = .ok scheduled :=
  schedule_of_independent (by simp [ancestors_siblings])

namespace Plan

variable {a b : Nat} {p q clear : Edit}

theorem exists_clearContent (hab : a ∈ (Document.parse f text).ancestors b) :
    ∃ clear, clearContent (Document.parse f text) a = some clear := by
  obtain ⟨c, hc, -⟩ := Document.exists_child_of_mem_ancestors hab
  have hne := List.ne_nil_of_mem hc
  have hfirst := List.head?_eq_some_head hne
  obtain ⟨m, hm⟩ := Document.exists_node_of_lt
    (Document.lt_size_of_child (List.mem_of_mem_head? hfirst))
  exact ⟨_, clearContent_parse hfirst (List.getLast?_eq_some_getLast hne) hm⟩

theorem end_of_compatible (hab : a ∈ (Document.parse f text).ancestors b)
    (hclear : clearContent (Document.parse f text) a = some clear)
    (hq : q.Fits (Document.stripMark text.toList).1 ∧ Placed (Document.parse f text) b q)
    (h : Edit.Compatible clear q) : q.start = byteLength (Document.stripMark text.toList).1 := by
  obtain ⟨first, last, m, hfirst, hlast, hm, hlt, rfl⟩ := clearContent_eq_some hclear
  obtain ⟨hfits, hplaced⟩ := hq
  obtain ⟨k, hk, hstart, -⟩ := hplaced.owns.bounds
  have hfront := Document.first_le_start hfirst hm hab hk
  have hend := Document.outerEnd_le_last hlast hab
  have hordered := hfits.ordered
  have hstop : ((Document.parse f text).outerEnd last).offset ≤ q.start := by
    rcases h with rfl | ⟨-, -, heq⟩ | ⟨-, hle⟩ | ⟨hgt, -⟩
    · simp only [Edit.delete] at hstart
      omega
    · simp only [Edit.delete] at heq
      omega
    · exact hle
    · simp only [Edit.delete] at hgt
      omega
  -- only a start tag that is cut off ends where an insertion in it can stand
  cases hplaced with
  | tag n e node element name closing =>
    have hstop' := Document.stop_le_outerEnd node
    rcases delimiter_cases node element with hlt | ⟨heq, htext⟩ <;> omega
  | content first' last' m' head getLast node start stop nonempty =>
    have hchild := Document.child_le_outerEnd (List.mem_of_getLast? getLast)
    omega

theorem compatible_at_end (hab : a ∈ (Document.parse f text).ancestors b)
    (hp : p.Fits (Document.stripMark text.toList).1 ∧ Placed (Document.parse f text) a p)
    (hq : Placed (Document.parse f text) b q)
    (h : q.start = byteLength (Document.stripMark text.toList).1) : Edit.Compatible p q := by
  obtain ⟨hfits, hplaced⟩ := hp
  obtain ⟨m, hm, hstart, -⟩ := hq.owns.bounds
  have hordered := hfits.ordered
  have hinside := hfits.inside
  refine Or.inr (Or.inr (Or.inl ⟨?_, h ▸ hinside⟩))
  cases hplaced with
  | tag n e node element name closing =>
    have hbehind := Document.stop_le_start node hm (Document.lt_of_mem_ancestors hab)
    rcases delimiter_cases node element with hlt | ⟨heq, -⟩ <;> omega
  | content first last m head getLast node start stop nonempty => omega

end Plan

/-- Edits for an element and for one that stands in it are in conflict, unless all edits for the
inner one are insertions at the end of the text. -/
theorem conflict_of_nested_iff {a b : Nat} (hab : a ∈ (Document.parse f text).ancestors b)
    (o o' : PlanOptions) (names names' : List String) (value value' : String) :
    ∃ outer inner, Plan.element o (Document.parse f text) a names value = .ok outer ∧
      Plan.element o' (Document.parse f text) b names' value' = .ok inner ∧
      ∀ es : List Edit, es.Perm (outer ++ inner) →
        ((∃ p q, Edit.schedule text.toList (Edit.shiftPastMark text.toList es) =
            .error (.conflict p q)) ↔
          ∃ edit ∈ inner, edit.start ≠ byteLength (Document.stripMark text.toList).1) := by
  obtain ⟨outer, houter, hclears, hplaced, hcompatible⟩ :=
    Plan.exists_element f o text a names value
  obtain ⟨inner, hinner, -, hplaced', hcompatible'⟩ :=
    Plan.exists_element f o' text b names' value'
  obtain ⟨clear, hclear⟩ := Plan.exists_clearContent hab
  refine ⟨outer, inner, houter, hinner, fun es hperm => ?_⟩
  have hfits : ∀ edit ∈ es, edit.Fits (Document.stripMark text.toList).1 := by
    intro edit hedit
    rcases List.mem_append.1 (hperm.subset hedit) with hedit | hedit
    · exact (hplaced edit hedit).1
    · exact (hplaced' edit hedit).1
  rw [Edit.conflict_shiftPastMark_iff hfits]
  simp only [hperm.mem_iff, List.mem_append]
  constructor
  · rintro ⟨p, hp, q, hq, hnot⟩
    by_contra hall
    push Not at hall
    have hmixed : ∀ p ∈ outer, ∀ q ∈ inner, Edit.Compatible p q := fun p hp q hq =>
      Plan.compatible_at_end hab (hplaced p hp) (hplaced' q hq).2 (hall q hq)
    rcases hp with hp | hp <;> rcases hq with hq | hq
    · exact hnot (hcompatible p hp q hq)
    · exact hnot (hmixed p hp q hq)
    · exact hnot (hmixed q hq p hp).symm
    · exact hnot (hcompatible' p hp q hq)
  · rintro ⟨edit, hedit, hne⟩
    exact ⟨clear, Or.inl (hclears clear hclear), edit, Or.inr hedit,
      fun h => hne (Plan.end_of_compatible hab hclear (hplaced' edit hedit) h)⟩

theorem conflict_of_nested_iff_cutOff :
    ∃ outer inner, Plan.element ⟨.html, .preserve⟩ (Document.parse .html "<a><b") 0 ["src"] "v" =
        .ok outer ∧
      Plan.element ⟨.html, .preserve⟩ (Document.parse .html "<a><b") 1 ["src"] "v" = .ok inner ∧
      inner ≠ [] ∧ ¬∃ p q, Edit.schedule "<a><b".toList
        (Edit.shiftPastMark "<a><b".toList (outer ++ inner)) = .error (.conflict p q) := by
  have hab : 0 ∈ (Document.parse .html "<a><b").ancestors 1 := by
    rw [Document.ancestors_of_parent (p := 0) (by decide +kernel) (by decide)]
    exact List.mem_cons_self
  have hplan : Plan.element ⟨.html, .preserve⟩ (Document.parse .html "<a><b") 1 ["src"] "v" =
      .ok [.insert 5 " src=\"v\""] := by decide +kernel
  obtain ⟨outer, inner, houter, hinner, hconflict⟩ :=
    conflict_of_nested_iff hab ⟨.html, .preserve⟩ ⟨.html, .preserve⟩ ["src"] ["src"] "v" "v"
  obtain rfl := Except.ok.inj (hplan.symm.trans hinner)
  refine ⟨outer, _, houter, hinner, List.cons_ne_nil _ _, ?_⟩
  rw [hconflict _ (List.Perm.refl _)]
  decide

end MarkupSplice
