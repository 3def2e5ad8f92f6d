import MarkupSplice.Proofs.Plan.Selection

/-!
# Edits stay in their elements

Edits that are made for some elements replace nothing but stretches of their own
regions, and all else in the text stays as it was and where it was
(`exists_stretches_of_plans`). So nodes that do not stand in an element that is
edited keep their source, and an element that is edited keeps its name, its
closing and its end tag.
-/
namespace MarkupSplice
open Markup Text

def Document.keptParts (d : Document) (ids : List Nat) (id : Nat) : List (Nat × Nat) :=
  match d.nodes[id]? with
  | none => []
  | some n =>
    match n.element? with
    | none => [(n.range.start.offset, n.range.stop.offset)]
    | some e =>
      (if id ∈ ids then
        [(n.range.start.offset, n.nameEnd e), (n.delimiterOffset e, n.range.stop.offset)]
      else [(n.range.start.offset, n.range.stop.offset)]) ++
        e.endTag.toList.map fun r => (r.start.offset, r.stop.offset)

/-- Whether an edit leaves a part of a text as it is. -/
def Edit.Spares (edit : Edit) (part : Nat × Nat) : Prop :=
  part.2 ≤ edit.start ∨ edit.stop ≤ part.1

theorem Edit.Spares.mono {edit : Edit} {part inner : Nat × Nat} (h : edit.Spares part)
    (hstart : part.1 ≤ inner.1) (hstop : inner.2 ≤ part.2) : edit.Spares inner :=
  h.imp (Nat.le_trans hstop) fun hle => Nat.le_trans hle hstart

theorem Edit.spares_congr {a b : Edit} (h : a.interval = b.interval) (part : Nat × Nat) :
    a.Spares part ↔ b.Spares part := by
  obtain ⟨hstart, hstop⟩ := Prod.mk.inj h
  rw [Spares, Spares, hstart, hstop]

theorem Document.owns_congr {d : Document} {id : Nat} {a b : Edit}
    (h : a.interval = b.interval) : d.Owns id a ↔ d.Owns id b := by
  obtain ⟨hstart, hstop⟩ := Prod.mk.inj h
  rw [Owns, Owns, hstart, hstop]

namespace Plan

variable {f : Flavor} {text : String} {ids : List Nat} {i j : Nat} {n : Node} {e : Element}
  {edit : Edit}

theorem nameEnd_le_delimiter (hn : (Document.parse f text).nodes[i]? = some n)
    (he : n.element? = some e) : n.nameEnd e ≤ n.delimiterOffset e := by
  obtain ⟨x, rfl, hhead⟩ := exists_site_parse hn he
  rw [x.nameEnd_eq hhead he, x.delimiterOffset_eq hhead he, Site.delimiter]
  simp only [byteLength_append]
  omega

theorem spares_range (howns : (Document.parse f text).Owns i edit) (hne : i ≠ j)
    (hi : i ∉ (Document.parse f text).ancestors j)
    (hn : (Document.parse f text).nodes[j]? = some n) :
    edit.Spares (n.range.start.offset, n.range.stop.offset) := by
  obtain ⟨m, hm, hstart, hstop⟩ := howns.bounds
  rcases Nat.lt_or_gt_of_ne hne with hij | hji
  · exact Or.inr (Nat.le_trans hstop (Document.outerEnd_le_start hn hij hi))
  · have hbehind := Document.stop_le_start hn hm hji
    exact Or.inl (Nat.le_trans hbehind (Nat.le_of_lt hstart))

theorem spares_endTag (howns : (Document.parse f text).Owns i edit) (hne : i ≠ j)
    (hi : i ∉ (Document.parse f text).ancestors j)
    (hn : (Document.parse f text).nodes[j]? = some n) (he : n.element? = some e) {r : Range}
    (hr : e.endTag = some r) : edit.Spares (r.start.offset, r.stop.offset) := by
  obtain ⟨m, hm, hstart, hstop⟩ := howns.bounds
  rcases Nat.lt_or_gt_of_ne hne with hij | hji
  · have hfront := Document.outerEnd_le_start hn hij hi
    have htag := Document.lt_of_node hn
    have hend := Document.stop_le_endTag hn he hr
    exact Or.inr (by dsimp only; omega)
  · by_cases hj : j ∈ (Document.parse f text).ancestors i
    · exact Or.inr (Nat.le_trans hstop (Document.outerEnd_le_endTag hn he hr hj))
    · have hend := Document.endTag_le_outerEnd hn he hr
      have hbehind := Document.outerEnd_le_start hm hji hj
      exact Or.inl (by dsimp only; omega)

variable (h : Placed (Document.parse f text) i edit)
include h

theorem Placed.spares_name (hn : (Document.parse f text).nodes[i]? = some n)
    (he : n.element? = some e) : edit.Spares (n.range.start.offset, n.nameEnd e) := by
  left
  cases h with
  | tag n' e' node element name closing =>
    obtain rfl := Option.some.inj (hn.symm.trans node)
    obtain rfl := Option.some.inj (he.symm.trans element)
    exact name
  | content first last m head getLast node start stop nonempty =>
    have hname := nameEnd_le_delimiter hn he
    have hclosing := delimiter_cases hn he
    have hchild := Document.child_behind hn node (List.mem_of_mem_head? head)
    dsimp only
    omega

theorem Placed.spares_closing (hn : (Document.parse f text).nodes[i]? = some n)
    (he : n.element? = some e) :
    edit.Spares (n.delimiterOffset e, n.range.stop.offset) := by
  cases h with
  | tag n' e' node element name closing =>
    obtain rfl := Option.some.inj (hn.symm.trans node)
    obtain rfl := Option.some.inj (he.symm.trans element)
    exact Or.inr closing
  | content first last m head getLast node start stop nonempty =>
    have hchild := Document.child_behind hn node (List.mem_of_mem_head? head)
    exact Or.inl (start ▸ hchild)

theorem Placed.spares_endTag (hn : (Document.parse f text).nodes[i]? = some n)
    (he : n.element? = some e) {r : Range} (hr : e.endTag = some r) :
    edit.Spares (r.start.offset, r.stop.offset) := by
  right
  cases h with
  | tag n' e' node element name closing =>
    obtain rfl := Option.some.inj (hn.symm.trans node)
    obtain rfl := Option.some.inj (he.symm.trans element)
    have hclosing := delimiter_cases hn he
    have hend := Document.stop_le_endTag hn he hr
    dsimp only
    omega
  | content first last m head getLast node start stop nonempty =>
    exact stop ▸ Document.child_le_endTag hn he hr (List.mem_of_getLast? getLast)

theorem Placed.spares (hids : i ∈ ids) (hi : i ∉ (Document.parse f text).ancestors j)
    {part : Nat × Nat} (hpart : part ∈ (Document.parse f text).keptParts ids j) :
    edit.Spares part := by
  rw [Document.keptParts] at hpart
  split at hpart
  · cases hpart
  · rename_i n hn
    split at hpart
    · -- what is no element is never edited
      rename_i hnone
      obtain rfl := List.mem_singleton.1 hpart
      refine spares_range h.owns ?_ hi hn
      rintro rfl
      obtain ⟨r, hr, -⟩ := h.owns
      rw [Document.ownRegions, Document.element?, hn, Option.bind_some, hnone] at hr
      cases hr
    · rename_i e he
      by_cases hij : i = j
      · subst hij
        rw [if_pos hids] at hpart
        rcases List.mem_append.1 hpart with hpart | hpart
        · rcases List.mem_pair.1 hpart with rfl | rfl
          · exact h.spares_name hn he
          · exact h.spares_closing hn he
        · obtain ⟨r, hr, rfl⟩ := List.mem_map.1 hpart
          exact h.spares_endTag hn he (Option.mem_toList.1 hr)
      · rcases List.mem_append.1 hpart with hpart | hpart
        · have hrange := spares_range h.owns hij hi hn
          have hname := nameEnd_le_delimiter hn he
          have hclosing := delimiter_cases hn he
          split at hpart
          · rcases List.mem_pair.1 hpart with rfl | rfl
            · exact hrange.mono (Nat.le_refl _) (by dsimp only; omega)
            · refine hrange.mono ?_ (Nat.le_refl _)
              exact Nat.le_trans (Nat.le_add_right _ _) hname
          · obtain rfl := List.mem_singleton.1 hpart
            exact hrange
        · obtain ⟨r, hr, rfl⟩ := List.mem_map.1 hpart
          exact Plan.spares_endTag h.owns hij hi hn he (Option.mem_toList.1 hr)

end Plan

variable {f : Flavor} {o : PlanOptions} {text value out : String} {names : List String}
  {ids : List Nat} {plans : List (List Edit)}

/-- Edits of elements replace stretches of their own regions, and none of what is to be kept of a
node that stands in no other of these elements. -/
theorem exists_stretches_of_plans
    (hplans : ids.mapM (fun id => Plan.element o (Document.parse f text) id names value) =
      .ok plans)
    (happly : applyEdits text (Edit.shiftPastMark text.toList plans.flatten) = .ok out) :
    ∃ xs, (Document.stripMark text.toList).1 = Stretch.oldText xs ∧
      out.toList = Stretch.mark text.toList ++ Stretch.newText xs ∧
      (∀ edit ∈ Stretch.edits 0 xs, ∃ id ∈ ids, (Document.parse f text).Owns id edit) ∧
      ∀ j, (∀ id ∈ ids, id ∉ (Document.parse f text).ancestors j) →
        ∀ part ∈ (Document.parse f text).keptParts ids j, ∀ edit ∈ Stretch.edits 0 xs,
          edit.Spares part := by
  obtain ⟨xs, hold, hnew, hedits⟩ := Edit.exists_stretches_of_applyEdits happly
  have hplaced : ∀ edit ∈ Stretch.edits 0 xs, ∃ id ∈ ids, ∃ planned,
      edit.interval = planned.interval ∧ Plan.Placed (Document.parse f text) id planned := by
    intro edit hedit
    obtain ⟨planned, hplanned, hinterval⟩ := hedits edit hedit
    obtain ⟨id, hid, es, hes, hmem⟩ := mem_of_mapM hplans hplanned
    obtain ⟨es', hes', -, hplaced, -⟩ := Plan.exists_element f o text id names value
    obtain rfl := Except.ok.inj (hes.symm.trans hes')
    exact ⟨id, hid, planned, hinterval, (hplaced planned hmem).2⟩
  refine ⟨xs, hold, hnew, ?_, ?_⟩
  · intro edit hedit
    obtain ⟨id, hid, planned, hinterval, hplaced⟩ := hplaced edit hedit
    exact ⟨id, hid, (Document.owns_congr hinterval).2 hplaced.owns⟩
  · intro j hj part hpart edit hedit
    obtain ⟨id, hid, planned, hinterval, hplaced⟩ := hplaced edit hedit
    exact (Edit.spares_congr hinterval part).2 (hplaced.spares hid (hj id hid) hpart)

theorem exists_stretches_of_plans_siblings :
    ∃ xs, (Document.stripMark "<p><b>x</b><i>".toList).1 = Stretch.oldText xs ∧
      "<p><b src=\"v\"></b><i src=\"v\">".toList =
        Stretch.mark "<p><b>x</b><i>".toList ++ Stretch.newText xs ∧
      (∀ edit ∈ Stretch.edits 0 xs,
        ∃ id ∈ [1, 3], (Document.parse .html "<p><b>x</b><i>").Owns id edit) ∧
      ∀ j, (∀ id ∈ [1, 3], id ∉ (Document.parse .html "<p><b>x</b><i>").ancestors j) →
        ∀ part ∈ (Document.parse .html "<p><b>x</b><i>").keptParts [1, 3] j,
          ∀ edit ∈ Stretch.edits 0 xs, edit.Spares part := by
  have hplans : [1, 3].mapM (fun id => Plan.element ⟨.html, .preserve⟩
      (Document.parse .html "<p><b>x</b><i>") id ["src"] "v") =
        .ok [[.insert 5 " src=\"v\"", .delete 6 7], [.insert 13 " src=\"v\""]] := by
    decide +kernel
  exact exists_stretches_of_plans hplans (by decide +kernel)

end MarkupSplice
