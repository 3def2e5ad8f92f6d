import MarkupSplice.Proofs.Edit.Shift
import MarkupSplice.Proofs.Markup.Extent
import MarkupSplice.Proofs.Plan.Several

/-!
# Where edits are planned

All edits that are planned for an element lie behind its name in its start tag,
in front of the closing, or cover all that its children do. They fit the text
and go together, whatever names they are planned for (`Plan.exists_element`).
-/
namespace MarkupSplice
open Markup Text

def Node.nameEnd (n : Node) (e : Element) : Nat :=
  n.range.start.offset + byteLength ('<' :: e.name.toList)

/-- What an element can be edited in: its start tag behind the name and in front of the closing,
and what stands behind that up to the end of its last child. -/
def Document.ownRegions (d : Document) (id : Nat) : List (Nat × Nat) :=
  match d.nodes[id]?, d.element? id with
  | some n, some e =>
    (n.nameEnd e, n.delimiterOffset e) ::
      ((d.children id).getLast?.map fun last =>
        (n.range.stop.offset, (d.outerEnd last).offset)).toList
  | _, _ => []

def Document.Owns (d : Document) (id : Nat) (edit : Edit) : Prop :=
  ∃ r ∈ d.ownRegions id, r.1 ≤ edit.start ∧ edit.stop ≤ r.2

theorem Document.ownRegions_eq {d : Document} {id : Nat} {n : Node} {e : Element}
    (hn : d.nodes[id]? = some n) (he : n.element? = some e) :
    d.ownRegions id = (n.nameEnd e, n.delimiterOffset e) ::
      ((d.children id).getLast?.map fun last =>
        (n.range.stop.offset, (d.outerEnd last).offset)).toList := by
  have helement : d.element? id = some e := by rw [element?, hn]; exact he
  rw [ownRegions, hn, helement]

theorem utf8Size_toLower (c : Char) : c.toLower.utf8Size = c.utf8Size := by
  cases halpha : c.isAlpha with
  | false => rw [toLower_of_not_alpha halpha]
  | true =>
    have hletter := isAlpha_iff.1 halpha
    have hlower := isAlpha_iff.1 ((isAlpha_toLower c).trans halpha)
    rw [utf8Size_of_ascii (by omega), utf8Size_of_ascii (by omega)]

theorem Flavor.byteLength_normalize (f : Flavor) (name : String) :
    byteLength (f.normalize name).toList = byteLength name.toList := by
  cases f with
  | xml => rfl
  | html =>
    rw [normalize, foldName, String.toList_map]
    induction name.toList with
    | nil => rfl
    | cons c s ih => rw [List.map_cons, byteLength_cons, byteLength_cons, ih, utf8Size_toLower]

namespace Site

variable {f : Flavor} {s : List Char} (x : Site f s) (o : PlanOptions) (value : String)
  {n : Node} {e : Element} {a b : String} {p q : Edit}

theorem nameEnd_eq (h : n.head = x.head) (he : n.element? = some e) :
    n.nameEnd e = byteLength x.lead := by
  obtain ⟨-, -, hrange⟩ := x.attributes_of_head h rfl he
  rw [Node.nameEnd, hrange, x.place_growth, x.name_of_head h he, byteLength_cons,
    Flavor.byteLength_normalize, String.toList_ofList, lead]
  simp [Position.origin]

theorem lead_le_planned (he : e.attributes = x.attributes)
    (h : x.planned o value e a = some p) : byteLength x.lead ≤ p.start := by
  rcases x.planned_cases o value he h with ⟨-, rfl⟩ | ⟨i, a, -, ha, -, rfl⟩
  · exact Nat.le_add_right _ _
  · exact x.lead_le_change o _ ha

theorem fits_of_stretches (style : QuoteStyle) (escaped : List Char) (inserted : List (List Char))
    {ms : List Marked} {tail : List Stretch} (hms : ms.map Prod.fst = x.tag.attributes)
    (htail : Stretch.oldText tail = x.rest)
    (hp : p ∈ Stretch.edits 0 (x.stretches style escaped ms inserted tail)) : p.Fits s := by
  have hvalid := Stretch.validate_edits [] hp
  rw [List.nil_append, x.oldText_stretches hms, htail, x.rewrite_tag] at hvalid
  exact Edit.validate_eq_ok.1 hvalid

theorem fits_planned (he : e.attributes = x.attributes) (h : x.planned o value e a = some p) :
    p.Fits s := by
  have htail : Stretch.oldText [.keep x.rest] = x.rest := by simp [Stretch.keep]
  rcases x.planned_cases o value he h with ⟨-, rfl⟩ | ⟨i, a, -, ha, -, rfl⟩
  · have hms := map_fst_markAt (fun _ => false) x.tag.attributes
    refine x.fits_of_stretches o.quotes []
      [newSource (escapeChars o.escaping value.toList) a.toList] hms htail ?_
    rw [x.edits_parts hms]
    exact List.mem_append_right _ List.mem_cons_self
  · have hms := map_fst_markAt (· == i) x.tag.attributes
    refine x.fits_of_stretches o.quotes (escapeChars o.escaping value.toList) [] hms htail ?_
    rw [x.edits_parts hms]
    exact List.mem_append_left _ (x.mem_change o _ ha)

theorem compatible_planned (he : e.attributes = x.attributes)
    (hp : x.planned o value e a = some p) (hq : x.planned o value e b = some q) :
    Edit.Compatible p q := by
  have hpb := x.planned_bounds o value he hp
  have hqb := x.planned_bounds o value he hq
  rcases Nat.eq_or_lt_of_le (Nat.le_trans hpb.1 hpb.2) with hpd | hpd
  · rcases Nat.eq_or_lt_of_le (Nat.le_trans hqb.1 hqb.2) with hqd | hqd
    · refine Or.inr (Or.inl ⟨beq_iff_eq.2 ?_, beq_iff_eq.2 ?_, hpd.trans hqd.symm⟩) <;> omega
    · exact Or.inr (Or.inr (Or.inr ⟨by omega, by omega⟩))
  · rcases Nat.eq_or_lt_of_le (Nat.le_trans hqb.1 hqb.2) with hqd | hqd
    · exact Or.inr (Or.inr (Or.inl ⟨by omega, by omega⟩))
    · rcases x.planned_cases o value he hp with ⟨-, rfl⟩ | ⟨i, c, -, hc, -, rfl⟩
      · exact absurd rfl (Nat.ne_of_lt hpd)
      · rcases x.planned_cases o value he hq with ⟨-, rfl⟩ | ⟨j, c', -, hc', -, rfl⟩
        · exact absurd rfl (Nat.ne_of_lt hqd)
        · rcases Nat.lt_trichotomy i j with hij | rfl | hij
          · exact Or.inr (Or.inr (Or.inl (x.change_before o _ hij hc hc')))
          · obtain rfl := Option.some.inj (hc.symm.trans hc')
            exact Edit.compatible_refl _
          · exact Or.inr (Or.inr (Or.inr (x.change_before o _ hij hc' hc)))

end Site

namespace Site

variable {f : Flavor} {text : String} (x : Site f (Document.stripMark text.toList).1) {n : Node}
  {e : Element} {edit : Edit}

theorem cleared_cases (hn : (Document.parse f text).nodes[x.id]? = some n) (h : n.head = x.head)
    (he : n.element? = some e)
    (hclear : Plan.clearContent (Document.parse f text) x.id = some edit) :
    edit.Fits (Document.stripMark text.toList).1 ∧ x.delimiter < edit.start ∧
      edit.start < edit.stop := by
  obtain ⟨tail, hold, hedits⟩ := x.edits_clearContent hn h he
  have hmem : edit ∈ Stretch.edits (x.delimiter + byteLength x.tag.closing.source) tail := by
    rw [hedits, hclear]
    exact List.mem_singleton_self _
  have hms := map_fst_markAt (fun _ => false) x.tag.attributes
  refine ⟨?_, x.delimiter_lt_of_clearContent hold hedits edit hmem, ?_⟩
  · refine x.fits_of_stretches .preserve [] [] hms hold ?_
    rw [x.edits_parts hms]
    exact List.mem_append_right _ hmem
  · obtain ⟨first, last, m, -, -, -, hlt, rfl⟩ := Plan.clearContent_eq_some hclear
    exact hlt

theorem compatible_cleared (o : PlanOptions) (value : String)
    (hn : (Document.parse f text).nodes[x.id]? = some n) (h : n.head = x.head)
    (he : n.element? = some e) {name : String} {clear : Edit}
    (hplanned : x.planned o value e name = some edit)
    (hclear : Plan.clearContent (Document.parse f text) x.id = some clear) :
    edit.Compatible clear := by
  obtain ⟨hattributes, -, -⟩ := x.attributes_of_head h rfl he
  obtain ⟨hle, hstop⟩ := x.planned_bounds o value hattributes hplanned
  obtain ⟨-, hbehind, hlt⟩ := x.cleared_cases hn h he hclear
  exact Or.inr (Or.inr (Or.inl ⟨by omega, by omega⟩))

end Site

namespace Plan

variable {f : Flavor} {text : String} {id : Nat} {n : Node} {e : Element}

theorem element_of_none {o : PlanOptions} {d : Document} {names : List String} {value : String}
    (h : d.element? id = none) : element o d id names value = .ok [] := by
  have hattributes : attributes o d id names value = [] := by
    rw [attributes, h]
    cases d.nodes[id]? <;> rfl
  have hclear : clearContent d id = none := by
    rw [clearContent, h]
    rfl
  rw [element, hattributes, hclear]
  rfl

inductive Placed (d : Document) (id : Nat) (edit : Edit) : Prop
  | tag (n : Node) (e : Element) (node : d.nodes[id]? = some n) (element : n.element? = some e)
      (name : n.nameEnd e ≤ edit.start) (closing : edit.stop ≤ n.delimiterOffset e)
  | content (first last : Nat) (m : Node) (head : (d.children id).head? = some first)
      (getLast : (d.children id).getLast? = some last) (node : d.nodes[first]? = some m)
      (start : edit.start = m.range.start.offset) (stop : edit.stop = (d.outerEnd last).offset)
      (nonempty : edit.start < edit.stop)

theorem Placed.of_clearContent {d : Document} {edit : Edit} (h : clearContent d id = some edit) :
    Placed d id edit := by
  obtain ⟨first, last, m, hfirst, hlast, hm, hlt, rfl⟩ := clearContent_eq_some h
  exact .content first last m hfirst hlast hm rfl rfl hlt

/-- Planning never fails, and what is planned for an element fits and goes together. -/
theorem exists_element (f : Flavor) (o : PlanOptions) (text : String) (id : Nat)
    (names : List String) (value : String) :
    ∃ edits, element o (Document.parse f text) id names value = .ok edits ∧
      (∀ clear ∈ clearContent (Document.parse f text) id, clear ∈ edits) ∧
      (∀ edit ∈ edits, edit.Fits (Document.stripMark text.toList).1 ∧
        Placed (Document.parse f text) id edit) ∧
      ∀ a ∈ edits, ∀ b ∈ edits, Edit.Compatible a b := by
  cases helement : (Document.parse f text).element? id with
  | none =>
    refine ⟨[], element_of_none helement, ?_, by simp, by simp⟩
    intro clear hclear
    rw [clearContent, helement] at hclear
    cases hclear
  | some e =>
    obtain ⟨n, hn, he⟩ := Option.bind_eq_some_iff.1 helement
    obtain ⟨x, rfl, hhead⟩ := exists_site_parse hn he
    obtain ⟨hattributes, -, -⟩ := x.attributes_of_head hhead rfl he
    obtain ⟨tail, -, hedits⟩ := x.edits_clearContent hn hhead he
    have hplan : element o (Document.parse f text) x.id names value = .ok _ :=
      x.element_planned o value hn hhead he hedits
    rw [hedits] at hplan
    have hcases : ∀ edit ∈ names.filterMap (x.planned o value e) ++
        (clearContent (Document.parse f text) x.id).toList,
        (∃ name, x.planned o value e name = some edit) ∨
          clearContent (Document.parse f text) x.id = some edit := by
      intro edit hedit
      rcases List.mem_append.1 hedit with hedit | hedit
      · obtain ⟨name, -, hplanned⟩ := List.mem_filterMap.1 hedit
        exact Or.inl ⟨name, hplanned⟩
      · exact Or.inr (Option.mem_toList.1 hedit)
    refine ⟨_, hplan, ?_, ?_, ?_⟩
    · intro clear hclear
      exact List.mem_append_right _ (Option.mem_toList.2 hclear)
    · intro edit hedit
      rcases hcases edit hedit with ⟨name, hplanned⟩ | hclear
      · refine ⟨x.fits_planned o value hattributes hplanned, .tag n e hn he ?_ ?_⟩
        · rw [x.nameEnd_eq hhead he]
          exact x.lead_le_planned o value hattributes hplanned
        · rw [x.delimiterOffset_eq hhead he]
          exact (x.planned_bounds o value hattributes hplanned).2
      · exact ⟨(x.cleared_cases hn hhead he hclear).1, .of_clearContent hclear⟩
    · intro a ha b hb
      rcases hcases a ha with ⟨name, ha⟩ | ha
      · rcases hcases b hb with ⟨name', hb⟩ | hb
        · exact x.compatible_planned o value hattributes ha hb
        · exact x.compatible_cleared o value hn hhead he ha hb
      · rcases hcases b hb with ⟨name', hb⟩ | hb
        · exact (x.compatible_cleared o value hn hhead he hb ha).symm
        · obtain rfl := Option.some.inj (ha.symm.trans hb)
          exact Edit.compatible_refl _

theorem exists_schedule (f : Flavor) (o : PlanOptions) (text : String) (id : Nat)
    (names : List String) (value : String) :
    ∃ edits, element o (Document.parse f text) id names value = .ok edits ∧
      ∃ scheduled, Edit.schedule text.toList (Edit.shiftPastMark text.toList edits) =
        .ok scheduled := by
  obtain ⟨edits, hplan, -, hplaced, hcompatible⟩ := exists_element f o text id names value
  exact ⟨edits, hplan,
    Edit.exists_schedule_shiftPastMark (fun edit hedit => (hplaced edit hedit).1) hcompatible⟩

variable {edit : Edit}

theorem delimiter_cases (hn : (Document.parse f text).nodes[id]? = some n)
    (he : n.element? = some e) :
    n.delimiterOffset e < n.range.stop.offset ∨
      n.delimiterOffset e = n.range.stop.offset ∧
        n.range.stop.offset = byteLength (Document.stripMark text.toList).1 := by
  obtain ⟨x, rfl, hhead⟩ := exists_site_parse hn he
  rw [x.delimiterOffset_eq hhead he, x.stop_of_head hhead he]
  by_cases hclosing : x.tag.closing = .cutOff
  · right
    have hends := x.sound.ends
    rw [hclosing] at hends
    have hsource := congrArg byteLength (x.rewrite_eq x.rest)
    rw [x.rewrite_tag, hends.2, hclosing] at hsource
    simp only [byteLength_append] at hsource
    simp only [hclosing, Site.delimiter, byteLength_append]
    exact ⟨rfl, by rw [hsource]; simp [Closing.source]⟩
  · left
    have hpos := byteLength_pos (List.ne_nil_of_mem (mem_source_of_ne hclosing))
    omega

theorem Placed.owns (h : Placed (Document.parse f text) id edit) :
    (Document.parse f text).Owns id edit := by
  cases h with
  | tag n e node element name closing =>
    exact ⟨_, by rw [Document.ownRegions_eq node element]; exact List.mem_cons_self, name, closing⟩
  | content first last m head getLast node start stop nonempty =>
    have hfirst := List.mem_of_mem_head? head
    obtain ⟨n, e, hn, he, -⟩ := Document.bracket_of_child hfirst
    refine ⟨(n.range.stop.offset, ((Document.parse f text).outerEnd last).offset), ?_, ?_, ?_⟩
    · rw [Document.ownRegions_eq hn he, getLast]
      exact List.mem_cons_of_mem _ List.mem_cons_self
    · exact start ▸ Document.child_behind hn node hfirst
    · exact Nat.le_of_eq stop

end Plan

namespace Document

variable {f : Flavor} {text : String} {id i j : Nat} {n : Node} {edit p q : Edit}

theorem Owns.bounds (h : (parse f text).Owns id edit) :
    ∃ n, (parse f text).nodes[id]? = some n ∧ n.range.start.offset < edit.start ∧
      edit.stop ≤ ((parse f text).outerEnd id).offset := by
  obtain ⟨r, hr, hstart, hstop⟩ := h
  cases helement : (parse f text).element? id with
  | none =>
    rw [ownRegions, helement] at hr
    cases hnode : (parse f text).nodes[id]? <;> simp [hnode] at hr
  | some e =>
    obtain ⟨n, hn, he⟩ := Option.bind_eq_some_iff.1 helement
    have hend := stop_le_outerEnd hn
    have hlt := lt_of_node hn
    refine ⟨n, hn, ?_⟩
    rw [ownRegions_eq hn he] at hr
    rcases List.mem_cons.1 hr with rfl | hr
    · have hname : n.range.start.offset < n.nameEnd e :=
        Nat.lt_add_of_pos_right (byteLength_pos (List.cons_ne_nil _ _))
      have hclosing := Plan.delimiter_cases hn he
      dsimp only at hstart hstop
      omega
    · obtain ⟨last, hlast, rfl⟩ := Option.map_eq_some_iff.1 (Option.mem_toList.1 hr)
      have hchild := child_le_outerEnd (List.mem_of_getLast? hlast)
      dsimp only at hstart hstop
      omega

theorem Owns.before (hp : (parse f text).Owns i p) (hq : (parse f text).Owns j q) (hij : i < j)
    (hi : i ∉ (parse f text).ancestors j) : p.stop < q.start := by
  obtain ⟨-, -, -, hstop⟩ := hp.bounds
  obtain ⟨m, hm, hstart, -⟩ := hq.bounds
  have hle := outerEnd_le_start hm hij hi
  omega

end Document
end MarkupSplice
