import MarkupSplice.Proofs.Plan.Content
import MarkupSplice.Proofs.Plan.Listed

/-!
# Edits that are planned together

The edits for several names start at different places, but for those at the
closing of the tag: there all new attributes are inserted, and the value of a
bare attribute that the tag is closed right behind (`pairwise_planned`). These
are joined in the order of the names, all others are made on their own
(`applyEdits_joint`).
-/
namespace MarkupSplice
open Markup Text

def Attribute.isBareAt (stop : Nat) (a : Attribute) : Bool :=
  a.value.isNone && a.nameRange.stop.offset == stop

theorem Plan.getElem_changes {o : PlanOptions} {stop : Nat} {escaped : String}
    {as : List Attribute} {sets : List Bool} (hlen : sets.length = as.length)
    (hall : ∀ set ∈ sets, set = true) (i : Nat) :
    (changes o stop escaped as sets)[i]? = as[i]?.map fun a =>
      changeAt o ((as[i + 1]?).map fun b => b.nameRange.start.offset) stop a escaped := by
  induction as generalizing sets i with
  | nil => simp [changes]
  | cons a as ih =>
    cases sets with
    | nil => simp at hlen
    | cons set sets =>
      obtain rfl := hall set List.mem_cons_self
      have hrest := ih (Nat.succ.inj hlen) fun b hb => hall b (List.mem_cons_of_mem _ hb)
      cases i with
      | zero => simp [changes, List.head?_eq_getElem?]
      | succ i => simpa [changes] using hrest i

namespace Site

variable {f : Flavor} {s : List Char} (x : Site f s) (o : PlanOptions) (escaped : List Char)
  {i j : Nat} {a b : Attribute}

theorem change_of_bare (ha : a.value = none) :
    x.change o escaped i a =
      .insert a.nameRange.stop.offset (String.ofList (Assignment.fresh escaped).source) := by
  simp [change, Plan.changeAt, ha, fresh_ofList]

theorem mem_change (ha : x.attributes[i]? = some a) :
    x.change o escaped i a ∈ Stretch.edits (byteLength x.lead)
      (tagStretches o.quotes escaped x.tag.gap false (markAt (· == i) x.tag.attributes)) := by
  rw [← x.changes_eq o escaped (map_fst_markAt (· == i) x.tag.attributes),
    x.changes_markAt o escaped ha]
  exact List.mem_singleton_self _

theorem lead_le_change (ha : x.attributes[i]? = some a) :
    byteLength x.lead ≤ (x.change o escaped i a).start :=
  (Stretch.start_le_of_mem (x.mem_change o escaped ha)).1

theorem change_bounds (ha : x.attributes[i]? = some a) :
    (x.change o escaped i a).start ≤ (x.change o escaped i a).stop ∧
      (x.change o escaped i a).stop ≤ x.delimiter ∧
      (a.value ≠ none → (x.change o escaped i a).start < (x.change o escaped i a).stop) := by
  have hms := map_fst_markAt (· == i) x.tag.attributes
  have hmem := x.mem_change o escaped ha
  have hold : Stretch.oldText (tagStretches o.quotes escaped x.tag.gap false
      (markAt (· == i) x.tag.attributes)) = _ := oldText_tagStretches false _
  obtain ⟨-, hle, hstop⟩ := Stretch.start_le_of_mem hmem
  rw [hold, hms, ← delimiter] at hstop
  refine ⟨hle, hstop, ?_⟩
  intro hvalue
  rcases lt_stop_of_mem_tagStretches hmem with hlt | ⟨⟨w, set⟩, hm, hset, hbare⟩
  · exact hlt
  · obtain ⟨k, w', hw', hpair⟩ := mem_markAt.1 hm
    obtain ⟨rfl, rfl⟩ := Prod.mk.inj hpair
    obtain rfl := beq_iff_eq.1 hset
    obtain ⟨p, hp⟩ := Growth.getElem_attributesOf f x.first x.tag.attributes k
    rw [attributes, hp, hw'] at ha
    obtain rfl := Option.some.inj ha
    have hnone : w.assignment = none := hbare
    exact absurd (by simp [Growth.attributeOf, hnone]) hvalue

theorem change_before (hij : i < j) (ha : x.attributes[i]? = some a)
    (hb : x.attributes[j]? = some b) :
    (x.change o escaped i a).start < (x.change o escaped j b).start ∧
      (x.change o escaped i a).stop ≤ (x.change o escaped j b).start := by
  have hms := map_fst_markAt (fun _ => true) x.tag.attributes
  have hstarts := x.pairwise_changes o escaped hms
  have hstops := Stretch.pairwise_edits (byteLength x.lead) (tagStretches o.quotes escaped x.tag.gap
    false (markAt (fun _ => true) x.tag.attributes))
  rw [← x.changes_eq o escaped hms] at hstops
  have hget : ∀ k, (Plan.changes o x.delimiter (String.ofList escaped) x.attributes
      ((markAt (fun _ => true) x.tag.attributes).map Prod.snd))[k]? =
        x.attributes[k]?.map (x.change o escaped k) :=
    Plan.getElem_changes (by simp [markAt, attributes]) (by simp [markAt])
  have hi := hget i
  have hj := hget j
  rw [ha, Option.map_some] at hi
  rw [hb, Option.map_some] at hj
  obtain ⟨hi', hgeti⟩ := List.getElem?_eq_some_iff.1 hi
  obtain ⟨hj', hgetj⟩ := List.getElem?_eq_some_iff.1 hj
  have hlt := List.pairwise_iff_getElem.1 hstarts i j hi' hj' hij
  have hle := List.pairwise_iff_getElem.1 hstops i j hi' hj' hij
  rw [hgeti, hgetj] at hlt hle
  exact ⟨hlt, hle⟩

theorem start_change_eq (ha : x.attributes[i]? = some a) :
    (x.change o escaped i a).start = x.delimiter ↔ a.isBareAt x.delimiter = true := by
  obtain ⟨hle, hstop, hlt⟩ := x.change_bounds o escaped ha
  rw [Attribute.isBareAt, Bool.and_eq_true, Option.isNone_iff_eq_none, beq_iff_eq]
  constructor
  · intro hstart
    by_cases hvalue : a.value = none
    · rw [x.change_of_bare o escaped hvalue] at hstart
      exact ⟨hvalue, hstart⟩
    · have hlt' := hlt hvalue
      omega
  · rintro ⟨hvalue, hstart⟩
    rw [x.change_of_bare o escaped hvalue]
    exact hstart

theorem change_of_start (ha : x.attributes[i]? = some a)
    (h : (x.change o escaped i a).start = x.delimiter) :
    x.change o escaped i a =
      .insert x.delimiter (String.ofList (Assignment.fresh escaped).source) := by
  have hbare := (x.start_change_eq o escaped ha).1 h
  rw [Attribute.isBareAt, Bool.and_eq_true, Option.isNone_iff_eq_none, beq_iff_eq] at hbare
  rw [x.change_of_bare o escaped hbare.1, hbare.2]

variable (value : String) {e : Element} {names : List String}

def planned (e : Element) (name : String) : Option Edit :=
  match e.findAttribute f name with
  | none => some (.insert x.delimiter
      (String.ofList (newSource (escapeChars o.escaping value.toList) name.toList)))
  | some (i, a) =>
    if a.value.getD "" = value then none
    else some (x.change o (escapeChars o.escaping value.toList) i a)

theorem setAttribute_eq_planned {n : Node} (h : n.head = x.head) (he : n.element? = some e)
    (name : String) : Plan.setAttribute f o n e name value = x.planned o value e name := by
  obtain ⟨hattributes, -, -⟩ := x.attributes_of_head h rfl he
  rw [Plan.setAttribute_eq, planned, x.delimiterOffset_eq h he, hattributes, newText_ofList]
  rfl

theorem planned_of_none {name : String} (h : e.findAttribute f name = none) :
    x.planned o value e name = some (.insert x.delimiter
      (String.ofList (newSource (escapeChars o.escaping value.toList) name.toList))) := by
  rw [planned, h]

theorem planned_of_eq {name : String} (h : e.findAttribute f name = some (i, a))
    (hvalue : a.value.getD "" = value) : x.planned o value e name = none := by
  rw [planned, h]
  exact if_pos hvalue

theorem planned_of_ne {name : String} (h : e.findAttribute f name = some (i, a))
    (hvalue : a.value.getD "" ≠ value) :
    x.planned o value e name = some (x.change o (escapeChars o.escaping value.toList) i a) := by
  rw [planned, h]
  exact if_neg hvalue

theorem planned_cases (he : e.attributes = x.attributes) {name : String} {edit : Edit}
    (h : x.planned o value e name = some edit) :
    (e.findAttribute f name = none ∧ edit = .insert x.delimiter
      (String.ofList (newSource (escapeChars o.escaping value.toList) name.toList))) ∨
    ∃ i a, e.findAttribute f name = some (i, a) ∧ x.attributes[i]? = some a ∧
      a.value.getD "" ≠ value ∧ edit = x.change o (escapeChars o.escaping value.toList) i a := by
  cases hfind : e.findAttribute f name with
  | none =>
    rw [x.planned_of_none o value hfind] at h
    exact Or.inl ⟨rfl, (Option.some.inj h).symm⟩
  | some found =>
    obtain ⟨i, a⟩ := found
    have ha := (Element.getElem_of_findAttribute hfind).1
    rw [he] at ha
    by_cases hvalue : a.value.getD "" = value
    · rw [x.planned_of_eq o value hfind hvalue] at h
      cases h
    · rw [x.planned_of_ne o value hfind hvalue] at h
      exact Or.inr ⟨i, a, rfl, ha, hvalue, (Option.some.inj h).symm⟩

theorem planned_bounds (he : e.attributes = x.attributes) {name : String} {edit : Edit}
    (h : x.planned o value e name = some edit) :
    edit.start ≤ edit.stop ∧ edit.stop ≤ x.delimiter := by
  rcases x.planned_cases o value he h with ⟨-, rfl⟩ | ⟨i, a, -, ha, -, rfl⟩
  · exact ⟨Nat.le_refl _, Nat.le_refl _⟩
  · obtain ⟨hle, hstop, -⟩ := x.change_bounds o (escapeChars o.escaping value.toList) ha
    exact ⟨hle, hstop⟩

theorem not_prefix_fresh (name : List Char) :
    ¬newSource escaped name <+: (Assignment.fresh escaped).source ∧
      ¬(Assignment.fresh escaped).source <+: newSource escaped name := by
  simp [newSource, Assignment.fresh, Assignment.source]

theorem index_eq_of_start (ha : x.attributes[i]? = some a) (hb : x.attributes[j]? = some b)
    (h : (x.change o escaped i a).start = (x.change o escaped j b).start) : i = j := by
  rcases Nat.lt_trichotomy i j with hlt | heq | hgt
  · have hstart := (x.change_before o escaped hlt ha hb).1
    omega
  · exact heq
  · have hstart := (x.change_before o escaped hgt hb ha).1
    omega

/-- Only at the closing of the tag do several edits start, and none repeats another. -/
theorem pairwise_planned (he : e.attributes = x.attributes)
    (hnames : ∀ name ∈ names, IsName name.toList)
    (hpair : names.Pairwise fun a b => f.namesMatch a b = false) :
    (names.filterMap (x.planned o value e)).Pairwise fun p q =>
      p.start = q.start → p.start = x.delimiter ∧ ¬p.text.toList <+: q.text.toList := by
  refine List.pairwise_filterMap.2 (hpair.imp_of_mem ?_)
  intro b c hb hc hne p hp q hq hstart
  have hmatch : ¬f.namesMatch b c = true := by simp [hne]
  have hfresh := not_prefix_fresh (escapeChars o.escaping value.toList)
  rcases x.planned_cases o value he hp with ⟨-, rfl⟩ | ⟨i, a, hfindb, ha, -, rfl⟩
  · refine ⟨rfl, ?_⟩
    rcases x.planned_cases o value he hq with ⟨-, rfl⟩ | ⟨j, a, -, ha, -, rfl⟩
    · simp only [Edit.insert, String.toList_ofList]
      intro hprefix
      have heq := not_prefix_newSource (hnames b hb) (hnames c hc) hprefix
      obtain rfl := String.toList_inj.1 heq
      exact hmatch (Flavor.namesMatch_iff.2 rfl)
    · rw [x.change_of_start o _ ha hstart.symm]
      simpa only [Edit.insert, String.toList_ofList] using (hfresh b.toList).1
  · rcases x.planned_cases o value he hq with ⟨-, rfl⟩ | ⟨j, a', hfindc, ha', -, rfl⟩
    · refine ⟨hstart, ?_⟩
      rw [x.change_of_start o _ ha hstart]
      simpa only [Edit.insert, String.toList_ofList] using (hfresh c.toList).2
    · -- one attribute is not found by two names that differ
      obtain ⟨-, hmatchb, -⟩ := Element.getElem_of_findAttribute hfindb
      obtain ⟨-, hmatchc, -⟩ := Element.getElem_of_findAttribute hfindc
      obtain rfl := x.index_eq_of_start o _ ha ha' hstart
      obtain rfl := Option.some.inj (ha.symm.trans ha')
      rw [Flavor.namesMatch_iff] at hmatchb hmatchc
      exact absurd (Flavor.namesMatch_iff.2 (hmatchb.symm.trans hmatchc)) hmatch

def apart (names : List String) (e : Element) (i : Nat) : Bool :=
  e.differs f names value i && !(e.attributes[i]?).any (Attribute.isBareAt x.delimiter)

def inserted (names : List String) (e : Element) : List (List Char) :=
  (Edit.startingAt x.delimiter (names.filterMap (x.planned o value e))).map fun edit =>
    edit.text.toList

/-- The text with those attributes changed and these texts inserted, and `u` behind the tag. -/
def plannedText (names : List String) (e : Element) (u : List Char) : List Char :=
  x.lead ++ ((setMarked o.quotes (escapeChars o.escaping value.toList) false
      (markAt (x.apart value names e) x.tag.attributes)).flatMap WrittenAttribute.source ++
    (x.tag.gapBehind (markAt (x.apart value names e) x.tag.attributes) ++
      ((x.inserted o value names e).flatten ++ (x.tag.closing.source ++ u))))

theorem mem_planned (he : e.attributes = x.attributes) {edit : Edit} :
    edit ∈ Plan.changes o x.delimiter (String.ofList (escapeChars o.escaping value.toList))
        x.attributes ((markAt (x.apart value names e) x.tag.attributes).map Prod.snd) ↔
      edit ∈ names.filterMap (x.planned o value e) ∧ edit.start ≠ x.delimiter := by
  rw [mem_changes_markAt, List.mem_filterMap]
  constructor
  · rintro ⟨i, a, ha, hapart, rfl⟩
    simp only [apart, he, ha, Option.any_some, Bool.and_eq_true, Bool.not_eq_true'] at hapart
    obtain ⟨b, hb, a', hfind, hvalue⟩ := Element.differs_iff.1 hapart.1
    have ha' := (Element.getElem_of_findAttribute hfind).1
    rw [he] at ha'
    obtain rfl := Option.some.inj (ha.symm.trans ha')
    refine ⟨⟨b, hb, ?_⟩, ?_⟩
    · exact x.planned_of_ne o value hfind hvalue
    · rw [ne_eq, x.start_change_eq o _ ha, hapart.2]
      exact Bool.false_ne_true
  · rintro ⟨⟨b, hb, hplanned⟩, hstart⟩
    rcases x.planned_cases o value he hplanned with ⟨-, rfl⟩ | ⟨i, a, hfind, ha, hvalue, rfl⟩
    · exact absurd rfl hstart
    · have hdiffers := (Element.differs_of_findAttribute value hb hfind).2 hvalue
      rw [ne_eq, x.start_change_eq o _ ha, Bool.not_eq_true] at hstart
      exact ⟨i, a, ha, by simp [apart, he, ha, hdiffers, hstart], rfl⟩

theorem map_insert_inserted (he : e.attributes = x.attributes) :
    (x.inserted o value names e).map (fun t => Edit.insert x.delimiter (String.ofList t)) =
      Edit.startingAt x.delimiter (names.filterMap (x.planned o value e)) := by
  rw [inserted, List.map_map]
  refine (List.map_congr_left ?_).trans (List.map_id _)
  intro edit hedit
  obtain ⟨hmem, hstart⟩ := List.mem_filter.1 hedit
  obtain ⟨b, -, hplanned⟩ := List.mem_filterMap.1 hmem
  obtain ⟨hle, hstop⟩ := x.planned_bounds o value he hplanned
  obtain ⟨start, stop, text⟩ := edit
  obtain rfl : start = x.delimiter := beq_iff_eq.1 hstart
  obtain rfl : stop = x.delimiter := Nat.le_antisymm hstop hle
  simp [Edit.insert]

theorem startingAt_planned (he : e.attributes = x.attributes)
    (hnames : ∀ name ∈ names, IsName name.toList)
    (hpair : names.Pairwise fun a b => f.namesMatch a b = false) (k : Nat) :
    Edit.startingAt k (names.filterMap (x.planned o value e)) =
      Edit.startingAt k (Plan.changes o x.delimiter
          (String.ofList (escapeChars o.escaping value.toList)) x.attributes
          ((markAt (x.apart value names e) x.tag.attributes).map Prod.snd)) ++
        Edit.startingAt k ((x.inserted o value names e).map
          fun t => Edit.insert x.delimiter (String.ofList t)) := by
  have hstarts : ∀ edit ∈ (x.inserted o value names e).map
      (fun t => Edit.insert x.delimiter (String.ofList t)), edit.start = x.delimiter := by
    intro edit hedit
    obtain ⟨t, -, rfl⟩ := List.mem_map.1 hedit
    rfl
  -- at the closing all edits are insertions, and elsewhere no two edits start together
  by_cases hk : k = x.delimiter
  · subst hk
    have hnone : Edit.startingAt x.delimiter (Plan.changes o x.delimiter
        (String.ofList (escapeChars o.escaping value.toList)) x.attributes
        ((markAt (x.apart value names e) x.tag.attributes).map Prod.snd)) = [] :=
      Edit.startingAt_eq_nil fun edit hedit => ((x.mem_planned o value he).1 hedit).2
    rw [hnone, Edit.startingAt_eq_self hstarts, x.map_insert_inserted o value he, List.nil_append]
  · have hnone : Edit.startingAt k ((x.inserted o value names e).map
        fun t => Edit.insert x.delimiter (String.ofList t)) = [] :=
      Edit.startingAt_eq_nil fun edit hedit => hstarts edit hedit ▸ Ne.symm hk
    rw [hnone, List.append_nil]
    apply Edit.startingAt_congr
    · refine (x.pairwise_planned o value he hnames hpair).imp fun {p q} hpq hstart heq => ?_
      exact hk (heq.symm.trans (hpq hstart).1)
    · refine (x.pairwise_changes o _ (map_fst_markAt _ _)).imp fun {p q} hlt heq => ?_
      omega
    · intro edit hstart
      rw [x.mem_planned o value he]
      constructor
      · intro hmem
        exact ⟨hmem, fun heq => hk (hstart.symm.trans heq)⟩
      · exact fun h => h.1

end Site

/-- All edits made, with those of stretches behind the tag: the attributes that are changed on
their own, and what is inserted at the closing in the order of the names. -/
theorem Site.applyEdits_joint {f : Flavor} {text : String}
    (x : Site f (Document.stripMark text.toList).1) (o : PlanOptions) (value : String)
    {e : Element} {names : List String} {tail : List Stretch} (he : e.attributes = x.attributes)
    (hnames : ∀ name ∈ names, IsName name.toList)
    (hpair : names.Pairwise fun a b => f.namesMatch a b = false)
    (htail : Stretch.oldText tail = x.rest)
    (hedits : (Stretch.edits (x.delimiter + byteLength x.tag.closing.source) tail).Pairwise
      fun a b => a.start < b.start)
    (hbehind : ∀ edit ∈ Stretch.edits (x.delimiter + byteLength x.tag.closing.source) tail,
      x.delimiter < edit.start) :
    applyEdits text (Edit.shiftPastMark text.toList (names.filterMap (x.planned o value e) ++
        Stretch.edits (x.delimiter + byteLength x.tag.closing.source) tail)) =
      .ok (String.ofList (Stretch.mark text.toList ++
        x.plannedText o value names e (Stretch.newText tail))) := by
  have hms := map_fst_markAt (x.apart value names e) x.tag.attributes
  have hchanges := x.changes_eq o (escapeChars o.escaping value.toList) hms
  have hpairwise := x.pairwise_planned o value he hnames hpair
  refine x.applyEdits_site rfl hms (x.distinct_stretches hms ?_ ?_ hedits hbehind) htail ?_
  · refine List.pairwise_map.2 (List.pairwise_filter.2 (hpairwise.imp fun {p q} hpq hp hq => ?_))
    rw [beq_iff_eq] at hp hq
    exact (hpq (hp.trans hq.symm)).2
  · intro _ edit hedit
    rw [← hchanges] at hedit
    obtain ⟨hmem, hstart⟩ := (x.mem_planned o value he).1 hedit
    obtain ⟨b, -, hplanned⟩ := List.mem_filterMap.1 hmem
    have hbounds := x.planned_bounds o value he hplanned
    omega
  · intro k
    rw [x.edits_parts hms, ← hchanges, Edit.startingAt_append, Edit.startingAt_append,
      Edit.startingAt_append, x.startingAt_planned o value he hnames hpair, List.append_assoc]

theorem Site.applyEdits_planned {f : Flavor} {text : String}
    (x : Site f (Document.stripMark text.toList).1) (o : PlanOptions) (value : String)
    {e : Element} {names : List String} {tail : List Stretch} (he : e.attributes = x.attributes)
    (hnames : ∀ name ∈ names, IsName name.toList)
    (hpair : names.Pairwise fun a b => f.namesMatch a b = false)
    (htail : Stretch.oldText tail = x.rest)
    (hedits : (Stretch.edits (x.delimiter + byteLength x.tag.closing.source) tail).Pairwise
      fun a b => a.start < b.start)
    (hclosing : x.tag.closing ≠ .cutOff) :
    applyEdits text (Edit.shiftPastMark text.toList (names.filterMap (x.planned o value e) ++
        Stretch.edits (x.delimiter + byteLength x.tag.closing.source) tail)) =
      .ok (String.ofList (Stretch.mark text.toList ++
        x.plannedText o value names e (Stretch.newText tail))) := by
  refine x.applyEdits_joint o value he hnames hpair htail hedits fun edit hedit => ?_
  have hle := (Stretch.start_le_of_mem hedit).1
  have hpos := byteLength_pos (List.ne_nil_of_mem (mem_source_of_ne hclosing))
  omega

end MarkupSplice
