import Mathlib.Data.List.ReduceOption
import MarkupSplice.Proofs.Edit.Collapse
import MarkupSplice.Proofs.Plan.Repeated

/-!
# Insertions at the closing of a tag

Whatever names are listed, and however often, the edits of a start tag change
attributes on their own, and what they insert at the closing is joined, but for
what repeats the first of it at once (`applyEdits_joined`). With the value of a
bare attribute in front this makes the tag with all listed attributes set, and
some new ones more than once (`joinedText_eq_update`).
-/
namespace MarkupSplice
open Markup Text

namespace Markup

def closingSource (escaped : List Char) : Option String → List Char
  | none => (Assignment.fresh escaped).source
  | some name => newSource escaped name.toList

variable {escaped : List Char}

theorem closingSource_injective : Function.Injective (closingSource escaped) := by
  intro a b hab
  cases a with
  | none =>
    cases b with
    | none => rfl
    | some b => simp [closingSource, newSource, Assignment.fresh, Assignment.source] at hab
  | some a =>
    cases b with
    | none => simp [closingSource, newSource, Assignment.fresh, Assignment.source] at hab
    | some b => simpa [closingSource, newSource, String.toList_inj] using hab

theorem eq_of_closingSource {a b : Option String} (ha : ∀ name ∈ a, IsName name.toList)
    (hb : ∀ name ∈ b, IsName name.toList)
    (h : closingSource escaped a <+: closingSource escaped b) : a = b := by
  cases a with
  | none =>
    cases b with
    | none => rfl
    | some b => exact absurd h (Site.not_prefix_fresh escaped b.toList).2
  | some a =>
    cases b with
    | none => exact absurd h (Site.not_prefix_fresh escaped a.toList).1
    | some b =>
      exact congrArg some (String.toList_inj.1 (not_prefix_newSource (ha a rfl) (hb b rfl) h))

end Markup

theorem join_map_ofList (ts : List (List Char)) :
    String.join (ts.map String.ofList) = String.ofList ts.flatten := by
  induction ts with
  | nil => rfl
  | cons t ts ih =>
    rw [List.map_cons, String.join_cons, ih, List.flatten_cons, String.ofList_append]

namespace Site

variable {f : Flavor} {s : List Char} (x : Site f s) (o : PlanOptions) (value : String)
  {e : Element} {names : List String} {b : String}

/-- What is inserted at the closing of the tag for a name: `none` for the value of a bare
attribute. -/
def closing? (e : Element) (name : String) : Option (Option String) :=
  match e.findAttribute f name with
  | none => some (some name)
  | some (_, a) =>
    if a.value.getD "" ≠ value ∧ a.isBareAt x.delimiter = true then some none else none

theorem closing?_missing (h : e.findAttribute f b = none) :
    x.closing? value e b = some (some b) := by
  rw [closing?, h]

theorem closing?_late (h : x.Late value e b) : x.closing? value e b = some none := by
  obtain ⟨i, a, hfind, hvalue, hbare⟩ := h
  rw [closing?, hfind]
  exact if_pos ⟨hvalue, hbare⟩

theorem missing_late (h : x.Late value e b) : e.missing f [b] = [] := by
  obtain ⟨i, a, hfind, -⟩ := h
  simp [Element.missing, hfind]

theorem closing?_cases {t : Option String} (h : x.closing? value e b = some t) :
    (e.findAttribute f b = none ∧ t = some b) ∨ (x.Late value e b ∧ t = none) := by
  cases hfind : e.findAttribute f b with
  | none =>
    rw [x.closing?_missing value hfind] at h
    exact Or.inl ⟨rfl, (Option.some.inj h).symm⟩
  | some found =>
    obtain ⟨i, a⟩ := found
    rw [closing?, hfind] at h
    dsimp only at h
    split at h
    · rename_i hlate
      exact Or.inr ⟨⟨i, a, hfind, hlate⟩, (Option.some.inj h).symm⟩
    · cases h

theorem closing?_eq_some {c : String} :
    x.closing? value e b = some (some c) ↔ e.findAttribute f b = none ∧ c = b := by
  constructor
  · intro h
    rcases x.closing?_cases value h with ⟨hnone, hcb⟩ | ⟨-, hcb⟩
    · exact ⟨hnone, Option.some.inj hcb⟩
    · cases hcb
  · rintro ⟨hnone, rfl⟩
    exact x.closing?_missing value hnone

theorem closing?_of_found (h : e.findAttribute f b ≠ none) (hlate : ¬x.Late value e b) :
    x.closing? value e b = none := by
  cases hclosing : x.closing? value e b with
  | none => rfl
  | some t =>
    rcases x.closing?_cases value hclosing with ⟨hnone, -⟩ | ⟨hlate', -⟩
    · exact absurd hnone h
    · exact absurd hlate' hlate

def closings (names : List String) (e : Element) : List (Option String) :=
  names.filterMap (x.closing? value e)

theorem closings_append (front back : List String) :
    x.closings value (front ++ back) e = x.closings value front e ++ x.closings value back e :=
  List.filterMap_append

theorem some_mem_closings {c : String} :
    some c ∈ x.closings value names e ↔ c ∈ names ∧ e.findAttribute f c = none := by
  simp only [closings, List.mem_filterMap, closing?_eq_some]
  constructor
  · rintro ⟨b, hb, hnone, rfl⟩
    exact ⟨hb, hnone⟩
  · rintro ⟨hc, hnone⟩
    exact ⟨c, hc, hnone, rfl⟩

theorem inserted_eq (he : e.attributes = x.attributes) :
    x.inserted o value names e =
      (x.closings value names e).map (closingSource (escapeChars o.escaping value.toList)) := by
  induction names with
  | nil => rfl
  | cons b names ih =>
    rw [← List.singleton_append, inserted_append, ih, closings_append, List.map_append]
    congr 1
    by_cases hlate : x.Late value e b
    · rw [x.inserted_late o value he hlate]
      simp [closings, x.closing?_late value hlate, closingSource]
    · rw [x.inserted_missing o value he (by simpa using hlate)]
      cases hfind : e.findAttribute f b with
      | none =>
        simp [closings, x.closing?_missing value hfind, closingSource, Element.missing, hfind]
      | some found =>
        have hnone := x.closing?_of_found value (by simp [hfind]) hlate
        simp [closings, hnone, Element.missing, hfind]

theorem isName_of_closings (hnames : ∀ name ∈ names, IsName name.toList) {t : Option String}
    (ht : t ∈ x.closings value names e) : ∀ name ∈ t, IsName name.toList := by
  rintro name ⟨⟩
  exact hnames name ((x.some_mem_closings value).1 ht).1

def joinedClosing (names : List String) (e : Element) : List Char :=
  ((Edit.collapse (x.closings value names e)).map
    (closingSource (escapeChars o.escaping value.toList))).flatten

/-- The text with those attributes changed that are changed on their own, and all that is inserted
at the closing joined. -/
def joinedText (names : List String) (e : Element) (u : List Char) : List Char :=
  x.lead ++ ((setMarked o.quotes (escapeChars o.escaping value.toList) false
      (markAt (x.apart value names e) x.tag.attributes)).flatMap WrittenAttribute.source ++
    (x.tag.gapBehind (markAt (x.apart value names e) x.tag.attributes) ++
      (x.joinedClosing o value names e ++ (x.tag.closing.source ++ u))))

theorem merged_closing (he : e.attributes = x.attributes)
    (hnames : ∀ name ∈ names, IsName name.toList) :
    Edit.merged (Edit.startingAt x.delimiter (names.filterMap (x.planned o value e))) =
      if x.closings value names e = [] then none
      else some (.insert x.delimiter (String.ofList (x.joinedClosing o value names e))) := by
  have hinjective : Function.Injective fun t =>
      String.ofList (closingSource (escapeChars o.escaping value.toList) t) :=
    fun _ _ h => closingSource_injective (String.ofList_injective h)
  rw [← x.map_insert_inserted o value he, x.inserted_eq o value he, List.map_map]
  split
  · rename_i hnil
    rw [hnil]
    rfl
  · rename_i hne
    have htexts : ((x.closings value names e).map ((fun t => Edit.insert x.delimiter
        (String.ofList t)) ∘ closingSource (escapeChars o.escaping value.toList))).map Edit.text =
          (x.closings value names e).map fun t =>
            String.ofList (closingSource (escapeChars o.escaping value.toList) t) := by
      rw [List.map_map]
      rfl
    rw [Edit.merged_insertions (o := x.delimiter) (by simpa using hne)
      (by simp [Edit.insert, Edit.isInsertion]), htexts, Edit.kept_eq_collapse,
      Edit.collapse_map hinjective, joinedClosing, ← join_map_ofList, List.map_map]
    · rfl
    · simp only [List.forall_mem_map, String.toList_ofList]
      intro a ha b hb hprefix
      rw [eq_of_closingSource (x.isName_of_closings value hnames ha)
        (x.isName_of_closings value hnames hb) hprefix]

theorem merged_planned (he : e.attributes = x.attributes) {o' : Nat} (ho : o' ≠ x.delimiter) :
    Edit.merged (Edit.startingAt o' (names.filterMap (x.planned o value e))) =
      Edit.merged (Edit.startingAt o' (Plan.changes o x.delimiter
        (String.ofList (escapeChars o.escaping value.toList)) x.attributes
        ((markAt (x.apart value names e) x.tag.attributes).map Prod.snd))) := by
  have hmem : ∀ edit : Edit, edit.start = o' → (edit ∈ names.filterMap (x.planned o value e) ↔
      edit ∈ Plan.changes o x.delimiter (String.ofList (escapeChars o.escaping value.toList))
        x.attributes ((markAt (x.apart value names e) x.tag.attributes).map Prod.snd)) := by
    intro edit hstart
    rw [x.mem_planned o value he, and_iff_left]
    exact hstart ▸ ho
  apply Edit.merged_startingAt_congr hmem
  -- the changes of different attributes start at different places
  intro a ha b hb hastart hbstart
  obtain ⟨i, c, hc, -, rfl⟩ := x.mem_changes_markAt.1 ((hmem a hastart).1 ha)
  obtain ⟨j, c', hc', -, rfl⟩ := x.mem_changes_markAt.1 ((hmem b hbstart).1 hb)
  obtain rfl := x.index_eq_of_start o _ hc hc' (hastart.trans hbstart.symm)
  rw [Option.some.inj (hc.symm.trans hc')]

end Site

/-- All edits made, whatever names are listed: what is inserted at the closing is joined, but for
what repeats the first of it at once. -/
theorem Site.applyEdits_joined {f : Flavor} {text : String}
    (x : Site f (Document.stripMark text.toList).1) (o : PlanOptions) (value : String)
    {e : Element} {names : List String} {tail : List Stretch} (he : e.attributes = x.attributes)
    (hnames : ∀ name ∈ names, IsName name.toList) (htail : Stretch.oldText tail = x.rest)
    (hedits : (Stretch.edits (x.delimiter + byteLength x.tag.closing.source) tail).Pairwise
      fun a b => a.start < b.start)
    (hbehind : ∀ edit ∈ Stretch.edits (x.delimiter + byteLength x.tag.closing.source) tail,
      x.delimiter < edit.start)
    (haccepted : ∃ scheduled, Edit.schedule text.toList (Edit.shiftPastMark text.toList
      (names.filterMap (x.planned o value e) ++
        Stretch.edits (x.delimiter + byteLength x.tag.closing.source) tail)) = .ok scheduled) :
    applyEdits text (Edit.shiftPastMark text.toList (names.filterMap (x.planned o value e) ++
        Stretch.edits (x.delimiter + byteLength x.tag.closing.source) tail)) =
      .ok (String.ofList (Stretch.mark text.toList ++
        x.joinedText o value names e (Stretch.newText tail))) := by
  have hms := map_fst_markAt (x.apart value names e) x.tag.attributes
  have hchanges := x.changes_eq o (escapeChars o.escaping value.toList) hms
  -- the same edits, with one insertion at the closing
  obtain ⟨inserted, hinserted, hflatten, hpairwise⟩ : ∃ inserted : List (List Char),
      Edit.merged (Edit.startingAt x.delimiter (names.filterMap (x.planned o value e))) =
        Edit.merged (inserted.map fun t => .insert x.delimiter (String.ofList t)) ∧
      inserted.flatten = x.joinedClosing o value names e ∧
      inserted.Pairwise fun a b => ¬a <+: b := by
    rw [x.merged_closing o value he hnames]
    split
    · rename_i hnil
      exact ⟨[], rfl, by rw [joinedClosing, hnil]; rfl, List.Pairwise.nil⟩
    · exact ⟨[_], rfl, List.append_nil _, List.pairwise_singleton _ _⟩
  have hfront : ∀ edit ∈ Plan.changes o x.delimiter
      (String.ofList (escapeChars o.escaping value.toList)) x.attributes
      ((markAt (x.apart value names e) x.tag.attributes).map Prod.snd),
        edit.start < x.delimiter := by
    intro edit hedit
    obtain ⟨hmem, hstart⟩ := (x.mem_planned o value he).1 hedit
    obtain ⟨b, -, hplanned⟩ := List.mem_filterMap.1 hmem
    have hbounds := x.planned_bounds o value he hplanned
    omega
  have hdistinct : Stretch.Distinct (x.stretches o.quotes (escapeChars o.escaping value.toList)
      (markAt (x.apart value names e) x.tag.attributes) inserted tail) :=
    x.distinct_stretches hms hpairwise (fun _ => hchanges ▸ hfront) hedits hbehind
  have hsingle := x.applyEdits_site rfl hms hdistinct htail fun _ => rfl
  rw [hflatten] at hsingle
  refine Edit.applyEdits_of_merged haccepted hsingle fun k => ?_
  rw [x.edits_parts hms, ← hchanges]
  refine Edit.merged_parts ?_ hfront (by simp [Edit.insert]) hbehind
    (fun o' ho => x.merged_planned o value he ho) hinserted k
  intro edit hedit
  obtain ⟨b, -, hplanned⟩ := List.mem_filterMap.1 hedit
  obtain ⟨hle, hstop⟩ := x.planned_bounds o value he hplanned
  exact Nat.le_trans hle hstop

namespace Site

variable {f : Flavor} {s : List Char} (x : Site f s) (o : PlanOptions) (value : String)
  {e : Element} {names : List String} {b : String}

theorem closings_eq
    (h : ∀ front b back, names = front ++ b :: back → x.Late value e b → e.missing f front = []) :
    ∃ k, x.closings value names e = List.replicate k none ++ (e.missing f names).map some := by
  induction names using List.reverseRecOn with
  | nil => exact ⟨0, rfl⟩
  | append_singleton names b ih =>
    obtain ⟨k, hk⟩ := ih fun front c back hsplit =>
      h front c (back ++ [b]) (by rw [hsplit, List.append_assoc, List.cons_append])
    have hmissing : e.missing f (names ++ [b]) = e.missing f names ++ e.missing f [b] :=
      List.filter_append _ _
    rw [closings_append, hmissing, hk]
    by_cases hlate : x.Late value e b
    · have hnone := h names b [] rfl hlate
      refine ⟨k + 1, ?_⟩
      rw [hnone, x.missing_late value hlate, List.replicate_succ']
      simp [closings, x.closing?_late value hlate]
    · refine ⟨k, ?_⟩
      cases hfind : e.findAttribute f b with
      | none => simp [closings, x.closing?_missing value hfind, Element.missing, hfind]
      | some found =>
        have hnone := x.closing?_of_found value (by simp [hfind]) hlate
        simp [closings, hnone, Element.missing, hfind]

def newNames (names : List String) (e : Element) : List String :=
  (Edit.collapse (x.closings value names e)).reduceOption

def joinedTag (names : List String) (e : Element) : StartTag :=
  x.tag.update o.quotes (escapeChars o.escaping value.toList)
    (markAt (e.differs f names value) x.tag.attributes)
    ((x.newNames value names e).map String.toList)

theorem mem_newNames (hb : b ∈ x.newNames value names e) :
    b ∈ names ∧ e.findAttribute f b = none :=
  (x.some_mem_closings value).1 (Edit.collapse_subset _ (List.reduceOption_mem_iff.1 hb))

/-- With the value of the bare attribute in front, the text is that of the tag with its attributes
set. -/
theorem joinedText_eq_update (he : e.attributes = x.attributes)
    (h : ∀ front b back, names = front ++ b :: back → x.Late value e b → e.missing f front = [])
    (u : List Char) :
    x.joinedText o value names e u = x.rewrite (x.joinedTag o value names e) u := by
  obtain ⟨k, hk⟩ := x.closings_eq value h
  rw [joinedText, joinedClosing, joinedTag, newNames, x.rewrite_update, hk]
  cases k with
  | zero =>
    have hnone : ∀ b ∈ names, ¬x.Late value e b := by
      intro b hb hlate
      have hmem : none ∈ x.closings value names e :=
        List.mem_filterMap.2 ⟨b, hb, x.closing?_late value hlate⟩
      simp [hk] at hmem
    rw [x.apart_eq value hnone, List.replicate_zero, List.nil_append,
      Edit.collapse_map (Option.some_injective _)]
    simp [List.reduceOption, closingSource, Function.comp_def]
  | succ k =>
    -- behind the bare attribute its value comes first, whatever is joined to it
    have hlate : none ∈ x.closings value names e := by simp [hk]
    obtain ⟨b, hb, hclosing⟩ := List.mem_filterMap.1 hlate
    rcases x.closing?_cases value hclosing with ⟨-, hcb⟩ | ⟨hlate, -⟩
    · cases hcb
    obtain ⟨before, w, -, hassign, hgap, hdiffers, hapart⟩ := x.marks_of_late value he hb hlate
    have hhead : ∀ c ∈ ((e.missing f names).map some).head?, c ≠ none := by
      intro c hc
      obtain ⟨b, -, rfl⟩ := List.mem_map.1 (List.mem_of_mem_head? hc)
      exact Option.some_ne_none b
    rw [Edit.collapse_replicate_append hhead, hapart, hdiffers, setMarked_concat, setMarked_concat,
      StartTag.gapBehind_nil hgap, StartTag.gapBehind_nil hgap, List.flatMap_append,
      List.flatMap_append, List.flatMap_singleton, List.flatMap_singleton,
      source_make_bare hassign]
    simp [List.reduceOption, closingSource, Function.comp_def]

theorem head_joinedClosing (he : e.attributes = x.attributes) (hnil : x.tag.attributes = []) :
    ∀ c ∈ (x.joinedClosing o value names e).head?, c = ' ' := by
  rw [joinedClosing]
  cases hclosings : Edit.collapse (x.closings value names e) with
  | nil => simp
  | cons t ts =>
    have hmem : t ∈ x.closings value names e :=
      Edit.collapse_subset _ (hclosings ▸ List.mem_cons_self)
    obtain ⟨b, -, hclosing⟩ := List.mem_filterMap.1 hmem
    rcases x.closing?_cases value hclosing with ⟨-, rfl⟩ | ⟨⟨i, a, hfind, -⟩, -⟩
    · rintro c ⟨⟩
      rfl
    · have ha := (Element.getElem_of_findAttribute hfind).1
      rw [he, attributes, hnil] at ha
      cases ha

theorem head_joinedText (he : e.attributes = x.attributes) {u : List Char} (hs : x.tag.Sound u) :
    ∀ c ∈ ((setMarked o.quotes (escapeChars o.escaping value.toList) false
        (markAt (x.apart value names e) x.tag.attributes)).flatMap WrittenAttribute.source ++
      (x.tag.gapBehind (markAt (x.apart value names e) x.tag.attributes) ++
        (x.joinedClosing o value names e ++ (x.tag.closing.source ++ u)))).head?,
      endsTagName c = true := by
  have hms := map_fst_markAt (x.apart value names e) x.tag.attributes
  refine StartTag.head_update hs hms _ fun hempty => ?_
  have hnil : x.tag.attributes = [] := by rw [← hms, hempty]; rfl
  have hbehind := hs.behind
  rw [hnil, List.flatMap_nil, List.nil_append, List.append_assoc] at hbehind
  intro c hc
  cases hgap : x.tag.gap with
  | cons d gap =>
    rw [hgap] at hc hbehind
    exact hbehind c hc
  | nil =>
    rw [hgap, List.nil_append] at hc hbehind
    have hhead : ∀ c ∈ (x.joinedClosing o value names e).head?, c = ' ' :=
      x.head_joinedClosing o value he hnil
    cases hjoined : x.joinedClosing o value names e with
    | nil =>
      rw [hjoined] at hc
      exact hbehind c hc
    | cons d joined =>
      rw [hjoined] at hc hhead
      rw [hhead c hc]
      rfl

end Site

namespace Site

variable {f : Flavor} {text : String} (x : Site f (Document.stripMark text.toList).1)
  (o : PlanOptions) (value : String) {e : Element} {names : List String}

theorem sound_joinedTag (he : e.attributes = x.attributes)
    (hnames : ∀ name ∈ names, IsName name.toList) (h : ¬Plan.Swallowed f e names value) :
    (x.joinedTag o value names e).Sound x.rest := by
  refine StartTag.sound_update x.sound (map_fst_markAt _ _)
    (quotable_escapeChars o.escaping value.toList) ?_ ?_
  · intro name hname
    obtain ⟨b, hb, rfl⟩ := List.mem_map.1 hname
    exact hnames b (x.mem_newNames value hb).1
  · intro hne
    obtain ⟨_, hmem⟩ := List.exists_mem_of_ne_nil _ hne
    obtain ⟨b, hb, rfl⟩ := List.mem_map.1 hmem
    obtain ⟨hmem, hnone⟩ := x.mem_newNames value hb
    have hmissing : b ∈ e.missing f names := List.mem_filter.2 ⟨hmem, by simp [hnone]⟩
    exact isOpen_updated value o he h (List.ne_nil_of_mem hmissing)

theorem exists_element_joined (names : List String) (he : e.attributes = x.attributes)
    {u : List Char} (hs : x.tag.Sound u) :
    ∃ e', (Document.parse f (String.ofList (Stretch.mark text.toList ++
      x.joinedText o value names e u))).element? x.id = some e' := by
  obtain ⟨e', he', -⟩ := x.element_behind (x.head_joinedText o value he hs)
  exact ⟨e', he'⟩

end Site
end MarkupSplice
