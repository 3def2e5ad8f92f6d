import MarkupSplice.Proofs.Plan.Closing
import MarkupSplice.Proofs.Plan.Region

/-!
# Attributes of different names

New attributes are given to an element in the order of a list of names, and the
schedule drops a name that is listed again only right behind the first of all
that is inserted at the closing of the tag. So an element without two attributes
of one name gets a second one when a name is listed again with something else in
front of it, in other letters too (`attributes_distinct_iff`).
-/
namespace MarkupSplice
open Markup Text

def Element.Distinct (f : Flavor) (e : Element) : Prop :=
  e.attributes.Pairwise fun a b => f.namesMatch a.name b.name = false

namespace Plan

def AtClosing (f : Flavor) (n : Node) (e : Element) (value name : String) : Prop :=
  ∀ found ∈ e.findAttribute f name,
    found.2.value.getD "" ≠ value ∧ found.2.isBareAt (n.delimiterOffset e) = true

/-- Whether the name of a new attribute is listed again behind something else that is inserted at
the closing of the tag. -/
def Repeats (f : Flavor) (n : Node) (e : Element) (names : List String) (value : String) : Prop :=
  ∃ front b back, names = front ++ b :: back ∧ e.findAttribute f b = none ∧
    (∃ c ∈ front, f.namesMatch c b = true) ∧ ∃ t ∈ front, t ≠ b ∧ AtClosing f n e value t

end Plan

namespace Flavor

variable {f : Flavor} {a b c : String}

theorem namesMatch_congr (h : f.namesMatch b c = true) : f.namesMatch a b = f.namesMatch a c := by
  rw [Bool.eq_iff_iff, namesMatch_iff, namesMatch_iff, namesMatch_iff.1 h]

theorem namesMatch_normalize (a b : String) :
    f.namesMatch (f.normalize a) (f.normalize b) = f.namesMatch a b := by
  rw [Bool.eq_iff_iff, namesMatch_iff, namesMatch_iff, normalize_normalize, normalize_normalize]

end Flavor

namespace Element

variable {f : Flavor} {e : Element} {b c : String}

theorem findAttribute_eq_none :
    e.findAttribute f b = none ↔ ∀ a ∈ e.attributes, f.namesMatch a.name b = false := by
  have hfst : ∀ {P : Attribute → Prop}, (∀ p ∈ e.attributes.zipIdx, P p.1) ↔
      ∀ a ∈ e.attributes, P a := by
    intro P
    rw [← List.forall_mem_map (f := Prod.fst), List.zipIdx_map_fst]
  rw [findAttribute, Option.map_eq_none_iff, List.find?_eq_none, ← hfst]
  simp

theorem findAttribute_none_of_match (h : f.namesMatch c b = true)
    (hb : e.findAttribute f b = none) : e.findAttribute f c = none := by
  rw [findAttribute_eq_none] at hb ⊢
  intro a ha
  rw [Flavor.namesMatch_congr h]
  exact hb a ha

theorem distinct_behind {e' : Element} {new : List String} (h : e.Distinct f)
    (hnew : ∀ b ∈ new, e.findAttribute f b = none)
    (hnames : e'.attributes.map Attribute.name =
      e.attributes.map Attribute.name ++ new.map f.normalize) :
    e'.Distinct f ↔ new.Pairwise fun a b => f.namesMatch a b = false := by
  have hdistinct : ∀ e : Element, e.Distinct f ↔
      (e.attributes.map Attribute.name).Pairwise fun a b => f.namesMatch a b = false :=
    fun e => by rw [Distinct, List.pairwise_map]
  rw [hdistinct, hnames, List.pairwise_append, and_iff_right ((hdistinct e).1 h), and_iff_left,
    List.pairwise_map]
  · simp only [Flavor.namesMatch_normalize]
  · simp only [List.forall_mem_map]
    intro a ha b hb
    rw [← Flavor.namesMatch_congr (Flavor.namesMatch_iff.2 (Flavor.normalize_normalize f b).symm)]
    exact findAttribute_eq_none.1 (hnew b hb) a ha

end Element

namespace Site

variable {f : Flavor} {s : List Char} (x : Site f s) (value : String) {n : Node} {e : Element}
  {names : List String} {b : String}

theorem atClosing_iff (hdelimiter : n.delimiterOffset e = x.delimiter) :
    Plan.AtClosing f n e value b ↔ ∃ t, x.closing? value e b = some t := by
  rw [Plan.AtClosing, hdelimiter, closing?]
  cases e.findAttribute f b with
  | none => simp
  | some found => simp

theorem repeats_iff (hdelimiter : n.delimiterOffset e = x.delimiter) :
    Plan.Repeats f n e names value ↔
      ¬(x.newNames value names e).Pairwise fun a b => f.namesMatch a b = false := by
  have hpairwise := Edit.pairwise_collapse_iff (x.closings value names e)
    (R := fun a b => ∃ c ∈ a, ∃ d ∈ b, f.namesMatch c d = true)
  have hnot : (x.newNames value names e).Pairwise (fun a b => f.namesMatch a b = false) ↔
      (Edit.collapse (x.closings value names e)).Pairwise
        fun a b => ¬∃ c ∈ a, ∃ d ∈ b, f.namesMatch c d = true := by
    rw [newNames, List.reduceOption, List.pairwise_filterMap]
    simp
  rw [hnot, hpairwise, not_not]
  constructor
  · rintro ⟨front, b, back, rfl, hnone, ⟨c, hc, hmatch⟩, t, ht, hne, hat⟩
    obtain ⟨u, hu⟩ := (x.atClosing_iff value hdelimiter).1 hat
    have hcnone := Element.findAttribute_none_of_match hmatch hnone
    have hsplit : x.closings value (front ++ b :: back) e =
        x.closings value front e ++ some b :: x.closings value back e := by
      rw [closings_append, closings, closings, closings, List.filterMap_cons,
        x.closing?_missing value hnone]
    refine ⟨_, some b, _, hsplit, ⟨some c, ?_, c, rfl, b, rfl, hmatch⟩, u,
      List.mem_filterMap.2 ⟨t, ht, hu⟩, ?_⟩
    · exact (x.some_mem_closings value).2 ⟨hc, hcnone⟩
    · rintro rfl
      exact hne ((x.closing?_eq_some value).1 hu).2.symm
  · rintro ⟨_, _, _, hsplit, ⟨_, hc, c, rfl, b, rfl, hmatch⟩, u, hu, hne⟩
    obtain ⟨front, rest, rfl, rfl, hrest⟩ := List.filterMap_eq_append_iff.1 hsplit
    obtain ⟨between, d, back, rfl, -, hd, -⟩ := List.filterMap_eq_cons_iff.1 hrest
    obtain ⟨hnone, rfl⟩ := (x.closing?_eq_some value).1 hd
    obtain ⟨t, ht, htu⟩ := List.mem_filterMap.1 hu
    refine ⟨front ++ between, b, back, by simp, hnone, ⟨c, ?_, hmatch⟩, t,
      List.mem_append_left _ ht, ?_, (x.atClosing_iff value hdelimiter).2 ⟨u, htu⟩⟩
    · exact List.mem_append_left _ ((x.some_mem_closings value).1 hc).1
    · rintro rfl
      exact hne (Option.some.inj (htu.symm.trans hd))

end Site

namespace Site

variable {f : Flavor} {text : String} (x : Site f (Document.stripMark text.toList).1)
  (o : PlanOptions) (value : String) {e : Element} {names : List String}

theorem distinct_joinedTag (he : e.attributes = x.attributes) (h : e.Distinct f)
    {e' : Element} (he' : e'.attributes = Growth.attributesOf f x.first
      (x.joinedTag o value names e).attributes) :
    e'.Distinct f ↔ (x.newNames value names e).Pairwise fun a b => f.namesMatch a b = false := by
  refine Element.distinct_behind h (fun b hb => ?_) ?_
  · exact (x.mem_newNames value hb).2
  · have hentries := congrArg (List.map Attribute.entry) he'
    rw [Growth.entries_attributesOf, joinedTag, x.entries_update o value he] at hentries
    have hnames := congrArg (List.map Prod.fst) hentries
    rw [List.map_append, Element.map_fst_entriesMarked, List.map_map, List.map_map] at hnames
    exact hnames

end Site

/-- An element without two attributes of one name is still without them, unless the name of a new
one is listed again with something else in front of it. -/
theorem attributes_distinct_iff {f : Flavor} {text : String} {id : Nat} {n : Node} {e : Element}
    {names : List String} (hn : (Document.parse f text).nodes[id]? = some n)
    (he : n.element? = some e) (hdistinct : e.Distinct f)
    (hnames : ∀ name ∈ names, IsName name.toList) (o : PlanOptions) (value : String) :
    ∃ edits text' e', Plan.element o (Document.parse f text) id names value = .ok edits ∧
      applyEdits text (Edit.shiftPastMark text.toList edits) = .ok text' ∧
      (Document.parse f text').element? id = some e' ∧
      (¬Plan.Swallowed f e names value → ¬Plan.Misordered f n e names value →
        (e'.Distinct f ↔ ¬Plan.Repeats f n e names value)) := by
  obtain ⟨x, rfl, hhead⟩ := exists_site_parse hn he
  obtain ⟨hattributes, -, -⟩ := x.attributes_of_head hhead rfl he
  obtain ⟨tail, hold, hedits, hempty⟩ := x.exists_cleared
  have hplan : Plan.element o (Document.parse f text) x.id names value = .ok _ :=
    x.element_planned o value hn hhead he hedits
  have haccepted : ∃ scheduled, Edit.schedule text.toList (Edit.shiftPastMark text.toList
      (names.filterMap (x.planned o value e) ++
        Stretch.edits (x.delimiter + byteLength x.tag.closing.source) tail)) = .ok scheduled := by
    obtain ⟨edits, hplan', haccepted⟩ := Plan.exists_schedule f o text x.id names value
    obtain rfl := Except.ok.inj (hplan.symm.trans hplan')
    exact haccepted
  have hpairwise : (Stretch.edits (x.delimiter + byteLength x.tag.closing.source) tail).Pairwise
      fun a b => a.start < b.start := by
    rw [hedits]
    cases Plan.clearContent (Document.parse f text) x.id <;> simp
  have happly := x.applyEdits_joined o value hattributes hnames hold hpairwise
    (x.delimiter_lt_of_clearContent hold hedits) haccepted
  obtain ⟨e', he'⟩ := x.exists_element_joined o value names hattributes
    (hempty x.tag rfl rfl x.sound).1
  refine ⟨_, _, e', hplan, happly, he', fun hswallowed hmisordered => ?_⟩
  have hdelimiter := x.delimiterOffset_eq hhead he
  rw [x.misordered_iff value hdelimiter] at hmisordered
  have hgood : ∀ front b back, names = front ++ b :: back → x.Late value e b →
      e.missing f front = [] := by
    intro front b back hsplit hlate
    by_contra hne
    exact hmisordered ⟨front, b, back, hsplit, hlate, hne⟩
  obtain ⟨hsound, -⟩ := hempty (x.joinedTag o value names e) rfl rfl
    (x.sound_joinedTag o value hattributes hnames hswallowed)
  obtain ⟨e'', he'', hnew⟩ := x.element_rewrite (by rfl) hsound
  rw [x.joinedText_eq_update o value hattributes hgood] at he'
  obtain rfl := Option.some.inj (he'.symm.trans he'')
  rw [x.distinct_joinedTag o value hattributes hdistinct hnew, x.repeats_iff value hdelimiter,
    not_not]

theorem attributes_distinct_iff_repeated :
    ∃ edits text' e', Plan.element ⟨.html, .preserve⟩ (Document.parse .html "<a>") 0
        ["b", "c", "b"] "v" = .ok edits ∧
      applyEdits "<a>" (Edit.shiftPastMark "<a>".toList edits) = .ok text' ∧
      (Document.parse .html text').element? 0 = some e' ∧ ¬e'.Distinct .html := by
  let e : Element := ⟨"a", [], .bracket, none⟩
  let n : Node := ⟨.element e, ⟨⟨0, 1, 1⟩, ⟨3, 1, 4⟩⟩, "<a>", none⟩
  have hn : (Document.parse .html "<a>").nodes[0]? = some n := by decide +kernel
  have hdistinct : e.Distinct .html := List.Pairwise.nil
  have hnames : ∀ name ∈ ["b", "c", "b"], IsName name.toList := by decide
  have hswallowed : ¬Plan.Swallowed .html e ["b", "c", "b"] "v" := fun h => nomatch h.2.1
  have hordered : ¬Plan.Misordered .html n e ["b", "c", "b"] "v" := by
    rintro ⟨b, c, i, a, -, -, hfind, -⟩
    cases hfind
  have hrepeats : Plan.Repeats .html n e ["b", "c", "b"] "v" :=
    ⟨["b", "c"], "b", [], rfl, rfl, ⟨"b", by simp, by decide +kernel⟩, "c", by simp, by decide,
      fun found hfound => nomatch hfound⟩
  obtain ⟨edits, text', e', hplan, happly, he', hiff⟩ :=
    attributes_distinct_iff hn rfl hdistinct hnames ⟨.html, .preserve⟩ "v"
  exact ⟨edits, text', e', hplan, happly, he', fun h => (hiff hswallowed hordered).1 h hrepeats⟩

example : (Plan.element ⟨.html, .preserve⟩ (Document.parse .html "<a>") 0 ["b", "B"] "v").bind
    (applyEdits "<a>") = .ok "<a b=\"v\" B=\"v\">" := by
  decide +kernel

end MarkupSplice
