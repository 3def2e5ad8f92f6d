import MarkupSplice.Proofs.Plan.Rewriting
import MarkupSplice.Proofs.Text.Ascii

/-!
# Elements and their start tags

What planning reads off an element, its attributes and the offset of its
closing, is found in the start tag at its site (`attributes_of_head`), and the
edits planned for single attributes are the ones that the marks of the tag
stand for (`mem_changes`).
-/
namespace MarkupSplice
open Markup Text

namespace Flavor

variable {f : Flavor} {a b : String}

theorem namesMatch_iff : f.namesMatch a b = true ↔ f.normalize a = f.normalize b := by
  cases f <;> simp [namesMatch, normalize]

@[simp] theorem normalize_normalize (f : Flavor) (a : String) :
    f.normalize (f.normalize a) = f.normalize a := by
  cases f with
  | xml => rfl
  | html =>
    rw [← String.toList_inj]
    simp only [normalize, foldName, String.toList_map, List.map_map]
    exact List.map_congr_left fun c _ => toLower_toLower c

theorem lower_of_normalize (h : f.normalize a = f.normalize b) :
    a.toList.map Char.toLower = b.toList.map Char.toLower := by
  cases f with
  | xml =>
    obtain rfl : a = b := h
    rfl
  | html =>
    have hlist := congrArg String.toList h
    simpa only [normalize, foldName, String.toList_map] using hlist

end Flavor

namespace Element

variable {f : Flavor} {e : Element} {name : String} {i : Nat} {a : Attribute}

theorem getElem_of_findAttribute (h : e.findAttribute f name = some (i, a)) :
    e.attributes[i]? = some a ∧ f.namesMatch a.name name = true ∧
      ∀ j < i, ∀ b ∈ e.attributes[j]?, f.namesMatch b.name name = false := by
  obtain ⟨⟨a', i'⟩, hfind, he⟩ := Option.map_eq_some_iff.1 h
  obtain ⟨rfl, rfl⟩ := Prod.mk.inj he
  obtain ⟨hmatch, k, hk, hget, hfront⟩ := List.find?_eq_some_iff_getElem.1 hfind
  rw [List.getElem_zipIdx, Prod.mk.injEq, Nat.zero_add] at hget
  obtain ⟨rfl, rfl⟩ := hget
  refine ⟨List.getElem?_eq_getElem _, hmatch, ?_⟩
  intro j hj b hb
  obtain ⟨hlt, rfl⟩ := List.getElem?_eq_some_iff.1 (Option.mem_def.1 hb)
  simpa using hfront j hj

end Element

namespace Growth

@[simp] theorem length_attributesOf (f : Flavor) (p : Position) (as : List WrittenAttribute) :
    (attributesOf f p as).length = as.length := by
  induction as generalizing p with
  | nil => rfl
  | cons a as ih => simp [attributesOf, ih]

theorem getElem_attributesOf (f : Flavor) (p : Position) (as : List WrittenAttribute)
    (i : Nat) : ∃ p', (attributesOf f p as)[i]? = as[i]?.map (attributeOf f p') := by
  induction as generalizing p i with
  | nil => exact ⟨p, rfl⟩
  | cons a as ih =>
    cases i with
    | zero => exact ⟨p, rfl⟩
    | succ i => simpa [attributesOf] using ih (p.advance a.source) i

theorem split_of_getElem {f : Flavor} {p : Position} {as : List WrittenAttribute} {i : Nat}
    {a : Attribute} (h : (attributesOf f p as)[i]? = some a) :
    ∃ front w behind, as = front ++ w :: behind ∧ i = front.length ∧
      a = attributeOf f (p.advance (front.flatMap WrittenAttribute.source)) w := by
  induction as generalizing p i with
  | nil => cases h
  | cons b as ih =>
    cases i with
    | zero =>
      obtain rfl := Option.some.inj h
      exact ⟨[], b, as, rfl, rfl, rfl⟩
    | succ i =>
      obtain ⟨front, w, behind, rfl, rfl, ha⟩ := ih h
      refine ⟨b :: front, w, behind, rfl, rfl, ?_⟩
      rw [ha, List.flatMap_cons, Position.advance_append]

end Growth

theorem ofList_eq_empty {s : List Char} : String.ofList s = "" ↔ s = [] := by
  rw [← String.toList_inj]
  simp

theorem Markup.isOpen_attributeOf (f : Flavor) (p : Position) (b : WrittenAttribute) :
    (((Growth.attributeOf f p b).value == some "" && (Growth.attributeOf f p b).quote.isNone) ||
      ((Growth.attributeOf f p b).quote.isSome && !(Growth.attributeOf f p b).closed)) =
        b.isOpen := by
  obtain ⟨gap, name, assignment⟩ := b
  cases assignment with
  | none => rfl
  | some g =>
    obtain ⟨before, after, value⟩ := g
    cases value with
    | quoted q s closed =>
      simp [Growth.attributeOf, WrittenAttribute.isOpen, WrittenValue.quote?, WrittenValue.isClosed]
    | unquoted s =>
      have hempty : (some (String.ofList (unescapeChars s)) == some "") = s.isEmpty := by
        rw [Bool.eq_iff_iff, beq_iff_eq, Option.some.injEq, ofList_eq_empty, unescapeChars_eq_nil,
          List.isEmpty_iff]
      exact (Bool.or_false _).trans ((Bool.and_true _).trans hempty)

theorem Markup.isEmpty_attributeOf {f : Flavor} {p : Position} {b : WrittenAttribute} :
    (Growth.attributeOf f p b).value = some "" ↔ b.isEmpty = true := by
  obtain ⟨gap, name, assignment⟩ := b
  cases assignment with
  | none => simp [Growth.attributeOf, WrittenAttribute.isEmpty]
  | some g =>
    simp [Growth.attributeOf, WrittenAttribute.isEmpty, unescapeChars_eq_nil]

def Markup.markAt (mark : Nat → Bool) (as : List WrittenAttribute) : List Marked :=
  as.zipIdx.map fun p => (p.1, mark p.2)

theorem Markup.map_fst_markAt (mark : Nat → Bool) (as : List WrittenAttribute) :
    (markAt mark as).map Prod.fst = as := by
  rw [markAt, List.map_map]
  exact List.zipIdx_map_fst 0 as

theorem Markup.getElem_markAt (mark : Nat → Bool) (as : List WrittenAttribute) (k : Nat) :
    (markAt mark as)[k]? = as[k]?.map fun a => (a, mark k) := by
  simp [markAt, List.getElem?_zipIdx, Function.comp_def]

theorem Markup.mem_markAt {mark : Nat → Bool} {as : List WrittenAttribute} {m : Marked} :
    m ∈ markAt mark as ↔ ∃ k w, as[k]? = some w ∧ m = (w, mark k) := by
  simp only [List.mem_iff_getElem?, getElem_markAt, Option.map_eq_some_iff, eq_comm (a := m)]

theorem Markup.markAt_append (mark : Nat → Bool) (as bs : List WrittenAttribute) :
    markAt mark (as ++ bs) = markAt mark as ++ markAt (fun i => mark (as.length + i)) bs := by
  apply List.ext_getElem?
  intro k
  have hlength : (markAt mark as).length = as.length := by simp [markAt]
  by_cases hk : k < as.length
  · rw [List.getElem?_append_left (by omega), getElem_markAt, getElem_markAt,
      List.getElem?_append_left hk]
  · rw [List.getElem?_append_right (by omega), getElem_markAt, getElem_markAt, hlength,
      List.getElem?_append_right (by omega), Nat.add_sub_cancel' (Nat.le_of_not_lt hk)]

theorem Markup.markAt_concat (mark : Nat → Bool) (as : List WrittenAttribute)
    (a : WrittenAttribute) : markAt mark (as ++ [a]) = markAt mark as ++ [(a, mark as.length)] :=
  markAt_append mark as [a]

namespace Plan

theorem mem_changes {o : PlanOptions} {stop : Nat} {escaped : String} {as : List Attribute}
    {sets : List Bool} {edit : Edit} :
    edit ∈ changes o stop escaped as sets ↔ ∃ i a, as[i]? = some a ∧ sets[i]? = some true ∧
      edit = changeAt o ((as[i + 1]?).map fun b => b.nameRange.start.offset) stop a escaped := by
  induction as generalizing sets with
  | nil => simp [changes]
  | cons a as ih =>
    cases sets with
    | nil => simp [changes]
    | cons set sets =>
      rw [changes, List.mem_append, ih]
      constructor
      · rintro (h | ⟨i, b, hb, hset, hedit⟩)
        · cases set with
          | false => cases h
          | true =>
            rw [List.head?_eq_getElem?] at h
            exact ⟨0, a, rfl, rfl, List.mem_singleton.1 h⟩
        · exact ⟨i + 1, b, hb, hset, hedit⟩
      · rintro ⟨i, b, hb, hset, hedit⟩
        cases i with
        | zero =>
          obtain rfl := Option.some.inj hb
          obtain rfl : set = true := Option.some.inj hset
          left
          rw [List.head?_eq_getElem?]
          exact List.mem_singleton.2 hedit
        | succ i => exact Or.inr ⟨i, b, hb, hset, hedit⟩

end Plan

theorem eq_singleton_of_pairwise {es : List Edit} {e : Edit}
    (h : es.Pairwise fun a b => a.start < b.start) (he : e ∈ es) (hall : ∀ e' ∈ es, e' = e) :
    es = [e] := by
  cases es with
  | nil => cases he
  | cons a es =>
    obtain rfl := hall a List.mem_cons_self
    cases es with
    | nil => rfl
    | cons b es =>
      have hlt := (List.pairwise_cons.1 h).1 b List.mem_cons_self
      rw [hall b (by simp)] at hlt
      exact absurd hlt (Nat.lt_irrefl _)

namespace Site

variable {f : Flavor} {s : List Char} (x : Site f s) {n : Node} {e : Element}

theorem exists_element {t : StartTag} (h : n.head = x.growth.elementNode t none) :
    ∃ e, n.element? = some e := by
  have helement := congrArg Node.isElement h
  rw [Node.isElement_head] at helement
  exact Option.isSome_iff_exists.1 helement

theorem attributes_of_head {t : StartTag} (h : n.head = x.growth.elementNode t none)
    (hn : t.name = x.tag.name) (he : n.element? = some e) :
    e.attributes = Growth.attributesOf f x.first t.attributes ∧ e.closing = t.closing ∧
      n.range = ⟨x.growth.place, x.growth.place.advance t.source⟩ := by
  obtain ⟨kind, range, source, parent⟩ := n
  cases kind with
  | element e' =>
    obtain rfl : e' = e := by simpa [Node.element?] using he
    simp only [Node.head, Growth.elementNode, Growth.leafNode, Node.mk.injEq,
      NodeKind.element.injEq, Element.mk.injEq, flavor_growth, place_growth, hn] at h
    obtain ⟨⟨-, hattributes, hclosing, -⟩, hrange, -⟩ := h
    refine ⟨?_, hclosing, by rw [hrange, place_growth]⟩
    rw [hattributes, first, lead, Position.advance_append]
  | _ => cases he

theorem name_of_head (h : n.head = x.head) (he : n.element? = some e) :
    e.name = f.normalize (String.ofList x.tag.name) := by
  obtain ⟨kind, range, source, parent⟩ := n
  cases kind with
  | element e' =>
    obtain rfl := Option.some.inj he
    simp only [Node.head, head, Growth.elementNode, Growth.leafNode, Growth.nameOf,
      flavor_growth, Node.mk.injEq, NodeKind.element.injEq, Element.mk.injEq] at h
    exact h.1.1
  | _ => cases he

theorem stop_of_head (h : n.head = x.head) (he : n.element? = some e) :
    n.range.stop.offset = x.delimiter + byteLength x.tag.closing.source := by
  obtain ⟨-, -, hrange⟩ := x.attributes_of_head h rfl he
  rw [hrange, place_growth, Position.offset_advance, Position.offset_advance, delimiter, lead]
  simp [StartTag.source, Position.origin, Nat.add_assoc]

theorem delimiterOffset_eq (h : n.head = x.head) (he : n.element? = some e) :
    n.delimiterOffset e = x.delimiter := by
  obtain ⟨-, hclosing, -⟩ := x.attributes_of_head h rfl he
  have hsize : ('>' : Char).utf8Size = 1 ∧ ('/' : Char).utf8Size = 1 := ⟨rfl, rfl⟩
  unfold Node.delimiterOffset
  rw [hclosing, x.stop_of_head h he]
  cases x.tag.closing <;> simp [Closing.source, hsize]

def change (o : PlanOptions) (escaped : List Char) (i : Nat) (a : Attribute) : Edit :=
  Plan.changeAt o ((x.attributes[i + 1]?).map fun b => b.nameRange.start.offset) x.delimiter a
    (String.ofList escaped)

theorem mem_changes_markAt {o : PlanOptions} {escaped : List Char} {mark : Nat → Bool}
    {edit : Edit} :
    edit ∈ Plan.changes o x.delimiter (String.ofList escaped) x.attributes
        ((markAt mark x.tag.attributes).map Prod.snd) ↔
      ∃ i a, x.attributes[i]? = some a ∧ mark i = true ∧ edit = x.change o escaped i a := by
  have hmark : ∀ {i a}, x.attributes[i]? = some a →
      (((markAt mark x.tag.attributes).map Prod.snd)[i]? = some true ↔ mark i = true) := by
    intro i a ha
    obtain ⟨p, hp⟩ := Growth.getElem_attributesOf f x.first x.tag.attributes i
    rw [attributes, hp] at ha
    obtain ⟨w, hw, -⟩ := Option.map_eq_some_iff.1 ha
    simp [getElem_markAt, hw]
  rw [Plan.mem_changes]
  constructor
  · rintro ⟨i, a, ha, hset, hedit⟩
    exact ⟨i, a, ha, (hmark ha).1 hset, hedit⟩
  · rintro ⟨i, a, ha, hset, hedit⟩
    exact ⟨i, a, ha, (hmark ha).2 hset, hedit⟩

theorem pairwise_changes (o : PlanOptions) (escaped : List Char) {ms : List Marked}
    (hms : ms.map Prod.fst = x.tag.attributes) :
    (Plan.changes o x.delimiter (String.ofList escaped) x.attributes (ms.map Prod.snd)).Pairwise
      fun a b => a.start < b.start := by
  rw [x.changes_eq o escaped hms]
  exact pairwise_tagStretches (x.sound_marked hms) _

theorem changes_markAt (o : PlanOptions) (escaped : List Char) {i : Nat} {a : Attribute}
    (ha : x.attributes[i]? = some a) :
    Plan.changes o x.delimiter (String.ofList escaped) x.attributes
        ((markAt (· == i) x.tag.attributes).map Prod.snd) = [x.change o escaped i a] := by
  refine eq_singleton_of_pairwise
    (x.pairwise_changes o escaped (map_fst_markAt _ x.tag.attributes)) ?_ ?_
  · exact x.mem_changes_markAt.2 ⟨i, a, ha, beq_self_eq_true i, rfl⟩
  · intro edit hedit
    obtain ⟨j, b, hb, hj, rfl⟩ := x.mem_changes_markAt.1 hedit
    obtain rfl := beq_iff_eq.1 hj
    obtain rfl := Option.some.inj (ha.symm.trans hb)
    rfl

end Site

theorem exists_site_parse {f : Flavor} {text : String} {id : Nat} {n : Node} {e : Element}
    (hn : (Document.parse f text).nodes[id]? = some n) (he : n.element? = some e) :
    ∃ x : Site f (Document.stripMark text.toList).1, x.id = id ∧ n.head = x.head := by
  refine exists_site ?_ (by rw [Node.isElement, he]; rfl)
  rw [Document.nodes_parse] at hn
  simpa using hn

theorem unescape_escapeChars (f : Flavor) (value : String) :
    String.ofList (unescapeChars (escapeChars f value.toList)) = legal f value := by
  rw [unescapeChars_escapeChars, legal]

namespace Site

variable {f : Flavor} {text : String} (x : Site f (Document.stripMark text.toList).1)

theorem node_rewrite {t : StartTag} {u : List Char} (hn : t.name = x.tag.name)
    (hs : t.Sound u) :
    ∃ n e, (Document.parse f (String.ofList (Stretch.mark text.toList ++ x.rewrite t u))).nodes[
        x.id]? = some n ∧ n.head = x.growth.elementNode t none ∧ n.element? = some e ∧
      e.attributes = Growth.attributesOf f x.first t.attributes := by
  obtain ⟨n, hmem, hhead⟩ := x.head_rewrite hn hs
  obtain ⟨e, he⟩ := x.exists_element hhead
  refine ⟨n, e, ?_, hhead, he, (x.attributes_of_head hhead hn he).1⟩
  rw [x.nodes_parse_rewrite, ← Array.getElem?_toList]
  exact hmem

theorem element_rewrite {t : StartTag} {u : List Char} (hn : t.name = x.tag.name)
    (hs : t.Sound u) :
    ∃ e, (Document.parse f (String.ofList (Stretch.mark text.toList ++ x.rewrite t u))).element?
        x.id = some e ∧ e.attributes = Growth.attributesOf f x.first t.attributes := by
  obtain ⟨n, e, hnode, -, he, hattributes⟩ := x.node_rewrite hn hs
  refine ⟨e, ?_, hattributes⟩
  rw [Document.element?, hnode]
  exact he

theorem exists_rewrite {y : List Char} (hy : ∀ c ∈ y.head?, endsTagName c = true) :
    ∃ (t : StartTag) (u : List Char), t.name = x.tag.name ∧ t.Sound u ∧
      x.lead ++ y = x.rewrite t u ∧ t.attributes = (readAttributes y).1 := by
  have hname : ∀ c ∈ x.tag.name, (!endsTagName c) = true := fun c hc => by
    simp [x.sound.name c hc]
  have hstop : ∀ c ∈ y.head?, (!endsTagName c) = false := fun c hc => by simp [hy c hc]
  have hread : (readStartTag (x.tag.name ++ y)).1 = ⟨x.tag.name, (readAttributes y).1,
      (readAttributes y).2.1, (readAttributes y).2.2.1⟩ := by
    unfold readStartTag
    rw [takeWhile_append_of_stop hname hstop, dropWhile_append_of_stop hname hstop]
  have hsource := source_readStartTag (x.tag.name ++ y)
  have hsound := sound_readStartTag (x.tag.name ++ y)
  rw [hread] at hsource hsound
  refine ⟨⟨x.tag.name, (readAttributes y).1, (readAttributes y).2.1, (readAttributes y).2.2.1⟩,
    (readStartTag (x.tag.name ++ y)).2, rfl, hsound, ?_, rfl⟩
  rw [rewrite, hsource, lead, List.append_assoc]
  rfl

theorem element_behind {y : List Char} (hy : ∀ c ∈ y.head?, endsTagName c = true) :
    ∃ e, (Document.parse f (String.ofList (Stretch.mark text.toList ++ (x.lead ++ y)))).element?
        x.id = some e ∧ e.attributes = Growth.attributesOf f x.first (readAttributes y).1 := by
  obtain ⟨t, u, hname, hsound, hrewrite, hattributes⟩ := x.exists_rewrite hy
  obtain ⟨e, he, hentries⟩ := x.element_rewrite hname hsound
  rw [hrewrite, ← hattributes]
  exact ⟨e, he, hentries⟩

end Site

theorem Document.entries_of_outlines {d d' : Document} {id : Nat} {e e' : Element}
    {k : List (String × Option String) → List (String × Option String)}
    (he : d.element? id = some e) (he' : d'.element? id = some e')
    (h : d'.outlines = d.outlines.modify id (Outline.mapEntries k)) :
    e'.attributes.map Attribute.entry = k (e.attributes.map Attribute.entry) := by
  have houtline : ∀ {d : Document} {e : Element}, d.element? id = some e →
      ∃ parent, d.outlines[id]? = some ⟨parent, .element e.name (e.attributes.map Attribute.entry)
        e.closing e.endTag.isSome⟩ := by
    intro d e he
    obtain ⟨⟨kind, range, source, parent⟩, hn, hkind⟩ := Option.bind_eq_some_iff.1 he
    cases kind with
    | element e'' =>
      cases hkind
      refine ⟨parent, ?_⟩
      rw [outlines, List.getElem?_map, Array.getElem?_toList, hn]
      rfl
    | _ => cases hkind
  obtain ⟨parent, hold⟩ := houtline he
  obtain ⟨parent', hnew⟩ := houtline he'
  have hget := congrArg (fun os => os[id]?) h
  simp only [hnew, List.getElem?_modify_eq, hold, Option.map_eq_map, Option.map_some,
    Outline.mapEntries, Option.some.injEq, Outline.mk.injEq, Content.element.injEq] at hget
  exact hget.2.2.1

end MarkupSplice
