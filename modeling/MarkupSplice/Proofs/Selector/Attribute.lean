import Mathlib.Data.List.Find
import MarkupSplice.Proofs.Selector.Common
import MarkupSplice.Proofs.Plan.Element

/-!
# Selecting by the value of an attribute

CSS and `id:` look at the first attribute of the name, the one that planning
edits; a comparison in XPath holds when it holds of one of them. On documents
without repeated attributes this comes to the same (`select_equal`).
-/
namespace MarkupSplice
open Markup Text

namespace Element

def firstIs (f : Flavor) (name value : String) (e : Element) : Bool :=
  (e.findAttribute f name).any fun a => a.2.value.getD "" == value

def someIs (f : Flavor) (name value : String) (e : Element) : Bool :=
  e.attributes.any fun a => f.namesMatch a.name name && a.value.getD "" == value

variable {f : Flavor} {name value : String} {e : Element}

theorem firstIs_eq_find (f : Flavor) (name value : String) (e : Element) :
    e.firstIs f name value = (e.attributes.find? fun a => f.namesMatch a.name name).any
      fun a => a.value.getD "" == value := by
  rw [← map_snd_findAttribute, Option.any_map]
  rfl

theorem someIs_of_firstIs (h : e.firstIs f name value = true) : e.someIs f name value = true := by
  rw [firstIs_eq_find, Option.any_eq_true] at h
  obtain ⟨a, ha, hvalue⟩ := h
  have hmatch := List.find?_some ha
  exact List.any_eq_true.2 ⟨a, List.mem_of_find?_eq_some ha, by rw [hmatch, hvalue]; rfl⟩

end Element

def Document.elementsWhere (d : Document) (p : Element → Bool) : List Nat :=
  d.elements.filter fun id => (d.element? id).any p

namespace Document

section Lists

variable {d : Document} {p q : Element → Bool} {id : Nat}

theorem mem_elementsWhere :
    id ∈ d.elementsWhere p ↔ ∃ e, d.element? id = some e ∧ p e = true := by
  rw [elementsWhere, List.mem_filter, mem_elements, Option.any_eq_true]
  exact and_iff_right_of_imp fun ⟨e, he, _⟩ => isElement_of_element he

theorem elementsWhere_eq_iff :
    d.elementsWhere p = d.elementsWhere q ↔ ∀ id e, d.element? id = some e → p e = q e := by
  constructor
  · intro h id e he
    have hmem : ∀ {p : Element → Bool}, id ∈ d.elementsWhere p ↔ p e = true := by
      intro p
      rw [mem_elementsWhere, he]
      simp
    rw [Bool.eq_iff_iff, ← hmem, h, hmem]
  · intro h
    apply List.filter_congr
    intro id _
    cases he : d.element? id with
    | none => rfl
    | some e => exact h id e he

theorem head_elementsWhere_eq_iff (h : ∀ e, p e = true → q e = true) :
    (d.elementsWhere p).head? = (d.elementsWhere q).head? ↔
      ∀ id e, (d.elementsWhere q).head? = some id → d.element? id = some e → p e = true := by
  have hsub : d.elementsWhere p = (d.elementsWhere q).filter fun id => (d.element? id).any p := by
    rw [elementsWhere, elementsWhere, List.filter_filter]
    apply List.filter_congr
    intro id _
    cases d.element? id with
    | none => rfl
    | some e =>
      cases hp : p e with
      | false => simp [hp]
      | true => simp [hp, h e hp]
  constructor
  · intro heq id e hid he
    rw [← heq] at hid
    obtain ⟨e', he', hp⟩ := mem_elementsWhere.1 (List.mem_of_head? hid)
    obtain rfl := Option.some.inj (he.symm.trans he')
    exact hp
  · intro hall
    rw [hsub]
    cases hlist : d.elementsWhere q with
    | nil => rfl
    | cons id ids =>
      have hid : (d.elementsWhere q).head? = some id := by rw [hlist]; rfl
      obtain ⟨e, he, -⟩ := mem_elementsWhere.1 (List.mem_of_head? hid)
      rw [List.filter_cons, he, Option.any_some, if_pos (hall id e hid he)]
      rfl

end Lists

variable {f : Flavor} {text : String} {id : Nat} {e : Element} {a : Attribute}

theorem normalize_name (he : (parse f text).element? id = some e) (ha : a ∈ e.attributes) :
    f.normalize a.name = a.name := by
  obtain ⟨n, hn, hkind⟩ := Option.bind_eq_some_iff.1 he
  obtain ⟨x, -, hhead⟩ := exists_site_parse hn hkind
  obtain ⟨hattributes, -, -⟩ := x.attributes_of_head hhead rfl hkind
  obtain ⟨i, hi⟩ := List.mem_iff_getElem?.1 ha
  rw [hattributes] at hi
  obtain ⟨front, w, behind, -, -, rfl⟩ := Growth.split_of_getElem hi
  exact Flavor.normalize_normalize f _

theorem attribute?_eq {name : String} (hname : f.normalize name = name)
    (he : (parse f text).element? id = some e) :
    e.attribute? name = (e.findAttribute f name).map fun a => a.2.value.getD "" := by
  have hfind : (e.attributes.find? fun a => a.name == name) =
      e.attributes.find? fun a => f.namesMatch a.name name := by
    apply List.find?_congr
    intro a ha
    rw [Bool.eq_iff_iff, Flavor.namesMatch_iff, normalize_name he ha, hname, beq_iff_eq]
  rw [Element.attribute?, hfind, ← Element.map_snd_findAttribute, Option.map_map]
  rfl

end Document

namespace PlainName

def cssEqual (a : PlainName) (v : String) : String :=
  String.ofList ('[' :: (a.chars ++ '=' :: '\'' :: (Css.escape v.toList ++ ['\'', ']'])))

def xpathEqual (a : PlainName) (v : String) : String :=
  String.ofList ('/' :: '/' :: '*' :: '[' :: '@' ::
    (a.chars ++ '=' :: '\'' :: (v.toList ++ ['\'', ']'])))

variable {v : String}

theorem selectors_cssEqual (a : PlainName) (hv : '\'' ∉ v.toList) :
    Css.selectors (a.cssEqual v).toList =
      .ok [.compound [.attribute ⟨a.text, some (.exact, v), false⟩]] := by
  have htest := Css.attributeTest_exact a.isName hv []
  rw [String.ofList_toList] at htest
  rw [cssEqual, String.toList_ofList]
  refine Css.selectors_complex (fun b hb => ?_) (Css.complex_append
    (Css.compound_bracket htest _) (Css.joined_nil _))
  obtain rfl := Option.some.inj hb
  decide

theorem expression_equal (n : Nat) (name value : String) (ts : List XPath.Token) :
    Yields (XPath.expression (n + 1)
      (.at :: .name name :: .equal :: .literal value :: .rightBracket :: ts))
      (.compare .equal (XPath.attributesNamed name) (.literal value)) (.rightBracket :: ts) := by
  have hleft : Yields (XPath.path (some (XPath.expression n)) (.at :: .name name :: _))
      (XPath.attributesNamed name) (.equal :: .literal value :: .rightBracket :: ts) :=
    XPath.path_attribute name (XPath.endsSteps_of_head .equal ⟨nofun, nofun⟩ _) nofun nofun
  have hright : Yields (XPath.path (some (XPath.expression n)) _) (.literal value)
      (.rightBracket :: ts) :=
    XPath.path_literal value (XPath.endsSteps_of_head .rightBracket ⟨nofun, nofun⟩ ts) nofun
  exact XPath.expressionOver_equal (XPath.negation_of_path hleft nofun nofun)
    (XPath.negation_of_path hright nofun nofun) (XPath.closes_rightBracket ts)

theorem parse_xpathEqual (a : PlainName) (hv : '\'' ∉ v.toList) :
    XPath.parse (a.xpathEqual v) = .ok (.absolute [.anywhere,
      .mk .child .any [.compare .equal (XPath.attributesNamed a.text) (.literal v)]]) := by
  have hclose : XPath.Tokenized [']'] [.rightBracket] :=
    XPath.tokenized_cons (by decide) ⟨_, rfl⟩ XPath.tokenized_nil
  have hliteral := XPath.tokenized_cons (by decide) (XPath.readToken_literal hv [']']) hclose
  rw [String.ofList_toList] at hliteral
  have hequal := XPath.tokenized_cons (c := '=') (by decide) ⟨_, rfl⟩ hliteral
  have htest := XPath.tokenized_cons (c := '[') (by decide) ⟨_, rfl⟩
    (XPath.tokenized_cons (c := '@') (by decide) ⟨_, rfl⟩
      (a.tokenized (XPath.endsName_of_head (by decide) (by decide) _) hequal))
  have hall := XPath.tokenized_cons (by decide) (XPath.readToken_doubleSlash _)
    (XPath.tokenized_cons (c := '*') (by decide) ⟨_, rfl⟩ htest)
  rw [xpathEqual]
  apply XPath.parse_of_tokenized (by rwa [String.toList_ofList])
  refine XPath.read_of_path (XPath.path_doubleSlash (XPath.steps_append (XPath.step_star ?_)
    (XPath.moreSteps_nil nofun))) nofun
  exact XPath.predicates_cons (expression_equal 62 a.text v []) (XPath.predicates_nil nofun)

theorem selector_cssEqual (a : PlainName) (hv : '\'' ∉ v.toList) :
    Selector.parse ("css:" ++ a.cssEqual v) =
      .ok (.css [.compound [.attribute ⟨a.text, some (.exact, v), false⟩]]) := by
  rw [Selector.parse_css, Selector.parseCss, a.selectors_cssEqual hv]

theorem selector_xpathEqual (a : PlainName) (hv : '\'' ∉ v.toList) :
    Selector.parse ("xpath:" ++ a.xpathEqual v) = .ok (.xpath (a.xpathEqual v)
      (.absolute [.anywhere,
        .mk .child .any [.compare .equal (XPath.attributesNamed a.text) (.literal v)]])) := by
  rw [Selector.parse_xpath, Selector.parseXPath, a.parse_xpathEqual hv]

end PlainName

section Selecting

variable {f : Flavor} {text : String}

theorem select_cssEqual (name v : String) :
    Css.select (Document.parse f text)
        [.compound [.attribute ⟨name, some (.exact, v), false⟩]] =
      (Document.parse f text).elementsWhere (Element.firstIs f name v) := by
  rw [Css.select, Document.elementsWhere]
  congr 1
  funext id
  simp only [List.any_cons, List.any_nil, Bool.or_false, Css.Complex.accepts, Css.Compound.accepts]
  congr 1
  funext e
  have hvalue : Css.attributeValue (Document.parse f text) e name =
      (e.findAttribute f name).map fun a => a.2.value.getD "" := rfl
  rw [Css.allAccept, Css.allAccept, Bool.and_true, Css.Component.accepts, hvalue, Element.firstIs]
  cases e.findAttribute f name with
  | none => rfl
  | some a =>
    rw [Option.map_some, Option.any_some, Bool.eq_iff_iff, beq_iff_eq, ← String.toList_inj]
    exact beq_iff_eq

theorem select_xpathEqual (name v : String) :
    (XPath.Expr.absolute [.anywhere,
        .mk .child .any [.compare .equal (XPath.attributesNamed name) (.literal v)]]).select
        (Document.parse f text) =
      .ok ((Document.parse f text).elementsWhere (Element.someIs f name v)) := by
  have hfilters := XPath.filters_map [()] fun _ _ =>
    XPath.decides_equal (Document.parse f text) name v
  have hfinds : XPath.Finds (Document.parse f text)
      (.mk .child .any [.compare .equal (XPath.attributesNamed name) (.literal v)])
      fun id => ((Document.parse f text).element? id).any (Element.someIs f name v) := by
    refine XPath.finds_child hfilters .any (fun id => ?_) fun id h => ?_
    · rw [List.all_cons, List.all_nil, Bool.and_true, XPath.hasValue_node, XPath.NodeTest.accepts,
        Document.isElement]
      cases (Document.parse f text).element? id <;> rfl
    · obtain ⟨e, he, -⟩ := (Option.any_eq_true _ _).1 h
      exact Document.lt_size_of_isElement (Document.isElement_of_element he)
  exact XPath.select_of_reaches (XPath.reaches_first hfinds)

theorem elementById_eq (v : String) :
    (Document.parse f text).elementById v =
      ((Document.parse f text).elementsWhere (Element.firstIs f "id" v)).head? := by
  have hid : f.normalize "id" = "id" := by
    cases f with
    | xml => rfl
    | html =>
      rw [Flavor.normalize, Flavor.foldName, ← String.toList_inj, String.toList_map]
      decide
  rw [Document.elementById, Document.elementsWhere, List.head?_filter]
  congr 1
  funext id
  cases he : (Document.parse f text).element? id with
  | none => rfl
  | some e =>
    rw [Option.bind_some, Option.any_some, Document.attribute?_eq hid he, Element.firstIs]
    cases e.findAttribute f "id" with
    | none => rfl
    | some a => simp

/-- What the three ways to ask for the value of an attribute select, and when they agree. -/
theorem select_equal (f : Flavor) (text v : String) (hv : '\'' ∉ v.toList) :
    let d := Document.parse f text
    (∀ a : PlainName, ∃ css xpath, Selector.parse ("css:" ++ a.cssEqual v) = .ok css ∧
      Selector.parse ("xpath:" ++ a.xpathEqual v) = .ok xpath ∧
      css.select d = .ok (d.elementsWhere (Element.firstIs f a.text v)) ∧
      xpath.select d = .ok (d.elementsWhere (Element.someIs f a.text v)) ∧
      (d.elementsWhere (Element.firstIs f a.text v) = d.elementsWhere (Element.someIs f a.text v) ↔
        ∀ id e, d.element? id = some e →
          e.someIs f a.text v = true → e.firstIs f a.text v = true)) ∧
    (∃ s, Selector.parse ("id:" ++ v) = .ok s ∧
      s.select d = .ok (d.elementsWhere (Element.firstIs f "id" v)).head?.toList) ∧
    ((d.elementsWhere (Element.firstIs f "id" v)).head? =
        (d.elementsWhere (Element.someIs f "id" v)).head? ↔
      ∀ id e, (d.elementsWhere (Element.someIs f "id" v)).head? = some id →
        d.element? id = some e → e.firstIs f "id" v = true) := by
  intro d
  refine ⟨fun a => ?_, ⟨.id v, Selector.parse_id v, ?_⟩, ?_⟩
  · refine ⟨_, _, a.selector_cssEqual hv, a.selector_xpathEqual hv, ?_, ?_, ?_⟩
    · rw [Selector.select, select_cssEqual]
    · rw [Selector.select, select_xpathEqual]
      rfl
    · rw [Document.elementsWhere_eq_iff]
      refine forall₃_congr fun id e _ => ?_
      constructor
      · intro heq hsome
        rwa [heq]
      · intro himp
        rw [Bool.eq_iff_iff]
        exact ⟨Element.someIs_of_firstIs, himp⟩
  · rw [Selector.select, elementById_eq]
  · exact Document.head_elementsWhere_eq_iff fun e => Element.someIs_of_firstIs

theorem select_equal_repeated :
    let d := Document.parse .html "<x id='a' id='b'>"
    ∃ css xpath s, Selector.parse "css:[id='b']" = .ok css ∧
      Selector.parse "xpath://*[@id='b']" = .ok xpath ∧ Selector.parse "id:b" = .ok s ∧
      css.select d = .ok [] ∧ xpath.select d = .ok [0] ∧ s.select d = .ok [] := by
  intro d
  have hfirst : d.elementsWhere (Element.firstIs .html "id" "b") = [] := by decide +kernel
  have hsome : d.elementsWhere (Element.someIs .html "id" "b") = [0] := by decide +kernel
  let name : PlainName := ⟨'i', ['d'], by decide, List.forall_mem_singleton.2 (by decide)⟩
  have hname : name.text = "id" := by decide +kernel
  have hcsstext : "css:" ++ name.cssEqual "b" = "css:[id='b']" := by decide +kernel
  have hxpathtext : "xpath:" ++ name.xpathEqual "b" = "xpath://*[@id='b']" := by decide +kernel
  have hidtext : "id:" ++ "b" = "id:b" := by decide +kernel
  obtain ⟨hqueries, ⟨s, hid, hids⟩, -⟩ :=
    select_equal .html "<x id='a' id='b'>" "b" (by decide)
  obtain ⟨css, xpath, hcss, hxpath, hcssids, hxpathids, -⟩ := hqueries name
  rw [hcsstext] at hcss
  rw [hxpathtext] at hxpath
  rw [hidtext] at hid
  rw [hname, hfirst] at hcssids
  rw [hname, hsome] at hxpathids
  rw [hfirst] at hids
  exact ⟨css, xpath, s, hcss, hxpath, hid, hcssids, hxpathids, hids⟩

end Selecting
end MarkupSplice
