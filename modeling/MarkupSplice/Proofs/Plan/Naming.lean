import MarkupSplice.Config.Basic
import MarkupSplice.Proofs.Plan.Absent
import MarkupSplice.Proofs.Plan.Several

/-!
# Which names can be set

A configuration is valid when no attribute name in it is blank, and the names go
into the text as they are. A reader takes back only some of them: it leaves gaps
and brackets in front of a name, and ends it at a gap, a bracket or an equals
sign behind its first character. An element without attributes is given the one
attribute for just the other names (`element_of_validated`).
-/
namespace MarkupSplice
open Markup Text

namespace Markup

variable {c : Char} {name a b : List Char}

theorem eq_toLower_of_not_alpha {p : Char → Bool} (hp : ∀ c, p c = true → c.isAlpha = false)
    (c : Char) : p c.toLower = p c := by
  cases halpha : c.isAlpha with
  | true =>
    have hnot : ∀ {d : Char}, d.isAlpha = true → p d = false := by
      intro d hd
      cases hpd : p d with
      | false => rfl
      | true =>
        rw [hp d hpd] at hd
        cases hd
    rw [hnot halpha, hnot ((isAlpha_toLower c).trans halpha)]
  | false => rw [toLower_of_not_alpha halpha]

theorem not_alpha_of_endsAttributeName (h : endsAttributeName c = true) : c.isAlpha = false := by
  simp only [endsAttributeName, endsTagName, isSpace, Bool.or_eq_true, beq_iff_eq] at h
  rcases h with (((((((rfl | rfl) | rfl) | rfl) | rfl) | rfl) | rfl) | rfl) <;> rfl

theorem endsAttributeName_toLower (c : Char) : endsAttributeName c.toLower = endsAttributeName c :=
  eq_toLower_of_not_alpha (fun _ => not_alpha_of_endsAttributeName) c

theorem endsTagName_toLower (c : Char) : endsTagName c.toLower = endsTagName c :=
  eq_toLower_of_not_alpha (fun c h => not_alpha_of_endsAttributeName (by
    rw [endsAttributeName, h, Bool.true_or])) c

theorem endsTagName_eq_false : endsTagName c = false ↔ isGap c = false ∧ c ≠ '>' := by
  simp [endsTagName, isGap]

theorem readableName_iff :
    ReadableName name ↔ name ≠ [] ∧ (∀ c ∈ name.head?, endsTagName c = false) ∧
      ∀ c ∈ name.tail, endsAttributeName c = false := by
  cases name with
  | nil => exact ⟨fun h => absurd rfl h.ne_nil, fun h => absurd rfl h.1⟩
  | cons c name =>
    constructor
    · rintro ⟨⟨d, hd, hfirst⟩, hothers⟩
      obtain rfl := Option.some.inj hd
      refine ⟨List.cons_ne_nil _ _, ?_, hothers⟩
      rintro d ⟨⟩
      exact endsTagName_eq_false.2 hfirst
    · rintro ⟨-, hfirst, hothers⟩
      exact ⟨⟨c, rfl, endsTagName_eq_false.1 (hfirst c rfl)⟩, hothers⟩

theorem ReadableName.of_lower (ha : ReadableName a)
    (h : a.map Char.toLower = b.map Char.toLower) : ReadableName b := by
  rw [readableName_iff] at ha ⊢
  cases a with
  | nil => exact absurd rfl ha.1
  | cons c a =>
    cases b with
    | nil => cases h
    | cons d b =>
      obtain ⟨hcd, hab⟩ := List.cons.inj h
      obtain ⟨-, hfirst, hothers⟩ := ha
      refine ⟨List.cons_ne_nil d b, ?_, ?_⟩
      · rintro _ ⟨⟩
        rw [← endsTagName_toLower, ← hcd, endsTagName_toLower]
        exact hfirst c rfl
      · intro y hy
        have hmem : y.toLower ∈ a.map Char.toLower := hab ▸ List.mem_map_of_mem hy
        obtain ⟨z, hz, hlower⟩ := List.mem_map.1 hmem
        rw [← endsAttributeName_toLower, ← hlower, endsAttributeName_toLower]
        exact hothers z hz

theorem StartTag.attributes_update_only {t : StartTag} (style : QuoteStyle)
    (escaped name : List Char) (hnone : t.attributes = []) :
    (t.update style escaped (unmarked t.attributes) [name]).attributes =
      [⟨t.gap ++ [' '], name, some (.fresh escaped)⟩] := by
  rw [StartTag.update, gapBehind_unmarked, setMarked_unmarked, hnone]
  rfl

theorem StartTag.sound_update_only (style : QuoteStyle) {t : StartTag} {u escaped : List Char}
    (h : t.Sound u) (hnone : t.attributes = []) (hq : Quotable escaped)
    (hname : ReadableName name) :
    (t.update style escaped (unmarked t.attributes) [name]).Sound u := by
  have hgap : ∀ c ∈ t.gap ++ [' '], isGap c = true := by
    intro c hc
    rcases List.mem_append.1 hc with hc | hc
    · exact h.ends.1 c hc
    · rw [List.mem_singleton.1 hc]
      rfl
  have hassign : ∀ g ∈ some (Assignment.fresh escaped), g.Sound := by
    rintro g ⟨⟩
    exact Assignment.sound_fresh hq
  have hattributes := StartTag.attributes_update_only style escaped name hnone
  refine ⟨h.name, ?_, ?_, h.ends.nil⟩
  · rw [hattributes]
    intro c hc
    cases hfront : t.gap ++ [' '] with
    | nil => exact absurd hfront (by simp)
    | cons d gap =>
      have hd : c = d := by simpa [WrittenAttribute.source, hfront] using hc.symm
      exact endsTagName_of_gap (hgap c (by simp [hfront, hd]))
  · rw [hattributes]
    exact ⟨⟨hgap, hname, hassign⟩, Or.inl rfl, trivial⟩

end Markup

theorem Config.not_blank {c : Config} {r : Rule} {name : String} (hc : c.issues = [])
    (hr : r ∈ c.rules) (hname : name ∈ r.attributeNames) : Path.isBlankText name = false := by
  obtain ⟨i, hi⟩ := List.mem_iff_getElem?.1 hr
  have hmem : (r, i) ∈ c.rules.zipIdx := List.mk_mem_zipIdx_iff_getElem?.2 hi
  have hissues : r.issues i = [] :=
    List.flatMap_eq_nil_iff.1 (List.append_eq_nil_iff.1 hc).2 (r, i) hmem
  have hnames : r.attributeIssues i = [] :=
    (List.append_eq_nil_iff.1 (List.append_eq_nil_iff.1 hissues).1).1
  unfold Rule.attributeNames at hname
  split at hname
  · rw [List.mem_singleton.1 hname]
    decide +kernel
  · rw [Rule.attributeIssues, ite_eq_right_iff] at hnames
    cases hblank : Path.isBlankText name with
    | false => rfl
    | true => cases hnames (List.any_eq_true.2 ⟨name, hname, hblank⟩)

/-- The node `n'` is `n` with the attribute as its only one, and what is new stands in front of
the closing of the start tag. -/
structure Node.GivenOnly (f : Flavor) (o : PlanOptions) (name value : String) (n n' : Node) :
    Prop where
  only : ∃ e a, n'.element? = some e ∧ e.attributes = [a] ∧
    f.namesMatch a.name name = true ∧ a.value = some (legal o.escaping value)
  startTag : ∃ e front, n.element? = some e ∧
    n.source = front ++ String.ofList e.closing.source ∧
    n'.source = front ++ Plan.newText name (escape o.escaping value) ++
      String.ofList e.closing.source

namespace Site

variable {f : Flavor} {text : String} (x : Site f (Document.stripMark text.toList).1)
  (o : PlanOptions) (name value : String) {n : Node} {e : Element}

theorem source_of_head {t : StartTag} (h : n.head = x.growth.elementNode t none) :
    n.source = String.ofList t.source := by
  have hsource := congrArg Node.source h
  obtain ⟨kind, range, source, parent⟩ := n
  cases kind <;> exact hsource

theorem givenOnly_of_readable (hhead : n.head = x.head) (he : n.element? = some e)
    (hclosing : x.tag.closing ≠ .cutOff) (hnone : x.tag.attributes = [])
    (hname : ReadableName name.toList) (u : List Char) :
    ∃ n', (Document.parse f (String.ofList (Stretch.mark text.toList ++ x.rewrite
        (x.tag.update o.quotes (escapeChars o.escaping value.toList) (unmarked x.tag.attributes)
          [name.toList]) u))).nodes[x.id]? = some n' ∧ Node.GivenOnly f o name value n n' := by
  have hq := quotable_escapeChars o.escaping value.toList
  have hsound := StartTag.sound_update_only o.quotes (x.sound.append hclosing u) hnone hq hname
  obtain ⟨n', e', hn', hhead', he', hattributes⟩ := x.node_rewrite (by rfl) hsound
  refine ⟨n', hn', ⟨?_, ?_⟩⟩
  · have hnew := StartTag.attributes_update_only o.quotes (escapeChars o.escaping value.toList)
      name.toList hnone
    rw [hnew, Growth.attributesOf, Growth.attributesOf] at hattributes
    refine ⟨e', _, he', hattributes, ?_, ?_⟩
    · rw [Flavor.namesMatch_iff]
      simp [Growth.attributeOf]
    · simp [Growth.attributeOf, Assignment.fresh, WrittenValue.text, unescape_escapeChars]
  · obtain ⟨-, hclosed, -⟩ := x.attributes_of_head hhead rfl he
    refine ⟨e, String.ofList ('<' :: x.tag.name ++ x.tag.gap), he, ?_, ?_⟩
    · rw [x.source_of_head hhead, hclosed, StartTag.source, hnone, ← String.toList_inj]
      simp
    · rw [x.source_of_head hhead', hclosed, StartTag.source_update, setMarked_unmarked,
        gapBehind_unmarked, hnone, escape_eq, newText_ofList, ← String.toList_inj]
      simp

/-- An attribute that is read has a name that is read back, and so have all names that match. -/
theorem readable_of_given (n : Node) (u : List Char) (hnone : x.tag.attributes = []) :
    ∃ n', (Document.parse f (String.ofList (Stretch.mark text.toList ++ x.rewrite
        (x.tag.update o.quotes (escapeChars o.escaping value.toList) (unmarked x.tag.attributes)
          [name.toList]) u))).nodes[x.id]? = some n' ∧
      (Node.GivenOnly f o name value n n' → ReadableName name.toList) := by
  have hy : ∀ c ∈ (x.tag.gap ++ (newSource (escapeChars o.escaping value.toList) name.toList ++
      (x.tag.closing.source ++ u))).head?, endsTagName c = true := by
    intro c hc
    cases hgap : x.tag.gap with
    | nil =>
      rw [hgap] at hc
      cases hc
      rfl
    | cons d gap =>
      rw [hgap] at hc
      cases hc
      exact StartTag.endsTagName_of_gap (x.sound.ends.1 c (by simp [hgap]))
  obtain ⟨t, v, hname, hsound, hrewrite, -⟩ := x.exists_rewrite hy
  obtain ⟨n', e', hn', -, he', hattributes⟩ := x.node_rewrite hname hsound
  refine ⟨n', ?_, ?_⟩
  · rw [x.rewrite_unmarked, hnone, List.flatMap_nil, List.nil_append, hrewrite]
    exact hn'
  · rintro ⟨⟨e, a, he, honly, hmatch, -⟩, -⟩
    obtain rfl := Option.some.inj (he'.symm.trans he)
    have ha : (Growth.attributesOf f x.first t.attributes)[0]? = some a := by
      rw [← hattributes, honly]
      rfl
    obtain ⟨front, w, behind, hsplit, -, rfl⟩ := Growth.split_of_getElem ha
    have hw : w ∈ t.attributes := by simp [hsplit]
    rw [Flavor.namesMatch_iff, Growth.attributeOf, Flavor.normalize_normalize] at hmatch
    refine (sound_of_reads hsound.reads hw).name.of_lower ?_
    simpa using Flavor.lower_of_normalize hmatch

end Site

theorem element_of_validated {c : Config} {r : Rule} {name : String} (hc : c.issues = [])
    (hr : r ∈ c.rules) (hname : name ∈ r.attributeNames) {f : Flavor} {o : PlanOptions}
    {text value : String} {id : Nat} {n : Node} {e : Element}
    (hn : (Document.parse f text).nodes[id]? = some n) (he : n.element? = some e)
    (hclosing : e.closing ≠ .cutOff) (hnone : e.attributes = []) :
    ∃ edits text' n', Plan.element o (Document.parse f text) id [name] value = .ok edits ∧
      applyEdits text (Edit.shiftPastMark text.toList edits) = .ok text' ∧
      (Document.parse f text').nodes[id]? = some n' ∧
      (Node.GivenOnly f o name value n n' ↔
        (∀ c ∈ name.toList.head?, endsTagName c = false) ∧
          ∀ c ∈ name.toList.tail, endsAttributeName c = false) := by
  obtain ⟨x, rfl, hhead⟩ := exists_site_parse hn he
  obtain ⟨hattributes, hclosed, -⟩ := x.attributes_of_head hhead rfl he
  obtain ⟨tail, hold, hedits⟩ := x.edits_clearContent hn hhead he
  have hempty : x.tag.attributes = [] := by
    have hlength := congrArg List.length hattributes
    rw [hnone, Growth.length_attributesOf] at hlength
    exact List.eq_nil_of_length_eq_zero hlength.symm
  have hfind : e.findAttribute f name = none := by simp [Element.findAttribute, hnone]
  have hplan : Plan.element o (Document.parse f text) x.id [name] value = .ok _ :=
    x.element_planned o value hn hhead he hedits
  rw [List.filterMap_cons, x.planned_of_none o value hfind, List.filterMap_nil,
    List.singleton_append] at hplan
  have hpairwise : (Stretch.edits (x.delimiter + byteLength x.tag.closing.source) tail).Pairwise
      fun a b => a.start < b.start := by
    rw [hedits]
    cases Plan.clearContent (Document.parse f text) x.id <;> simp
  have happly := x.applyEdits_insert_with o.quotes (escapeChars o.escaping value.toList)
    name.toList hold hpairwise (x.delimiter_lt_of_clearContent hold hedits)
  obtain ⟨n', hn', hreadable⟩ :=
    x.readable_of_given o name value n (Stretch.newText tail) hempty
  refine ⟨_, _, n', hplan, happly, hn', ?_⟩
  have hne : name.toList ≠ [] := by
    intro hnil
    have hblank := Config.not_blank hc hr hname
    rw [Path.isBlankText, hnil] at hblank
    cases hblank
  constructor
  · intro hgiven
    exact (readableName_iff.1 (hreadable hgiven)).2
  · intro h
    obtain ⟨m, hm, hgiven⟩ := x.givenOnly_of_readable o name value hhead he
      (hclosed ▸ hclosing) hempty (readableName_iff.2 ⟨hne, h⟩) (Stretch.newText tail)
    obtain rfl := Option.some.inj (hm.symm.trans hn')
    exact hgiven

/-- A valid configuration lists `data src`, which the element `<a>` is not given. -/
theorem element_of_validated_blank :
    ∃ (c : Config) (r : Rule) (edits : List Edit) (text' : String) (n n' : Node),
      c.issues = [] ∧ r ∈ c.rules ∧ "data src" ∈ r.attributeNames ∧
      (Document.parse .html "<a>").nodes[0]? = some n ∧
      Plan.element ⟨.html, .preserve⟩ (Document.parse .html "<a>") 0 ["data src"] "v" =
        .ok edits ∧
      applyEdits "<a>" (Edit.shiftPastMark "<a>".toList edits) = .ok text' ∧
      (Document.parse .html text').nodes[0]? = some n' ∧
      ¬Node.GivenOnly .html ⟨.html, .preserve⟩ "data src" "v" n n' := by
  let r : Rule := { (default : Rule) with attributes := ["data src"] }
  let c : Config := ⟨default, [r]⟩
  let e : Element := ⟨"a", [], .bracket, none⟩
  let n : Node := ⟨.element e, ⟨⟨0, 1, 1⟩, ⟨3, 1, 4⟩⟩, "<a>", none⟩
  have hc : c.issues = [] := by decide +kernel
  have hr : r ∈ c.rules := List.mem_singleton_self r
  have hname : "data src" ∈ r.attributeNames := List.mem_singleton_self _
  have hn : (Document.parse .html "<a>").nodes[0]? = some n := by decide +kernel
  obtain ⟨edits, text', n', hplan, happly, hn', hiff⟩ :=
    @element_of_validated c r "data src" hc hr hname .html ⟨.html, .preserve⟩ "<a>" "v" 0 n e hn
      rfl (by decide) rfl
  have hgap : ' ' ∈ "data src".toList.tail := by simp
  exact ⟨c, r, edits, text', n, n', hc, hr, hname, hn, hplan, happly, hn',
    fun hgiven => absurd ((hiff.1 hgiven).2 ' ' hgap) (by decide)⟩

end MarkupSplice
