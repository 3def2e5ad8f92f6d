import MarkupSplice.Proofs.Plan.Present
import MarkupSplice.Proofs.Plan.Several

/-!
# Attributes that are set already

An attribute with an escaped value that is not empty stays as it is when it is
set again (`settled_set`). In a start tag that comes out of an update nothing
else is set again (`Site.Remade.settled`), so the next update writes the same
start tag (`Site.plannedText_settled`).
-/
namespace MarkupSplice
open Markup Text

namespace Markup

variable {style : QuoteStyle} {escaped : List Char}

structure WrittenAttribute.Settled (style : QuoteStyle) (escaped : List Char)
    (a : WrittenAttribute) : Prop where
  set_eq : a.set style escaped = a
  not_empty : a.isEmpty = false

theorem WrittenValue.set_set (v : WrittenValue) :
    (v.set style escaped).set style escaped = v.set style escaped := by
  cases v with
  | unquoted s =>
    by_cases h : style = .double ∨ Plan.needsQuotes escaped
    · simp [set, h]
    · simp [set, h]
  | quoted q s closed =>
    by_cases h : style = .double ∧ closed = true
    · simp [set, h]
    · simp [set, h]

theorem settled_set (h : escaped ≠ []) (a : WrittenAttribute) :
    (a.set style escaped).Settled style escaped := by
  have hempty : escaped.isEmpty = false := by simpa using h
  have hfresh : (Assignment.fresh escaped).set style escaped = .fresh escaped := by
    simp [Assignment.set, Assignment.fresh, WrittenValue.text, hempty, WrittenValue.set]
  obtain ⟨gap, name, assignment⟩ := a
  cases assignment with
  | none =>
    refine ⟨congrArg (fun g => WrittenAttribute.mk gap name (some g)) hfresh, ?_⟩
    exact hempty
  | some g =>
    have hset : (g.set style escaped).set style escaped = g.set style escaped := by
      by_cases hg : g.value.text.isEmpty = true
      · simp only [Assignment.set, if_pos hg]
        exact hfresh
      · have hg' : g.value.text ≠ [] := by simpa using hg
        simp [Assignment.set, hg', WrittenValue.text_set, h, WrittenValue.set_set]
    refine ⟨congrArg (fun g => WrittenAttribute.mk gap name (some g)) hset, ?_⟩
    rw [WrittenAttribute.isEmpty, WrittenAttribute.set, Option.elim_some, Option.any_some,
      Assignment.text_set, hempty]

theorem settled_fresh (h : escaped ≠ []) (gap name : List Char) :
    WrittenAttribute.Settled style escaped ⟨gap, name, some (.fresh escaped)⟩ :=
  settled_set h ⟨gap, name, none⟩

theorem setMarked_settled {ms : List Marked}
    (h : ∀ m ∈ ms, m.2 = true → m.1.Settled style escaped) :
    setMarked style escaped false ms = ms.map Prod.fst ∧ cutBehind false ms = false := by
  induction ms with
  | nil => exact ⟨rfl, rfl⟩
  | cons m ms ih =>
    obtain ⟨hset, hcut⟩ := ih fun m' hm' => h m' (List.mem_cons_of_mem _ hm')
    obtain ⟨a, set⟩ := m
    have hcuts : Marked.cuts (a, set) = false := by
      cases set with
      | false => rfl
      | true => exact (h _ List.mem_cons_self rfl).not_empty
    have hmake : Marked.make style escaped false (a, set) = a := by
      cases set with
      | false => rfl
      | true => exact (h _ List.mem_cons_self rfl).set_eq
    rw [setMarked, cutBehind, hcuts, hset, hcut, hmake]
    exact ⟨rfl, rfl⟩

theorem StartTag.update_settled {t : StartTag} {ms : List Marked}
    (hms : ms.map Prod.fst = t.attributes)
    (h : ∀ m ∈ ms, m.2 = true → m.1.Settled style escaped) :
    t.update style escaped ms [] = t := by
  obtain ⟨hset, hcut⟩ := setMarked_settled h
  rw [update, hset, hms, gapBehind, hcut]
  simp [newAttributes]

theorem length_setMarked (cut : Bool) (ms : List Marked) :
    (setMarked style escaped cut ms).length = ms.length := by
  induction ms generalizing cut with
  | nil => rfl
  | cons m ms ih => rw [setMarked, List.length_cons, ih, List.length_cons]

theorem entry_newAttribute {gap : List Char} {names : List (List Char)}
    {a : WrittenAttribute} (ha : a ∈ newAttributes escaped gap names) (f : Flavor) :
    (a.entry f).2 = some (String.ofList (unescapeChars escaped)) ∧
      (escaped ≠ [] → a.Settled style escaped) := by
  induction names generalizing gap with
  | nil => cases ha
  | cons name names ih =>
    rcases List.mem_cons.1 ha with rfl | ha
    · exact ⟨rfl, fun h => settled_fresh h _ _⟩
    · exact ih ha

end Markup

theorem Element.findAttribute_congr {f : Flavor} {e e' : Element} {name : String} {i : Nat}
    {a : Attribute} (h : e.findAttribute f name = some (i, a))
    (hnames : ∀ j ≤ i, e'.attributes[j]?.map Attribute.name = e.attributes[j]?.map Attribute.name) :
    ∃ a', e'.findAttribute f name = some (i, a') := by
  obtain ⟨ha, hmatch, hfront⟩ := getElem_of_findAttribute h
  have hi := hnames i (Nat.le_refl i)
  rw [ha, Option.map_some, Option.map_eq_some_iff] at hi
  obtain ⟨a', ha', hname⟩ := hi
  obtain ⟨hlt, hget⟩ := List.getElem?_eq_some_iff.1 ha'
  have hfind : (e'.attributes.zipIdx.find? fun a => f.namesMatch a.1.name name) = some (a', i) := by
    rw [List.find?_eq_some_iff_getElem]
    refine ⟨hname ▸ hmatch, i, by simpa using hlt, by simp [hget], ?_⟩
    intro j hj
    have hjlt : j < e'.attributes.length := Nat.lt_trans hj hlt
    have hj' := (hnames j (Nat.le_of_lt hj)).symm
    rw [List.getElem?_eq_getElem hjlt, Option.map_some, Option.map_eq_some_iff] at hj'
    obtain ⟨b, hb, hbname⟩ := hj'
    have hnot := hfront j hj b hb
    rw [hbname] at hnot
    simpa using hnot
  exact ⟨a', by rw [findAttribute, hfind]; rfl⟩

theorem escapeChars_ne_nil {f : Flavor} {value : String} (h : legal f value ≠ value) :
    escapeChars f value.toList ≠ [] := by
  intro hnil
  have hlegal := unescape_escapeChars f value
  rw [hnil, unescapeChars_nil] at hlegal
  have hempty : legal f value = "" := hlegal.symm
  rw [hempty, legal_eq_empty.1 hempty] at h
  exact h rfl

theorem Element.SetTo.missing_eq_nil {f : Flavor} {o : PlanOptions} {names : List String} {value : String}
    {e e' : Element} (h : Element.SetTo f o names value e e') :
    e'.missing f names = [] := by
  apply List.filter_eq_nil_iff.2
  intro b hb hnone
  have hlisted := h.listed b hb
  rw [Element.valueOf, Option.isNone_iff_eq_none.1 hnone] at hlisted
  cases hlisted

namespace Site

variable {f : Flavor} {s : List Char} (x : Site f s) (o : PlanOptions) (value : String)
  {e e' : Element} {names : List String}

structure Remade (mark : Nat → Bool) (t : StartTag) (e e' : Element) : Prop where
  old : e.attributes = x.attributes
  set : setMarked o.quotes (escapeChars o.escaping value.toList) false
    (markAt mark x.tag.attributes) <+: t.attributes
  new : ∃ p, e'.attributes = Growth.attributesOf f p t.attributes

section Remade

variable {x o value} {mark : Nat → Bool} {t : StartTag} {k : Nat}

theorem Remade.entry (h : x.Remade o value mark t e e') (hk : k < x.tag.attributes.length) :
    ∃ a a' w cut, e.attributes[k]? = some a ∧ e'.attributes[k]? = some a' ∧
      t.attributes[k]? =
        some (Marked.make o.quotes (escapeChars o.escaping value.toList) cut (w, mark k)) ∧
      a'.entry = if mark k then (a.name, some (legal o.escaping value)) else a.entry := by
  obtain ⟨he, ⟨others, ht⟩, p, he'⟩ := h
  have hw : x.tag.attributes[k]? = some x.tag.attributes[k] := List.getElem?_eq_getElem hk
  have hmark : (markAt mark x.tag.attributes)[k]? = some (x.tag.attributes[k], mark k) := by
    rw [getElem_markAt, hw]
    rfl
  obtain ⟨cut, hset⟩ :=
    getElem_setMarked o.quotes (escapeChars o.escaping value.toList) false hmark
  have ht' : t.attributes[k]? = some (Marked.make o.quotes (escapeChars o.escaping value.toList)
      cut (x.tag.attributes[k], mark k)) := by
    obtain ⟨hlt, -⟩ := List.getElem?_eq_some_iff.1 hset
    rw [← ht, List.getElem?_append_left hlt, hset]
  obtain ⟨q, hq⟩ := Growth.getElem_attributesOf f x.first x.tag.attributes k
  obtain ⟨q', hq'⟩ := Growth.getElem_attributesOf f p t.attributes k
  rw [hw, ← attributes, ← he] at hq
  rw [ht', ← he'] at hq'
  refine ⟨_, _, x.tag.attributes[k], cut, hq, hq', ht', ?_⟩
  have hentry : ∀ (q : Position) (a : WrittenAttribute),
      (Growth.attributeOf f q a).entry = a.entry f := fun _ _ => rfl
  rw [hentry, hentry, Marked.entry_make, unescape_escapeChars]
  rfl

theorem Remade.name (h : x.Remade o value mark t e e') (hk : k < x.tag.attributes.length) :
    e'.attributes[k]?.map Attribute.name = e.attributes[k]?.map Attribute.name := by
  obtain ⟨a, a', w, cut, ha, ha', -, hentry⟩ := h.entry hk
  have hname := congrArg Prod.fst hentry
  rw [ha, ha', Option.map_some, Option.map_some]
  split at hname <;> exact congrArg some hname

theorem Remade.settled (h : x.Remade o value mark t e e') (hk : k < x.tag.attributes.length)
    (hmark : e.differs f names value k = true → mark k = true)
    (hdiffers : e'.differs f names value k = true) :
    ∃ w, t.attributes[k]? = some w ∧
      w.Settled o.quotes (escapeChars o.escaping value.toList) := by
  obtain ⟨a, a', w, cut, ha, ha', hget, hentry⟩ := h.entry hk
  obtain ⟨b, hb, c, hfind, hvalue⟩ := Element.differs_iff.1 hdiffers
  obtain rfl := Option.some.inj (ha'.symm.trans (Element.getElem_of_findAttribute hfind).1)
  refine ⟨_, hget, ?_⟩
  cases hset : mark k with
  | true =>
    rw [hset, if_pos rfl] at hentry
    have hlegal : a'.value = some (legal o.escaping value) := congrArg Prod.snd hentry
    rw [hlegal] at hvalue
    exact settled_set (escapeChars_ne_nil hvalue) _
  | false =>
    -- the name found this attribute before, and its value has not changed
    rw [hset, if_neg Bool.false_ne_true] at hentry
    have hsame : a'.value = a.value := congrArg Prod.snd hentry
    obtain ⟨a₀, hold⟩ := Element.findAttribute_congr hfind fun j hj =>
      (h.name (Nat.lt_of_le_of_lt hj hk)).symm
    obtain rfl := Option.some.inj (ha.symm.trans (Element.getElem_of_findAttribute hold).1)
    have hmarked := hmark ((Element.differs_of_findAttribute value hb hold).2 (hsame ▸ hvalue))
    rw [hset] at hmarked
    cases hmarked

theorem Remade.differs {a : Attribute} {b : String} (h : x.Remade o value mark t e e')
    (hb : b ∈ names) (hfind : e.findAttribute f b = some (k, a)) (hvalue : a.value.getD "" ≠ value)
    (hmark : mark k = false) : e'.differs f names value k = true := by
  have ha := (Element.getElem_of_findAttribute hfind).1
  have hk : k < x.tag.attributes.length := by
    obtain ⟨hlt, -⟩ := List.getElem?_eq_some_iff.1 ha
    rwa [h.old, attributes, Growth.length_attributesOf] at hlt
  obtain ⟨a', hfind'⟩ := Element.findAttribute_congr hfind fun j hj =>
    h.name (Nat.lt_of_le_of_lt hj hk)
  obtain ⟨a₀, a₁, -, -, ha₀, ha₁, -, hentry⟩ := h.entry hk
  obtain rfl := Option.some.inj (ha.symm.trans ha₀)
  obtain rfl := Option.some.inj ((Element.getElem_of_findAttribute hfind').1.symm.trans ha₁)
  rw [hmark, if_neg Bool.false_ne_true] at hentry
  rw [Element.differs_of_findAttribute value hb hfind',
    show a'.value = a.value from congrArg Prod.snd hentry]
  exact hvalue

end Remade

/-- What is inserted with another value than the listed one has a value that is not empty. -/
theorem settled_inserted {p : Position} {k : Nat} {w : WrittenAttribute}
    (he' : e'.attributes = Growth.attributesOf f p (x.updated o value names e).attributes)
    (hk : x.tag.attributes.length ≤ k) (hw : (x.updated o value names e).attributes[k]? = some w)
    (hdiffers : e'.differs f names value k = true) :
    w.Settled o.quotes (escapeChars o.escaping value.toList) := by
  obtain ⟨b, -, a', hfind, hvalue⟩ := Element.differs_iff.1 hdiffers
  have ha' := (Element.getElem_of_findAttribute hfind).1
  obtain ⟨q, hq⟩ := Growth.getElem_attributesOf f p (x.updated o value names e).attributes k
  rw [he', hq, hw] at ha'
  obtain rfl := Option.some.inj ha'
  have hlength : (setMarked o.quotes (escapeChars o.escaping value.toList) false
      (markAt (e.differs f names value) x.tag.attributes)).length ≤ k := by
    rw [length_setMarked, ← List.length_map Prod.fst, map_fst_markAt]
    exact hk
  rw [updated, StartTag.update, List.getElem?_append_right hlength] at hw
  obtain ⟨hentry, hsettled⟩ := entry_newAttribute (List.mem_of_getElem? hw) f
  have hlegal : (Growth.attributeOf f q w).value = some (legal o.escaping value) := by
    rw [← unescape_escapeChars]
    exact hentry
  rw [hlegal] at hvalue
  exact hsettled (escapeChars_ne_nil hvalue)

theorem settled_updated {p : Position} (he : e.attributes = x.attributes)
    (he' : e'.attributes = Growth.attributesOf f p (x.updated o value names e).attributes) :
    ∀ m ∈ markAt (e'.differs f names value) (x.updated o value names e).attributes,
      m.2 = true → m.1.Settled o.quotes (escapeChars o.escaping value.toList) := by
  intro m hm hset
  obtain ⟨k, w, hw, rfl⟩ := mem_markAt.1 hm
  have hremade : x.Remade o value (e.differs f names value) (x.updated o value names e) e e' :=
    ⟨he, List.prefix_append _ _, p, he'⟩
  by_cases hk : k < x.tag.attributes.length
  · obtain ⟨w', hw', hsettled⟩ := hremade.settled hk (fun h => h) hset
    obtain rfl := Option.some.inj (hw.symm.trans hw')
    exact hsettled
  · exact x.settled_inserted o value he' (Nat.le_of_not_lt hk) hw hset

theorem plannedText_settled {s' : List Char} (y : Site f s') (he : e.attributes = x.attributes)
    (he' : e'.attributes = y.attributes) (htag : y.tag = x.updated o value names e)
    (hpair : names.Pairwise fun a b => f.namesMatch a b = false) (u : List Char) :
    y.plannedText o value names e' u = y.rewrite y.tag u := by
  have hattributes : e'.attributes =
      Growth.attributesOf f y.first (x.updated o value names e).attributes := by
    rw [he', ← htag]
    rfl
  have hmissing := (x.setTo_updated o value he hattributes).missing_eq_nil
  have hfront : ∀ front b back, names = front ++ b :: back → y.Late value e' b →
      e'.missing f front = [] := by
    intro front b back hsplit _
    rw [hsplit, Element.missing, List.filter_append] at hmissing
    exact (List.append_eq_nil_iff.1 hmissing).1
  rw [y.planned_eq_update o value he' hpair hfront, hmissing]
  refine congrArg (y.rewrite · u) (StartTag.update_settled (map_fst_markAt _ _) ?_)
  rw [htag]
  exact x.settled_updated o value he hattributes

theorem apart_unset {front more : List WrittenAttribute} {w : WrittenAttribute} {z : List Char}
    (he : e.attributes = x.attributes) (ht : x.tag.attributes = front ++ w :: more)
    (htext : s = x.lead ++ ((front ++ [w]).flatMap WrittenAttribute.source ++ ' ' :: z))
    (hdiffers : e.differs f names value front.length = true) :
    x.apart value names e front.length = true := by
  cases hbare : (e.attributes[front.length]?).any (Attribute.isBareAt x.delimiter) with
  | false => simp [apart, hdiffers, hbare]
  | true =>
    obtain ⟨a, ha, hbare⟩ := (Option.any_eq_true _ _).1 hbare
    obtain ⟨front', w', hsplit, hlength, -, hgap⟩ := x.split_of_bareAt (he ▸ ha) hbare
    obtain ⟨rfl, hlast⟩ := List.append_inj (ht.symm.trans hsplit) hlength
    have hsource := (x.rewrite_eq x.rest).symm.trans (x.rewrite_tag.trans htext)
    rw [ht, hgap, hlast, List.append_nil] at hsource
    obtain rfl := (List.cons.inj hlast).1
    -- a closing stands there, or the end of the text, and neither is a blank
    have hclosing := List.append_cancel_left (List.append_cancel_left hsource)
    have hends := x.sound.ends
    cases hc : x.tag.closing with
    | bracket =>
      rw [hc] at hclosing
      cases hclosing
    | slash =>
      rw [hc] at hclosing
      cases hclosing
    | cutOff =>
      rw [hc] at hclosing hends
      rw [hends.2] at hclosing
      cases hclosing

theorem plannedText_unset {front more : List WrittenAttribute} {w : WrittenAttribute}
    {z : List Char} (he : e.attributes = x.attributes)
    (ht : x.tag.attributes = front ++ w :: more) (hassign : w.assignment = none)
    (htext : s = x.lead ++ ((front ++ [w]).flatMap WrittenAttribute.source ++ ' ' :: z))
    (hdiffers : e.differs f names value front.length = true)
    (hsettled : ∀ k < front.length, e.differs f names value k = true →
      ∀ w ∈ front[k]?, w.Settled o.quotes (escapeChars o.escaping value.toList))
    (u : List Char) : x.plannedText o value names e u ≠ s := by
  have hapart := x.apart_unset value he ht htext hdiffers
  obtain ⟨hset, hcut⟩ := @setMarked_settled o.quotes (escapeChars o.escaping value.toList)
    (markAt (x.apart value names e) front) (by
      intro m hm hmark
      obtain ⟨k, w', hw', rfl⟩ := mem_markAt.1 hm
      obtain ⟨hlt, -⟩ := List.getElem?_eq_some_iff.1 hw'
      exact hsettled k hlt (Bool.and_eq_true_iff.1 hmark).1 w' hw')
  have hmarks : ∃ ms, markAt (x.apart value names e) x.tag.attributes =
      markAt (x.apart value names e) front ++ (w, true) :: ms := by
    rw [ht, markAt_append, ← List.singleton_append, markAt_append]
    exact ⟨_, by rw [← hapart]; rfl⟩
  obtain ⟨ms, hms⟩ := hmarks
  have hsource : (Marked.make o.quotes (escapeChars o.escaping value.toList) false
      (w, true)).source = w.source ++ (Assignment.fresh (escapeChars o.escaping value.toList)).source :=
    source_make_bare hassign false
  rw [plannedText, hms, setMarked_append, hset, hcut, map_fst_markAt, setMarked]
  intro heq
  have hbehind := List.append_cancel_left (heq.trans htext)
  simp only [List.flatMap_append, List.flatMap_cons, hsource, List.flatMap_nil, List.append_nil,
    List.append_assoc] at hbehind
  have hhead := List.append_cancel_left (List.append_cancel_left hbehind)
  simp [Assignment.fresh, Assignment.source] at hhead

/-- Behind a bare attribute that was put in front of a new one the text does not stay. -/
theorem plannedText_of_unset {s' z : List Char} (y : Site f s') {b : String}
    {more : List WrittenAttribute} (he : e.attributes = x.attributes)
    (he' : e'.attributes = y.attributes) (hb : b ∈ names) (hlate : x.Late value e b)
    (ht : y.tag.attributes = setMarked o.quotes (escapeChars o.escaping value.toList) false
      (markAt (x.apart value names e) x.tag.attributes) ++ more)
    (htext : s' = y.lead ++ ((setMarked o.quotes (escapeChars o.escaping value.toList) false
      (markAt (x.apart value names e) x.tag.attributes)).flatMap WrittenAttribute.source ++
        ' ' :: z)) (u : List Char) : y.plannedText o value names e' u ≠ s' := by
  obtain ⟨front, w, hsplit, hassign, -, -, hmarks⟩ := x.marks_of_late value he hb hlate
  obtain ⟨i, a, hfind, hvalue, hbare⟩ := hlate
  have ha := (Element.getElem_of_findAttribute hfind).1
  obtain ⟨front', w', hsplit', rfl, -⟩ := x.split_of_bareAt (he ▸ ha) hbare
  obtain ⟨rfl, -⟩ := List.append_inj' (hsplit.symm.trans hsplit') rfl
  have hlt : front.length < x.tag.attributes.length := by simp [hsplit]
  have hunset : x.apart value names e front.length = false := by simp [apart, ha, hbare]
  have hremade : x.Remade o value (x.apart value names e) y.tag e e' :=
    ⟨he, ht ▸ List.prefix_append _ _, y.first, he'⟩
  have hdiffers := hremade.differs hb hfind hvalue hunset
  have hlength : (setMarked o.quotes (escapeChars o.escaping value.toList) false
      (markAt (e.differs f names value) front)).length = front.length := by
    rw [length_setMarked, ← List.length_map Prod.fst, map_fst_markAt]
  have hsettled : ∀ k < front.length, e'.differs f names value k = true →
      ∀ v ∈ (setMarked o.quotes (escapeChars o.escaping value.toList) false
        (markAt (e.differs f names value) front))[k]?,
        v.Settled o.quotes (escapeChars o.escaping value.toList) := by
    intro k hk hdiffers v hv
    obtain ⟨v', hv', hset⟩ := hremade.settled (Nat.lt_trans hk hlt)
      (fun h => (x.apart_of_lt value he ha hbare hk).trans h) hdiffers
    rw [ht, hmarks, setMarked_concat, List.append_assoc,
      List.getElem?_append_left (hlength.symm ▸ hk), Option.mem_def.1 hv] at hv'
    obtain rfl := Option.some.inj hv'
    exact hset
  have hnone : ∀ cut, (Marked.make o.quotes (escapeChars o.escaping value.toList) cut
      (w, false)).assignment = none := by
    intro cut
    cases cut <;> exact hassign
  rw [hmarks, setMarked_concat] at ht htext
  rw [List.append_assoc] at ht
  rw [← hlength] at hdiffers hsettled
  exact y.plannedText_unset o value he' ht (hnone _) htext hdiffers hsettled u

end Site
end MarkupSplice
