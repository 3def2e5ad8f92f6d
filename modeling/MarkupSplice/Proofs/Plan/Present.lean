import MarkupSplice.Proofs.Plan.Element

/-!
# Setting an attribute that is there

The edit that is planned for an attribute of an element changes what the
document says at one place only: the value of that attribute, which becomes
the one that was asked for (`setAttribute_of_present`).
-/
namespace MarkupSplice
open Markup Text

/-- The quote that an attribute has once its value is set. -/
def Plan.quoteAfter (o : PlanOptions) (value : String) (a : Attribute) : Option Char :=
  if a.value.getD "" = "" then some '"'
  else
    match a.quote with
    | some q => if o.quotes = .double ∧ a.closed then some '"' else some q
    | none =>
      if o.quotes = .double ∨ needsQuotes (escape o.escaping value).toList then some '"' else none

theorem quote_make (f : Flavor) (o : PlanOptions) (value : String) (p p' : Position)
    (a : WrittenAttribute) (cut : Bool) :
    (Growth.attributeOf f p'
        (Marked.make o.quotes (escapeChars o.escaping value.toList) cut (a, true))).quote =
      Plan.quoteAfter o value (Growth.attributeOf f p a) := by
  obtain ⟨gap, name, assignment⟩ := a
  have hmake : (Marked.make o.quotes (escapeChars o.escaping value.toList) cut
      (⟨gap, name, assignment⟩, true)).assignment =
        some (assignment.elim (.fresh (escapeChars o.escaping value.toList))
          (Assignment.set o.quotes (escapeChars o.escaping value.toList))) := by
    cases cut <;> rfl
  have hquote : ∀ (p : Position) (a : WrittenAttribute), (Growth.attributeOf f p a).quote =
      a.assignment.bind fun g => g.value.quote? := fun _ _ => rfl
  rw [hquote, hmake]
  cases assignment with
  | none => rfl
  | some g =>
    have hvalue : (Growth.attributeOf f p ⟨gap, name, some g⟩).value.getD "" =
        String.ofList (unescapeChars g.value.text) := rfl
    have hclosed : (Growth.attributeOf f p ⟨gap, name, some g⟩).closed = g.value.isClosed := rfl
    simp only [Plan.quoteAfter, hvalue, ofList_eq_empty, unescapeChars_eq_nil, hquote, hclosed,
      Option.bind_some, Option.elim_some, Assignment.set]
    cases hempty : g.value.text.isEmpty with
    | true =>
      rw [if_pos (List.isEmpty_iff.1 hempty), if_pos rfl]
      rfl
    | false =>
      have hne : g.value.text ≠ [] := by simpa using hempty
      rw [if_neg hne, if_neg (by simp)]
      cases hq : g.value.quote? <;>
        simp only [WrittenValue.quote_set, hq, escape_eq, String.toList_ofList]

theorem entries_markAt (f : Flavor) (v : String) (i : Nat) (as : List WrittenAttribute) :
    (markAt (· == i) as).map (fun m => if m.2 then (f.normalize (String.ofList m.1.name), some v)
        else m.1.entry f) =
      (as.map (WrittenAttribute.entry f)).modify i fun entry => (entry.1, some v) := by
  apply List.ext_getElem?
  intro k
  rw [List.getElem?_map, getElem_markAt, List.getElem?_modify, List.getElem?_map]
  cases as[k]? with
  | none => rfl
  | some a =>
    by_cases hk : i = k
    · subst hk
      simp [WrittenAttribute.entry]
    · have hk' : ¬k = i := fun h => hk h.symm
      simp [hk, hk']

theorem getElem_setMarked (style : QuoteStyle) (escaped : List Char) (cut : Bool)
    {ms : List Marked} {i : Nat} {m : Marked} (h : ms[i]? = some m) :
    ∃ cut', (setMarked style escaped cut ms)[i]? = some (m.make style escaped cut') := by
  induction ms generalizing cut i with
  | nil => simp at h
  | cons m' ms ih =>
    cases i with
    | zero =>
      obtain rfl : m' = m := by simpa using h
      exact ⟨cut, rfl⟩
    | succ i => exact ih m'.cuts (by simpa using h)

namespace Site

variable {f : Flavor} {text : String} (x : Site f (Document.stripMark text.toList).1)

theorem applyEdits_change (o : PlanOptions) (escaped : List Char) {i : Nat} {a : Attribute}
    (ha : x.attributes[i]? = some a) :
    applyEdits text (Edit.shiftPastMark text.toList [x.change o escaped i a]) =
      .ok (String.ofList (Stretch.mark text.toList ++ x.rewrite
        (x.tag.update o.quotes escaped (markAt (· == i) x.tag.attributes) []) x.rest)) := by
  have hms := map_fst_markAt (· == i) x.tag.attributes
  have hdistinct : Stretch.Distinct (x.stretches o.quotes escaped
      (markAt (· == i) x.tag.attributes) [] [.keep x.rest]) :=
    x.distinct_stretches hms List.Pairwise.nil (by simp) List.Pairwise.nil (by simp)
  have hedits : Stretch.edits 0 (x.stretches o.quotes escaped
      (markAt (· == i) x.tag.attributes) [] [.keep x.rest]) = [x.change o escaped i a] := by
    rw [x.edits_parts hms, ← x.changes_eq o escaped hms, x.changes_markAt _ _ ha]
    rfl
  rw [x.applyEdits_site rfl hms hdistinct (by simp [Stretch.keep]) fun _ => by rw [hedits],
    x.rewrite_update]
  simp [Stretch.keep]

end Site

theorem setAttribute_of_present {f : Flavor} {o : PlanOptions} {text name value : String}
    {id i : Nat} {n : Node} {e : Element} {a : Attribute}
    (hn : (Document.parse f text).nodes[id]? = some n) (he : n.element? = some e)
    (ha : e.findAttribute f name = some (i, a)) :
    (Plan.setAttribute f o n e name value = none → a.value.getD "" = value) ∧
      ∀ edit, Plan.setAttribute f o n e name value = some edit →
        ∃ text', applyEdits text (Edit.shiftPastMark text.toList [edit]) = .ok text' ∧
          (Document.parse f text').outlines = (Document.parse f text).outlines.modify id
            (Outline.mapEntries fun entries =>
              entries.modify i fun entry => (entry.1, some (legal o.escaping value))) ∧
          ∃ e' a', (Document.parse f text').element? id = some e' ∧
            e'.attributes[i]? = some a' ∧ a'.quote = Plan.quoteAfter o value a := by
  obtain ⟨x, rfl, hhead⟩ := exists_site_parse hn he
  obtain ⟨hattributes, -, -⟩ := x.attributes_of_head hhead rfl he
  obtain ⟨hget, -, -⟩ := Element.getElem_of_findAttribute ha
  rw [Plan.setAttribute_eq, ha]
  by_cases hvalue : a.value.getD "" = value
  · simp [hvalue]
  simp only [hvalue, if_false, x.delimiterOffset_eq hhead he]
  refine ⟨by simp, ?_⟩
  intro edit hedit
  obtain rfl := Option.some.inj hedit
  rw [hattributes] at hget ⊢
  obtain ⟨p, hp⟩ := Growth.getElem_attributesOf f x.first x.tag.attributes i
  obtain ⟨w, hw, rfl⟩ := Option.map_eq_some_iff.1 (hp.symm.trans hget)
  have hms := map_fst_markAt (· == i) x.tag.attributes
  have hsound : (x.tag.update o.quotes (escapeChars o.escaping value.toList)
      (markAt (· == i) x.tag.attributes) []).Sound x.rest :=
    StartTag.sound_update x.sound hms (quotable_escapeChars o.escaping value.toList) (by simp)
      (by simp)
  refine ⟨_, x.applyEdits_change o (escapeChars o.escaping value.toList) hget, ?_, ?_⟩
  · rw [Document.outlines, x.nodes_parse_rewrite]
    refine x.outlines_rewrite rfl rfl hsound ?_
    simp only [StartTag.update, newAttributes, List.append_nil]
    rw [entries_setMarked, unescape_escapeChars, entries_markAt]
  · obtain ⟨e', he', hattributes'⟩ := x.element_rewrite (by rfl) hsound
    have hmark : (markAt (· == i) x.tag.attributes)[i]? = some (w, true) := by
      simp [getElem_markAt, hw]
    obtain ⟨cut, hmade⟩ :=
      getElem_setMarked o.quotes (escapeChars o.escaping value.toList) false hmark
    obtain ⟨p', hp'⟩ := Growth.getElem_attributesOf f x.first
      (x.tag.update o.quotes (escapeChars o.escaping value.toList)
        (markAt (· == i) x.tag.attributes) []).attributes i
    simp only [StartTag.update, newAttributes, List.append_nil] at hp' hattributes'
    rw [hmade, Option.map_some] at hp'
    exact ⟨e', _, he', by rw [hattributes', hp'], quote_make f o value _ _ w cut⟩

theorem setAttribute_of_present_unquoted :
    ∃ text', applyEdits "<a b=c d>" (Edit.shiftPastMark "<a b=c d>".toList [⟨5, 6, "\"x y\""⟩]) =
        .ok text' ∧
      (Document.parse .html text').outlines =
        (Document.parse .html "<a b=c d>").outlines.modify 0 (Outline.mapEntries fun entries =>
          entries.modify 0 fun entry => (entry.1, some (legal .html "x y"))) ∧
      ∃ e' a', (Document.parse .html text').element? 0 = some e' ∧ e'.attributes[0]? = some a' ∧
        a'.quote = some '"' :=
  let b : Attribute := ⟨"b", ⟨⟨3, 1, 4⟩, ⟨4, 1, 5⟩⟩, some "c", ⟨⟨5, 1, 6⟩, ⟨6, 1, 7⟩⟩, none, false⟩
  let d : Attribute := ⟨"d", ⟨⟨7, 1, 8⟩, ⟨8, 1, 9⟩⟩, none, ⟨⟨8, 1, 9⟩, ⟨8, 1, 9⟩⟩, none, false⟩
  let e : Element := ⟨"a", [b, d], .bracket, none⟩
  let n : Node := ⟨.element e, ⟨⟨0, 1, 1⟩, ⟨9, 1, 10⟩⟩, "<a b=c d>", none⟩
  have hn : (Document.parse .html "<a b=c d>").nodes[0]? = some n := by decide +kernel
  have ha : e.findAttribute .html "b" = some (0, b) := by decide +kernel
  have hedit : Plan.setAttribute .html ⟨.html, .preserve⟩ n e "b" "x y" =
      some ⟨5, 6, "\"x y\""⟩ := by decide +kernel
  have hquote : Plan.quoteAfter ⟨.html, .preserve⟩ "x y" b = some '"' := by decide +kernel
  hquote ▸ (setAttribute_of_present hn rfl ha).2 _ hedit

end MarkupSplice
