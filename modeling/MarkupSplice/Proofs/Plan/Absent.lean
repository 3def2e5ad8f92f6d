import MarkupSplice.Proofs.Plan.Element

/-!
# Setting an attribute that is not there

A new attribute is written where the start tag is closed. It is read as one of
its own unless the value in front of it is open, unquoted and empty or with a
quote that is never closed: then that value takes it in, and the element is
not given the attribute (`setAttribute_of_absent`).
-/
namespace MarkupSplice
open Markup Text

/-- Whether what comes behind the attributes is read as part of the last value. -/
def Element.isOpenEnded (e : Element) : Bool :=
  e.attributes.getLast?.any fun a =>
    (a.value == some "" && a.quote.isNone) || (a.quote.isSome && !a.closed)

namespace Markup

variable {style : QuoteStyle} {escaped : List Char} {f : Flavor}

theorem readValue_quote {q : Char} (hq : isQuote q = true) (s : List Char) :
    readValue (q :: s) = readQuoted q s := by
  simp only [isQuote, Bool.or_eq_true, beq_iff_eq] at hq
  rcases hq with rfl | rfl <;> rfl

theorem text_readValue_unclosed {q : Char} {s : List Char} (hq : isQuote q = true) (hs : q ∉ s)
    (t : List Char) :
    ∃ t', (readValue (q :: (s ++ ' ' :: t))).1.text = s ++ ' ' :: t' := by
  have hblank : q ∉ s ++ [' '] := by
    intro hmem
    rcases List.mem_append.1 hmem with hmem | hmem
    · exact hs hmem
    · rw [List.mem_singleton.1 hmem] at hq
      cases hq
  have hcut := cutAt_skip hblank t
  rw [List.append_assoc, List.singleton_append] at hcut
  rw [readValue_quote hq, readQuoted, hcut]
  cases cutAt [q] t with
  | none => exact ⟨t, rfl⟩
  | some p => exact ⟨p.1, by simp [WrittenValue.text]⟩

theorem readAttributes_value {gap name before after y : List Char}
    (hgap : ∀ c ∈ gap, isGap c = true) (hname : ReadableName name)
    (hbefore : ∀ c ∈ before, isSpace c = true) (hafter : ∀ c ∈ after, isSpace c = true)
    (hy : ∀ c ∈ y.head?, isSpace c = false) :
    (readAttributes (gap ++ name ++ (before ++ '=' :: after ++ y))).1 =
      ⟨gap, name, some ⟨before, after, (readValue y).1⟩⟩ ::
        (readAttributes (readValue y).2).1 := by
  obtain ⟨hsound, hends⟩ := readValue_sound hy
  have ha : (WrittenAttribute.mk gap name (some ⟨before, after, (readValue y).1⟩)).Sound := by
    refine ⟨hgap, hname, ?_⟩
    intro g hg
    obtain rfl := Option.some.inj hg
    exact ⟨hbefore, hafter, hsound⟩
  have hread := readAttributes_cons (t := (readValue y).2) ha hends
  have hsource := source_readValue y
  simp only [WrittenAttribute.source, Option.elim_some, Assignment.source, List.append_assoc,
    List.cons_append, hsource] at hread
  simp only [List.append_assoc, List.cons_append, hread]

/-- A name is read as an empty value when it begins with two quotes. -/
theorem readValue_name {name t : List Char} (hname : IsName name)
    (h : (readValue (name ++ '=' :: '"' :: t)).1.text = []) :
    ∃ q behind, isQuote q = true ∧ name = q :: q :: behind ∧
      (readValue (name ++ '=' :: '"' :: t)).2 = behind ++ '=' :: '"' :: t := by
  obtain ⟨hne, hall⟩ := hname
  cases name with
  | nil => exact absurd rfl hne
  | cons q name =>
    have hq := hall q List.mem_cons_self
    have hhead : ∀ c ∈ (q :: name ++ '=' :: '"' :: t).head?, isSpace c = false := by
      intro c hc
      cases hc
      cases hspace : isSpace q with
      | false => rfl
      | true =>
        rw [endsAttributeName_of_space hspace] at hq
        cases hq
    obtain ⟨hsound, hends⟩ := readValue_sound hhead
    have hsource := source_readValue (q :: name ++ '=' :: '"' :: t)
    generalize readValue (q :: name ++ '=' :: '"' :: t) = r at h hsound hends hsource
    obtain ⟨v, r⟩ := r
    cases v with
    | unquoted s =>
      -- a name begins with a character that no unquoted value ends at
      obtain rfl : s = [] := h
      obtain rfl : r = q :: name ++ '=' :: '"' :: t := hsource
      have hend := hends.1
      simp only [endsAttributeName, endsTagName, Bool.or_eq_false_iff] at hq
      simp [endsValue, hq.1.1.1, hq.1.1.2, hq.1.2] at hend
    | quoted q' s closed =>
      obtain rfl : s = [] := h
      cases closed with
      | false =>
        have hlength := congrArg List.length hsource
        rcases hends with hends | rfl
        · cases hends
        · simp [WrittenValue.source] at hlength
      | true =>
        have hquotes : q' = q ∧ q' :: r = name ++ '=' :: '"' :: t := by
          simpa [WrittenValue.source] using hsource
        obtain ⟨rfl, hrest⟩ := hquotes
        cases name with
        | nil =>
          obtain ⟨rfl, -⟩ := List.cons.inj hrest
          cases hsound.1
        | cons d name =>
          obtain ⟨rfl, hbehind⟩ := List.cons.inj hrest
          exact ⟨q', name, hsound.1, rfl, hbehind⟩

theorem head_name_of_equals (s : List Char) :
    ∃ a as, (readAttributes ('=' :: s)).1 = a :: as ∧ a.name.head? = some '=' := by
  have hgap : readGap ('=' :: s) = ([], '=' :: s) := by simp [readGap, isSpace]
  rw [readAttributes]
  split
  · rename_i h
    rw [hgap] at h
    cases h
  · rename_i h
    rw [hgap] at h
    cases h
    exact ⟨_, _, rfl, rfl⟩

theorem entries_behind_quotes {q : Char} {name t : List Char} {entry : String × Option String}
    (hquote : isQuote q = true) (hname : IsName (q :: q :: name)) (hq : Quotable escaped)
    (hentry : f.normalize entry.1 = f.normalize (String.ofList (q :: q :: name))) :
    (readAttributes (name ++ ((Assignment.fresh escaped).source ++ t))).1.map
      (WrittenAttribute.entry f) ≠ [entry] := by
  intro h
  have hlower : ∀ {a : WrittenAttribute} {as : List WrittenAttribute},
      (a :: as).map (WrittenAttribute.entry f) = [entry] →
        a.name.map Char.toLower = (q :: q :: name).map Char.toLower := by
    intro a as heq
    have hfirst : a.entry f = entry := (List.cons.inj heq).1
    rw [← hfirst, WrittenAttribute.entry, Flavor.normalize_normalize] at hentry
    simpa only [String.toList_ofList] using Flavor.lower_of_normalize hentry
  cases name with
  | nil =>
    obtain ⟨a, as, hread, hhead⟩ := head_name_of_equals ('"' :: escaped ++ '"' :: t)
    have hsource : (Assignment.fresh escaped).source ++ t =
        '=' :: ('"' :: escaped ++ '"' :: t) := by
      simp [Assignment.fresh, Assignment.source, WrittenValue.source]
    rw [List.nil_append, hsource, hread] at h
    have heq := congrArg List.head? (hlower h)
    simp only [List.head?_map, hhead, Option.map_some, List.head?_cons] at heq
    simp only [isQuote, Bool.or_eq_true, beq_iff_eq] at hquote
    rcases hquote with rfl | rfl <;> cases heq
  | cons c name =>
    have hshort : IsName (c :: name) := ⟨by simp, fun d hd => hname.2 d (by simp [hd])⟩
    have hread := readAttributes_cons (t := t) (a := ⟨[], c :: name, some (.fresh escaped)⟩)
      ⟨by simp, hshort.readable, by rintro g ⟨⟩; exact Assignment.sound_fresh hq⟩ (Or.inl rfl)
    have hsource : (WrittenAttribute.mk [] (c :: name) (some (.fresh escaped))).source ++ t =
        c :: name ++ ((Assignment.fresh escaped).source ++ t) := by
      simp [WrittenAttribute.source]
    rw [hsource] at hread
    rw [hread] at h
    have hlen := congrArg List.length (hlower h)
    simp at hlen

theorem text_of_entries {gap name before after after' : List Char} {v v' : WrittenValue}
    {as : List WrittenAttribute} {entry : String × Option String}
    (h : (⟨gap, name, some ⟨before, after', v'⟩⟩ :: as).map (WrittenAttribute.entry f) =
      [WrittenAttribute.entry f ⟨gap, name, some ⟨before, after, v⟩⟩, entry]) :
    unescapeChars v'.text = unescapeChars v.text ∧
      as.map (WrittenAttribute.entry f) = [entry] := by
  obtain ⟨hfirst, hrest⟩ := List.cons.inj h
  have hvalue := congrArg Prod.snd hfirst
  simp only [WrittenAttribute.entry, Option.map_some, Option.some.injEq,
    String.ofList_inj] at hvalue
  exact ⟨hvalue, hrest⟩

variable {gap name before after u newName : List Char} {closing : Closing}
  {entry : String × Option String}

theorem entries_dangling (hgap : ∀ c ∈ gap, isGap c = true) (hreadable : ReadableName name)
    (hbefore : ∀ c ∈ before, isSpace c = true) (hafter : ∀ c ∈ after, isSpace c = true)
    (hname : IsName newName) (hq : Quotable escaped)
    (hentry : f.normalize entry.1 = f.normalize (String.ofList newName)) (t : List Char) :
    (readAttributes (WrittenAttribute.source ⟨gap, name, some ⟨before, after, .unquoted []⟩⟩ ++
      (newSource escaped newName ++ t))).1.map (WrittenAttribute.entry f) ≠
        [WrittenAttribute.entry f ⟨gap, name, some ⟨before, after, .unquoted []⟩⟩, entry] := by
  have hspace : ∀ c ∈ after ++ [' '], isSpace c = true := by
    intro c hc
    rcases List.mem_append.1 hc with hc | hc
    · exact hafter c hc
    · rw [List.mem_singleton.1 hc]
      rfl
  have hhead : ∀ c ∈ (newName ++ '=' :: '"' :: (escaped ++ '"' :: t)).head?,
      isSpace c = false := by
    obtain ⟨c, hc, hnot, -⟩ := hname.readable.first
    intro d hd
    cases newName with
    | nil => cases hc
    | cons e newName =>
      cases hc
      cases hd
      exact (not_space_of_not_gap hnot).1
  have hsource : WrittenAttribute.source ⟨gap, name, some ⟨before, after, .unquoted []⟩⟩ ++
      (newSource escaped newName ++ t) = gap ++ name ++ (before ++ '=' :: (after ++ [' ']) ++
        (newName ++ '=' :: '"' :: (escaped ++ '"' :: t))) := by
    simp [WrittenAttribute.source, newSource, Assignment.fresh, Assignment.source,
      WrittenValue.source]
  rw [hsource, readAttributes_value hgap hreadable hbefore hspace hhead]
  intro h
  obtain ⟨hvalue, hrest⟩ := text_of_entries h
  -- the name was read as a value, so this stays empty for two quotes only
  have hnil := unescapeChars_eq_nil.1 (hvalue.trans unescapeChars_nil)
  obtain ⟨q, behind, hquote, rfl, hbehind⟩ := readValue_name hname hnil
  apply entries_behind_quotes (t := t) hquote hname hq hentry
  rw [hbehind] at hrest
  simpa [Assignment.fresh, Assignment.source, WrittenValue.source] using hrest

theorem entries_unclosed {q : Char} {s : List Char} (hgap : ∀ c ∈ gap, isGap c = true)
    (hreadable : ReadableName name) (hbefore : ∀ c ∈ before, isSpace c = true)
    (hafter : ∀ c ∈ after, isSpace c = true) (hquote : isQuote q = true) (hs : q ∉ s) :
    (readAttributes (WrittenAttribute.source ⟨gap, name, some ⟨before, after, .quoted q s false⟩⟩ ++
      newSource escaped newName)).1.map (WrittenAttribute.entry f) ≠
        [WrittenAttribute.entry f ⟨gap, name, some ⟨before, after, .quoted q s false⟩⟩, entry] := by
  have hhead : ∀ c ∈ (q :: (s ++ newSource escaped newName)).head?, isSpace c = false := by
    rintro c ⟨⟩
    exact not_space_of_quote hquote
  have hsource : WrittenAttribute.source ⟨gap, name, some ⟨before, after, .quoted q s false⟩⟩ ++
      newSource escaped newName = gap ++ name ++ (before ++ '=' :: after ++
        q :: (s ++ newSource escaped newName)) := by
    simp [WrittenAttribute.source, Assignment.source, WrittenValue.source]
  rw [hsource, readAttributes_value hgap hreadable hbefore hafter hhead]
  intro h
  obtain ⟨hvalue, -⟩ := text_of_entries h
  obtain ⟨t, ht⟩ := text_readValue_unclosed hquote hs
    (newName ++ (Assignment.fresh escaped).source)
  rw [newSource, List.cons_append, ht, unescapeChars_append_blank] at hvalue
  have hlen := congrArg List.length hvalue
  simp [WrittenValue.text] at hlen

theorem entries_open {b : WrittenAttribute} (hb : b.Sound)
    (hbehind : b.EndsBefore (gap ++ closing.source ++ u)) (hends : Ends gap closing u)
    (hopen : b.isOpen = true) (hname : IsName newName) (hq : Quotable escaped)
    (hentry : f.normalize entry.1 = f.normalize (String.ofList newName)) :
    (readAttributes (b.source ++ (gap ++ (newSource escaped newName ++
      (closing.source ++ u))))).1.map (WrittenAttribute.entry f) ≠ [b.entry f, entry] := by
  obtain ⟨bgap, bname, assignment⟩ := b
  cases assignment with
  | none => cases hopen
  | some g =>
    obtain ⟨before, after, value⟩ := g
    have hg := hb.assignment _ rfl
    cases value with
    | unquoted s =>
      obtain rfl : s = [] := by
        simpa [WrittenAttribute.isOpen, WrittenValue.quote?, WrittenValue.text] using hopen
      obtain ⟨hv, -, hempty⟩ := hbehind
      -- an empty value would have taken white space behind it into `after`
      obtain rfl : gap = [] := by
        have hspace := space_of_endsValue hends hv
        cases gap with
        | nil => rfl
        | cons c gap =>
          have hnot := hempty rfl c rfl
          rw [hspace c rfl] at hnot
          cases hnot
      exact entries_dangling hb.gap hb.name hg.before hg.after hname hq hentry _
    | quoted q s closed =>
      obtain rfl : closed = false := by
        simpa [WrittenAttribute.isOpen, WrittenValue.quote?, WrittenValue.isClosed] using hopen
      -- a quote that is never closed goes up to the end of the text
      have hnil : gap ++ closing.source ++ u = [] := by
        rcases hbehind with hclosed | hnil
        · cases hclosed
        · exact hnil
      obtain ⟨hgap, rfl⟩ := List.append_eq_nil_iff.1 hnil
      obtain ⟨rfl, hclosing⟩ := List.append_eq_nil_iff.1 hgap
      rw [hclosing, List.nil_append, List.append_nil, List.append_nil]
      exact entries_unclosed hb.gap hb.name hg.before hg.after hg.value.1 hg.value.2

def unmarked (as : List WrittenAttribute) : List Marked := as.map fun a => (a, false)

theorem map_fst_unmarked (as : List WrittenAttribute) : (unmarked as).map Prod.fst = as := by
  simp [unmarked, Function.comp_def]

theorem setMarked_unmarked (as : List WrittenAttribute) :
    setMarked style escaped false (unmarked as) = as := by
  induction as with
  | nil => rfl
  | cons a as ih => exact congrArg (a :: ·) ih

theorem gapBehind_unmarked (t : StartTag) : t.gapBehind (unmarked t.attributes) = t.gap := by
  have hcut : ∀ as, cutBehind false (unmarked as) = false := by
    intro as
    induction as with
    | nil => rfl
    | cons a as ih => exact ih
  simp [StartTag.gapBehind, hcut]

end Markup

theorem Element.isOpenEnded_eq {f : Flavor} {p : Position} {e : Element}
    {as : List WrittenAttribute} (h : e.attributes = Growth.attributesOf f p as) :
    e.isOpenEnded = as.getLast?.any WrittenAttribute.isOpen := by
  obtain ⟨p', hget⟩ := Growth.getElem_attributesOf f p as (as.length - 1)
  rw [isOpenEnded, h, List.getLast?_eq_getElem?, Growth.length_attributesOf, hget,
    ← List.getLast?_eq_getElem?]
  cases as.getLast? with
  | none => rfl
  | some b => exact isOpen_attributeOf f p' b

namespace Site

variable {f : Flavor} {text : String} (x : Site f (Document.stripMark text.toList).1)

theorem rewrite_unmarked (style : QuoteStyle) (escaped name u : List Char) :
    x.rewrite (x.tag.update style escaped (unmarked x.tag.attributes) [name]) u =
      x.lead ++ (x.tag.attributes.flatMap WrittenAttribute.source ++ (x.tag.gap ++
        (newSource escaped name ++ (x.tag.closing.source ++ u)))) := by
  rw [rewrite_update, setMarked_unmarked, gapBehind_unmarked, List.map_singleton,
    List.flatten_singleton]

theorem applyEdits_insert_with (style : QuoteStyle) (escaped name : List Char)
    {tail : List Stretch} (htail : Stretch.oldText tail = x.rest)
    (hedits : (Stretch.edits (x.delimiter + byteLength x.tag.closing.source) tail).Pairwise
      fun a b => a.start < b.start)
    (hbehind : ∀ edit ∈ Stretch.edits (x.delimiter + byteLength x.tag.closing.source) tail,
      x.delimiter < edit.start) :
    applyEdits text (Edit.shiftPastMark text.toList
        (.insert x.delimiter (String.ofList (newSource escaped name)) ::
          Stretch.edits (x.delimiter + byteLength x.tag.closing.source) tail)) =
      .ok (String.ofList (Stretch.mark text.toList ++ x.rewrite
        (x.tag.update style escaped (unmarked x.tag.attributes) [name]) (Stretch.newText tail))) := by
  have hms := map_fst_unmarked x.tag.attributes
  have hnone : Stretch.edits (byteLength x.lead)
      (tagStretches style escaped x.tag.gap false (unmarked x.tag.attributes)) = [] := by
    have hchanges := x.changes_eq ⟨.html, style⟩ escaped hms
    rw [← hchanges]
    apply List.eq_nil_iff_forall_not_mem.2
    intro edit hedit
    obtain ⟨i, -, -, hset, -⟩ := Plan.mem_changes.1 hedit
    simp [unmarked] at hset
  have hdistinct : Stretch.Distinct (x.stretches style escaped
      (unmarked x.tag.attributes) [newSource escaped name] tail) :=
    x.distinct_stretches hms (List.pairwise_singleton _ _) (by simp [hnone]) hedits hbehind
  have hall : Stretch.edits 0 (x.stretches style escaped (unmarked x.tag.attributes)
      [newSource escaped name] tail) =
        .insert x.delimiter (String.ofList (newSource escaped name)) ::
          Stretch.edits (x.delimiter + byteLength x.tag.closing.source) tail := by
    rw [x.edits_parts hms, hnone]
    rfl
  rw [x.applyEdits_site rfl hms hdistinct htail fun _ => by rw [hall], x.rewrite_update]
  rfl

theorem applyEdits_insert (style : QuoteStyle) (escaped name : List Char) :
    applyEdits text (Edit.shiftPastMark text.toList
        [.insert x.delimiter (String.ofList (newSource escaped name))]) =
      .ok (String.ofList (Stretch.mark text.toList ++ x.rewrite
        (x.tag.update style escaped (unmarked x.tag.attributes) [name]) x.rest)) := by
  have hold : Stretch.oldText [.keep x.rest] = x.rest := by simp [Stretch.keep]
  have hnew : Stretch.newText [.keep x.rest] = x.rest := by simp [Stretch.keep]
  have happly := x.applyEdits_insert_with style escaped name hold List.Pairwise.nil (by simp)
  rwa [hnew] at happly

theorem outlines_insert (style : QuoteStyle) {escaped name : List Char} (hq : Quotable escaped)
    (hname : IsName name)
    (hopen : ∀ b ∈ x.tag.attributes.getLast?, b.isOpen = false) :
    (Document.parse f (String.ofList (Stretch.mark text.toList ++ x.rewrite
        (x.tag.update style escaped (unmarked x.tag.attributes) [name]) x.rest))).outlines =
      (Document.parse f text).outlines.modify x.id (Outline.mapEntries fun entries =>
        entries ++ [(f.normalize (String.ofList name),
          some (String.ofList (unescapeChars escaped)))]) := by
  have hsound : (x.tag.update style escaped (unmarked x.tag.attributes) [name]).Sound x.rest := by
    apply StartTag.sound_update x.sound (map_fst_unmarked _) hq (by simpa using hname)
    intro _ b hb
    rw [setMarked_unmarked] at hb
    exact hopen b hb
  rw [Document.outlines, x.nodes_parse_rewrite]
  refine x.outlines_rewrite rfl rfl hsound ?_
  simp only [StartTag.update, setMarked_unmarked, List.map_append]
  rfl

theorem entries_insert (style : QuoteStyle) {escaped name : List Char} (hq : Quotable escaped)
    (hname : IsName name) {b : WrittenAttribute} (hb : b ∈ x.tag.attributes.getLast?)
    (hopen : b.isOpen = true) {entry : String × Option String}
    (hentry : f.normalize entry.1 = f.normalize (String.ofList name)) :
    ∃ e, (Document.parse f (String.ofList (Stretch.mark text.toList ++ x.rewrite
        (x.tag.update style escaped (unmarked x.tag.attributes) [name]) x.rest))).element? x.id =
          some e ∧
      e.attributes.map Attribute.entry ≠
        x.tag.attributes.map (WrittenAttribute.entry f) ++ [entry] := by
  obtain ⟨front, hfront⟩ := List.getLast?_eq_some_iff.1 hb
  obtain ⟨c, hc, hnot, -⟩ := (x.sound_attribute (a := b) (by simp [hfront])).name.first
  have hsource : ∃ c ∈ b.source, isGap c = false := by
    refine ⟨c, ?_, hnot⟩
    simp [WrittenAttribute.source, List.mem_of_mem_head? hc]
  have hreads := x.sound.reads
  have hstart := x.sound.behind
  rw [hfront] at hreads hstart
  obtain ⟨hreads, hb', hbehind, -⟩ := reads_append_iff.1 hreads
  rw [List.flatMap_singleton] at hreads
  have hhead : ∀ c ∈ (x.tag.attributes.flatMap WrittenAttribute.source ++ (x.tag.gap ++
      (newSource escaped name ++ (x.tag.closing.source ++ x.rest)))).head?,
        endsTagName c = true := by
    intro d hd
    apply hstart d
    rw [hfront] at hd
    cases hall : (front ++ [b]).flatMap WrittenAttribute.source with
    | nil =>
      rw [List.flatMap_append, List.flatMap_singleton] at hall
      rw [(List.append_eq_nil_iff.1 hall).2] at hsource
      simp at hsource
    | cons d' rest =>
      rw [hall] at hd
      exact hd
  obtain ⟨e, he, hattributes⟩ := x.element_behind hhead
  refine ⟨e, by rw [x.rewrite_unmarked]; exact he, ?_⟩
  intro h
  rw [hattributes, Growth.entries_attributesOf, hfront, List.flatMap_append,
    List.flatMap_singleton, List.append_assoc,
    readAttributes_append (reads_append hsource hreads _), List.map_append, List.map_append,
    List.append_assoc] at h
  exact entries_open hb' hbehind x.sound.ends hopen hname hq hentry (List.append_cancel_left h)

end Site

theorem setAttribute_of_absent {f : Flavor} {o : PlanOptions} {text name value : String}
    {id : Nat} {n : Node} {e : Element}
    (hn : (Document.parse f text).nodes[id]? = some n) (he : n.element? = some e)
    (ha : e.findAttribute f name = none) (hname : IsName name.toList) :
    ∃ edit text', Plan.setAttribute f o n e name value = some edit ∧
      applyEdits text (Edit.shiftPastMark text.toList [edit]) = .ok text' ∧
      ((∃ new : String × Option String, f.namesMatch new.1 name = true ∧
          new.2 = some (legal o.escaping value) ∧
          (Document.parse f text').outlines = (Document.parse f text).outlines.modify id
            (Outline.mapEntries fun entries => entries ++ [new])) ↔
        e.isOpenEnded = false) := by
  obtain ⟨x, rfl, hhead⟩ := exists_site_parse hn he
  obtain ⟨hattributes, -, -⟩ := x.attributes_of_head hhead rfl he
  have hq := quotable_escapeChars o.escaping value.toList
  have hplan : Plan.setAttribute f o n e name value =
      some (.insert x.delimiter
        (String.ofList (newSource (escapeChars o.escaping value.toList) name.toList))) := by
    rw [Plan.setAttribute_eq, ha, x.delimiterOffset_eq hhead he, ← newText_ofList]
  refine ⟨_, _, hplan, x.applyEdits_insert o.quotes _ _, ?_⟩
  rw [Element.isOpenEnded_eq hattributes]
  constructor
  · rintro ⟨new, hmatch, -, houtlines⟩
    cases hlast : x.tag.attributes.getLast? with
    | none => rfl
    | some b =>
      cases hopen : b.isOpen with
      | false => exact hopen
      | true =>
        have hentry := Flavor.namesMatch_iff.1 hmatch
        rw [← String.ofList_toList (s := name)] at hentry
        obtain ⟨e', he', hne⟩ := x.entries_insert o.quotes hq hname hlast hopen hentry
        have hold : (Document.parse f text).element? x.id = some e := by
          rw [Document.element?, hn]
          exact he
        have hentries := Document.entries_of_outlines hold he' houtlines
        rw [hattributes, Growth.entries_attributesOf] at hentries
        exact absurd hentries hne
  · intro hclosed
    refine ⟨(f.normalize name, some (legal o.escaping value)), ?_, rfl, ?_⟩
    · rw [Flavor.namesMatch_iff, Flavor.normalize_normalize]
    · have hopen : ∀ b ∈ x.tag.attributes.getLast?, b.isOpen = false := by
        intro b hb
        rw [Option.mem_def.1 hb] at hclosed
        exact hclosed
      have houtlines := x.outlines_insert o.quotes hq hname hopen
      rwa [unescape_escapeChars, String.ofList_toList] at houtlines

/-- The element `<a b=>` is not given another attribute. -/
theorem setAttribute_of_absent_dangling :
    ∃ text', applyEdits "<a b=>"
        (Edit.shiftPastMark "<a b=>".toList [.insert 5 " c=\"v\""]) = .ok text' ∧
      ¬∃ new : String × Option String, Flavor.html.namesMatch new.1 "c" = true ∧
        new.2 = some (legal .html "v") ∧
        (Document.parse .html text').outlines = (Document.parse .html "<a b=>").outlines.modify 0
          (Outline.mapEntries fun entries => entries ++ [new]) := by
  let b : Attribute := ⟨"b", ⟨⟨3, 1, 4⟩, ⟨4, 1, 5⟩⟩, some "", ⟨⟨4, 1, 5⟩, ⟨4, 1, 5⟩⟩, none, false⟩
  let e : Element := ⟨"a", [b], .bracket, none⟩
  let n : Node := ⟨.element e, ⟨⟨0, 1, 1⟩, ⟨6, 1, 7⟩⟩, "<a b=>", none⟩
  have hn : (Document.parse .html "<a b=>").nodes[0]? = some n := by decide +kernel
  have ha : e.findAttribute .html "c" = none := by decide +kernel
  have hname : IsName "c".toList := by decide
  have hplan : Plan.setAttribute .html ⟨.html, .preserve⟩ n e "c" "v" =
      some (.insert 5 " c=\"v\"") := by decide +kernel
  obtain ⟨edit, text', hedit, happly, hiff⟩ :=
    @setAttribute_of_absent .html ⟨.html, .preserve⟩ "<a b=>" "c" "v" 0 n e hn rfl ha hname
  obtain rfl := Option.some.inj (hplan.symm.trans hedit)
  refine ⟨text', happly, ?_⟩
  intro hnew
  cases hiff.1 hnew

end MarkupSplice
