import MarkupSplice.Proofs.Markup.Writing
import MarkupSplice.Proofs.Plan.Region

/-!
# Where attributes stand

The ranges of an attribute are those of its parts in the text: the name, the
equals sign with the white space around it, the value and the quotes that it
stands in (`Attribute.Stands`). An attribute is read at the place where it
begins, and the next one where it ends, so all that is said of one tag follows
by induction on the attributes of the tag.
-/
namespace MarkupSplice
open Markup Text

def Attribute.tail (a : Attribute) : List Char := if a.closed then a.quote.toList else []

/-- Whether an attribute is read off a text at its ranges, and its source ends at `stop`. -/
structure Attribute.Stands (f : Flavor) (s : List Char) (a : Attribute) (stop : Nat) : Prop where
  nameInside : a.nameRange.Inside s
  valueInside : a.valueRange.Inside s
  ordered : a.nameRange.start.offset < a.nameRange.stop.offset ∧ a.nameRange.stop.offset ≤ stop
  name : a.name = f.normalize (String.ofList (a.nameRange.sourceIn s))
  bare : a.value = none → a.quote = none ∧ stop = a.nameRange.stop.offset
  assigned : ∀ v, a.value = some v → ∃ before after raw,
    (∀ c ∈ before ++ after, isSpace c = true) ∧
      slice s a.nameRange.stop.offset stop =
        before ++ '=' :: (after ++ (a.quote.toList ++ (raw ++ a.tail))) ∧
      v = String.ofList (unescapeChars raw)
  collapsed : a.valueRange = .at a.nameRange.stop ↔ a.value.getD "" = ""
  value : a.value.getD "" ≠ "" →
    a.value = some (String.ofList (unescapeChars (a.valueRange.sourceIn s))) ∧
      slice s (a.valueRange.start.offset - byteLength a.quote.toList) a.valueRange.start.offset =
        a.quote.toList ∧
      slice s a.valueRange.stop.offset stop = a.tail ∧
      stop = a.valueRange.stop.offset + byteLength a.tail
  cutOff : ∀ q ∈ a.quote, (q = '"' ∨ q = '\'') ∧ (a.closed = true ∨ stop = byteLength s)

namespace Markup

def WrittenValue.tail (w : WrittenValue) : List Char := if w.isClosed then w.quote?.toList else []

def Assignment.front (g : Assignment) : List Char :=
  g.before ++ '=' :: (g.after ++ g.value.quote?.toList)

theorem WrittenValue.source_eq (w : WrittenValue) :
    w.source = w.quote?.toList ++ (w.text ++ w.tail) := by
  cases w with
  | unquoted s => exact (List.append_nil s).symm
  | quoted q s closed => rfl

theorem Assignment.source_eq (g : Assignment) :
    g.source = g.front ++ g.value.text ++ g.value.tail := by
  rw [source, g.value.source_eq, front]
  simp only [List.append_assoc, List.cons_append]

def valueRangeAt (lead front raw : List Char) : Range :=
  if raw.isEmpty then .at (.advance .origin lead)
  else ⟨.advance .origin (lead ++ front), .advance .origin (lead ++ front ++ raw)⟩

variable {lead front raw u : List Char}

theorem valueRangeAt_of_ne (h : raw ≠ []) : valueRangeAt lead front raw =
    ⟨.advance .origin (lead ++ front), .advance .origin (lead ++ front ++ raw)⟩ :=
  if_neg (by rwa [List.isEmpty_iff])

theorem inside_valueRangeAt :
    (valueRangeAt lead front raw).Inside (lead ++ front ++ raw ++ u) := by
  cases raw with
  | nil =>
    rw [List.append_nil, List.append_assoc]
    exact ⟨Position.inside_advance _ _, Position.inside_advance _ _⟩
  | cons c raw =>
    refine ⟨?_, Position.inside_advance _ _⟩
    rw [List.append_assoc]
    exact Position.inside_advance _ _

theorem valueRangeAt_eq_iff :
    valueRangeAt lead front raw = .at (.advance .origin lead) ↔ raw = [] := by
  constructor
  · intro h
    by_contra hne
    have hlength := congrArg (fun r => r.stop.offset) h
    have hpos := byteLength_pos hne
    simp only [valueRangeAt_of_ne hne, Range.at, Position.offset_advance_origin,
      byteLength_append] at hlength
    omega
  · rintro rfl
    rfl

end Markup

namespace Growth

variable {f : Flavor} {u v gap name : List Char} {w : WrittenAttribute} {g : Assignment}

theorem attributeOf_bare : attributeOf f (.advance .origin u) ⟨gap, name, none⟩ =
    ⟨f.normalize (String.ofList name),
      ⟨.advance .origin (u ++ gap), .advance .origin (u ++ gap ++ name)⟩, none,
      .at (.advance .origin (u ++ gap ++ name)), none, false⟩ := by
  simp only [attributeOf, Position.advance_append, Option.map_none, Option.bind_none,
    Option.any_none]

theorem attributeOf_assigned : attributeOf f (.advance .origin u) ⟨gap, name, some g⟩ =
    ⟨f.normalize (String.ofList name),
      ⟨.advance .origin (u ++ gap), .advance .origin (u ++ gap ++ name)⟩,
      some (String.ofList (unescapeChars g.value.text)),
      valueRangeAt (u ++ gap ++ name) g.front g.value.text, g.value.quote?,
      g.value.isClosed⟩ := by
  simp only [attributeOf, valueRangeAt, Assignment.front, ← Position.advance_append,
    Option.map_some, Option.bind_some, Option.any_some, List.append_assoc, List.cons_append]

theorem stands_bare (hname : name ≠ []) :
    (attributeOf f (.advance .origin u) ⟨gap, name, none⟩).Stands f (u ++ gap ++ name ++ v)
      (byteLength (u ++ gap ++ name)) := by
  have hpos := byteLength_pos hname
  rw [attributeOf_bare]
  constructor
  case nameInside =>
    refine ⟨?_, Position.inside_advance _ _⟩
    rw [List.append_assoc]
    exact Position.inside_advance _ _
  case valueInside => exact ⟨Position.inside_advance _ _, Position.inside_advance _ _⟩
  case ordered =>
    simp only [Position.offset_advance_origin, byteLength_append]
    omega
  case name => rw [sourceIn_advance]
  case bare => exact fun _ => ⟨rfl, (Position.offset_advance_origin _).symm⟩
  case assigned => nofun
  case collapsed => simp
  case value => exact fun hne => absurd rfl hne
  case cutOff => nofun

theorem slices_value {lead : List Char} (h : g.value.text ≠ []) :
    (valueRangeAt lead g.front g.value.text).sourceIn (lead ++ g.source ++ v) = g.value.text ∧
      slice (lead ++ g.source ++ v)
          ((valueRangeAt lead g.front g.value.text).start.offset -
            byteLength g.value.quote?.toList)
          (valueRangeAt lead g.front g.value.text).start.offset = g.value.quote?.toList ∧
      slice (lead ++ g.source ++ v) (valueRangeAt lead g.front g.value.text).stop.offset
          (byteLength (lead ++ g.source)) = g.value.tail ∧
      byteLength (lead ++ g.source) =
        (valueRangeAt lead g.front g.value.text).stop.offset + byteLength g.value.tail := by
  have htext : lead ++ g.source ++ v = lead ++ g.front ++ g.value.text ++ (g.value.tail ++ v) := by
    rw [g.source_eq]
    simp only [List.append_assoc]
  have hfront : g.front = g.before ++ '=' :: g.after ++ g.value.quote?.toList := by
    simp only [Assignment.front, List.append_assoc, List.cons_append]
  rw [valueRangeAt_of_ne h]
  refine ⟨by rw [htext, sourceIn_advance], ?_, ?_, ?_⟩
  · refine slice_eq (x := lead ++ (g.before ++ '=' :: g.after))
      (z := g.value.text ++ (g.value.tail ++ v)) ?_ ?_ ?_
    · rw [htext, hfront]
      simp only [List.append_assoc]
    · simp only [hfront, Position.offset_advance_origin, byteLength_append]
      omega
    · simp only [hfront, Position.offset_advance_origin, List.append_assoc]
  · refine slice_eq (x := lead ++ g.front ++ g.value.text) (z := v) ?_
      (Position.offset_advance_origin _) ?_
    · rw [htext, List.append_assoc _ g.value.tail]
    · simp only [g.source_eq, List.append_assoc]
  · simp only [g.source_eq, Position.offset_advance_origin, byteLength_append, Nat.add_assoc]

theorem stands_assigned (hname : name ≠ []) (hg : g.Sound) (hends : g.value.EndsBefore v) :
    (attributeOf f (.advance .origin u) ⟨gap, name, some g⟩).Stands f
      (u ++ gap ++ name ++ g.source ++ v) (byteLength (u ++ gap ++ name ++ g.source)) := by
  have hpos := byteLength_pos hname
  have hempty : (some (String.ofList (unescapeChars g.value.text))).getD "" = "" ↔
      g.value.text = [] := by
    rw [Option.getD_some, ofList_eq_empty, unescapeChars_eq_nil]
  rw [attributeOf_assigned]
  constructor
  case nameInside =>
    simp only [List.append_assoc]
    refine ⟨?_, ?_⟩
    · rw [← List.append_assoc u gap]
      exact Position.inside_advance _ _
    · rw [← List.append_assoc gap, ← List.append_assoc u]
      exact Position.inside_advance _ _
  case valueInside =>
    rw [g.source_eq]
    have hinside := @inside_valueRangeAt (u ++ gap ++ name) g.front g.value.text (g.value.tail ++ v)
    simpa only [List.append_assoc] using hinside
  case ordered =>
    simp only [Position.offset_advance_origin, byteLength_append]
    omega
  case name => rw [List.append_assoc (u ++ gap ++ name), sourceIn_advance]
  case bare => nofun
  case assigned =>
    intro written hwritten
    obtain rfl := Option.some.inj hwritten
    refine ⟨g.before, g.after, g.value.text, ?_, ?_, rfl⟩
    · exact List.forall_mem_append.2 ⟨hg.before, hg.after⟩
    · refine (slice_eq rfl (Position.offset_advance_origin _) rfl).trans ?_
      rw [g.source_eq, Assignment.front]
      simp only [List.append_assoc, List.cons_append, WrittenValue.tail, Attribute.tail]
  case collapsed => rw [valueRangeAt_eq_iff, hempty]
  case value =>
    rw [Ne, hempty]
    intro hne
    obtain ⟨hsource, hslices⟩ := @slices_value v g (u ++ gap ++ name) hne
    exact ⟨by rw [hsource], hslices⟩
  case cutOff =>
    intro q hq
    obtain ⟨before, after, value⟩ := g
    cases value with
    | unquoted raw => cases hq
    | quoted q' raw closed =>
      obtain rfl := Option.some.inj hq
      refine ⟨by simpa [isQuote] using hg.value.1, ?_⟩
      refine hends.imp_right fun hv => ?_
      rw [hv, List.append_nil]

theorem stands_attributeOf (hw : w.Sound) (hends : w.EndsBefore v) :
    (attributeOf f (Position.origin.advance u) w).Stands f (u ++ w.source ++ v)
      (byteLength (u ++ w.source)) := by
  obtain ⟨gap, name, assignment⟩ := w
  cases assignment with
  | none =>
    have hstands := @stands_bare f u v gap name hw.name.ne_nil
    simpa [WrittenAttribute.source] using hstands
  | some g =>
    have hstands := @stands_assigned f u v gap name g hw.name.ne_nil (hw.assignment g rfl) hends
    simpa [WrittenAttribute.source] using hstands

theorem exists_stops {as : List WrittenAttribute} (u : List Char) (h : Reads v as) :
    ∃ stops : List (Attribute × Nat),
      stops.map Prod.fst = attributesOf f (Position.origin.advance u) as ∧
      stops.Pairwise (fun p q => p.2 ≤ q.1.nameRange.start.offset) ∧
      ∀ p ∈ stops, p.1.Stands f (u ++ as.flatMap WrittenAttribute.source ++ v) p.2 ∧
        byteLength u ≤ p.1.nameRange.start.offset ∧
        p.2 ≤ byteLength (u ++ as.flatMap WrittenAttribute.source) := by
  induction as generalizing u with
  | nil => exact ⟨[], rfl, List.Pairwise.nil, by simp⟩
  | cons w as ih =>
    obtain ⟨hw, hends, hreads⟩ := h
    obtain ⟨stops, hmap, hpairwise, hstops⟩ := ih (u ++ w.source) hreads
    have hstands := @stands_attributeOf f u _ w hw hends
    have hsource : u ++ (w :: as).flatMap WrittenAttribute.source =
        u ++ w.source ++ as.flatMap WrittenAttribute.source := by
      rw [List.flatMap_cons, List.append_assoc]
    refine ⟨(attributeOf f (Position.origin.advance u) w, byteLength (u ++ w.source)) :: stops,
      ?_, List.pairwise_cons.2 ⟨fun p hp => (hstops p hp).2.1, hpairwise⟩, ?_⟩
    · rw [List.map_cons, hmap, attributesOf, Position.advance_append]
    · intro p hp
      rw [hsource]
      rcases List.mem_cons.1 hp with rfl | hp
      · refine ⟨by simpa using hstands, ?_, ?_⟩
        · have hstart : (attributeOf f (Position.origin.advance u) w).nameRange.start.offset =
              byteLength (u ++ w.gap) := by
            rw [← Position.offset_advance_origin, Position.advance_append]
            rfl
          rw [hstart, byteLength_append]
          exact Nat.le_add_right _ _
        · rw [byteLength_append (u ++ w.source)]
          exact Nat.le_add_right _ _
      · obtain ⟨hstands', hle, hstop⟩ := hstops p hp
        rw [byteLength_append] at hle
        exact ⟨hstands', by omega, hstop⟩

end Growth

namespace Site

variable {f : Flavor} {s : List Char} (x : Site f s) {n : Node} {e : Element}

theorem source_eq : s = x.lead ++ x.tag.attributes.flatMap WrittenAttribute.source ++
    (x.tag.gap ++ x.tag.closing.source ++ x.rest) := by
  have hsource := x.rewrite_eq x.rest
  rw [x.rewrite_tag] at hsource
  simpa using hsource

theorem delimiter_eq : x.delimiter =
    byteLength (x.lead ++ x.tag.attributes.flatMap WrittenAttribute.source ++ x.tag.gap) := by
  simp only [delimiter, byteLength_append, Nat.add_assoc]

end Site

/-- Where the parts of a start tag stand: its name, its attributes and its closing. -/
theorem attribute_ranges_exact {f : Flavor} {text : String} {id : Nat} {n : Node} {e : Element}
    (hn : (Document.parse f text).nodes[id]? = some n) (he : n.element? = some e) :
    let s := (Document.stripMark text.toList).1
    (∃ written, e.name = f.normalize (String.ofList written) ∧
      slice s n.range.start.offset (n.nameEnd e) = '<' :: written) ∧
    (∃ stops : List (Attribute × Nat), stops.map Prod.fst = e.attributes ∧
      stops.Pairwise (fun p q => p.2 ≤ q.1.nameRange.start.offset) ∧
      ∀ p ∈ stops, p.1.Stands f s p.2 ∧ n.nameEnd e ≤ p.1.nameRange.start.offset ∧
        p.2 ≤ n.delimiterOffset e) ∧
    n.range.stop.offset = n.delimiterOffset e + byteLength e.closing.source ∧
    slice s (n.delimiterOffset e) n.range.stop.offset = e.closing.source ∧
    (e.closing = .cutOff → n.range.stop.offset = byteLength s) := by
  intro s
  obtain ⟨x, rfl, hhead⟩ := exists_site_parse hn he
  obtain ⟨hattributes, hclosing, hrange⟩ := x.attributes_of_head hhead rfl he
  have hsource := x.source_eq
  have hdelimiter := x.delimiterOffset_eq hhead he
  have hstop := x.stop_of_head hhead he
  rw [x.nameEnd_eq hhead he, hdelimiter, hclosing]
  refine ⟨⟨x.tag.name, x.name_of_head hhead he, ?_⟩, ?_, hstop, ?_, ?_⟩
  · refine slice_eq (x := x.front) ?_ ?_ rfl
      (z := x.tag.attributes.flatMap WrittenAttribute.source ++
        (x.tag.gap ++ x.tag.closing.source ++ x.rest))
    · rw [← Site.lead, ← List.append_assoc]
      exact hsource
    · rw [hrange, x.place_growth, Position.offset_advance_origin]
  · obtain ⟨stops, hmap, hpairwise, hstops⟩ := Growth.exists_stops (f := f) x.lead x.sound.reads
    rw [← hsource] at hstops
    refine ⟨stops, hmap.trans hattributes.symm, hpairwise, fun p hp => ?_⟩
    obtain ⟨hstands, hle, hend⟩ := hstops p hp
    refine ⟨hstands, hle, ?_⟩
    rw [x.delimiter_eq, byteLength_append]
    omega
  · refine slice_eq ?_ x.delimiter_eq ?_ (z := x.rest)
    · simpa only [List.append_assoc] using hsource
    · rw [hstop, x.delimiter_eq, ← byteLength_append]
  · intro hcut
    have hends := x.sound.ends
    rw [hcut] at hends
    rw [hstop, x.delimiter_eq, ← byteLength_append, hcut]
    rw [hends.2, hcut] at hsource
    exact congrArg byteLength (by simpa using hsource.symm)

theorem attribute_ranges_exact_quoted :
    let b : Attribute :=
      ⟨"b", ⟨⟨3, 1, 4⟩, ⟨4, 1, 5⟩⟩, some "x&", ⟨⟨7, 1, 8⟩, ⟨13, 1, 14⟩⟩, some '\'', true⟩
    let c : Attribute :=
      ⟨"c", ⟨⟨15, 1, 16⟩, ⟨16, 1, 17⟩⟩, none, ⟨⟨16, 1, 17⟩, ⟨16, 1, 17⟩⟩, none, false⟩
    let e : Element := ⟨"a", [b, c], .slash, none⟩
    let n : Node := ⟨.element e, ⟨⟨0, 1, 1⟩, ⟨18, 1, 19⟩⟩, "<A b= 'x&amp;' c/>", none⟩
    let s := "<A b= 'x&amp;' c/>".toList
    (Document.parse .html "<A b= 'x&amp;' c/>").nodes[0]? = some n ∧
      (∃ stop, b.Stands .html s stop ∧ stop ≤ 15) ∧
      (∃ stop, c.Stands .html s stop ∧ stop ≤ 16) ∧
      slice s (n.delimiterOffset e) 18 = ['/', '>'] := by
  intro b c e n s
  have hn : (Document.parse .html "<A b= 'x&amp;' c/>").nodes[0]? = some n := by decide +kernel
  have hs : (Document.stripMark "<A b= 'x&amp;' c/>".toList).1 = s := by decide +kernel
  obtain ⟨-, ⟨stops, hmap, hpairwise, hstops⟩, -, hdelimiter, -⟩ :=
    attribute_ranges_exact (e := e) hn rfl
  rw [hs] at hstops hdelimiter
  obtain ⟨⟨b', stop⟩, rest, rfl, rfl, hrest⟩ := List.map_eq_cons_iff.1 hmap
  obtain ⟨⟨c', stop'⟩, rest', rfl, rfl, -⟩ := List.map_eq_cons_iff.1 hrest
  obtain ⟨hb, -⟩ := hstops _ List.mem_cons_self
  obtain ⟨hc, -, hend⟩ := hstops _ (List.mem_cons_of_mem _ List.mem_cons_self)
  have hle := (List.pairwise_cons.1 hpairwise).1 _ List.mem_cons_self
  exact ⟨hn, ⟨stop, hb, hle⟩, ⟨stop', hc, hend⟩, hdelimiter⟩

end MarkupSplice
