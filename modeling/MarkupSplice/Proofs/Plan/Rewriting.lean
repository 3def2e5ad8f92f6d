import MarkupSplice.Proofs.Markup.Site
import MarkupSplice.Proofs.Plan.Changes

/-!
# Texts with planned edits made

The planned edits for an element, in whatever order, make of its text the text
with the updated start tag at the same site (`applyEdits_site`), and the text
is parsed again behind the byte-order mark that it had (`nodes_parse_rewrite`).
-/
namespace MarkupSplice
open Markup Text

theorem newText_ofList (name : String) (escaped : List Char) :
    Plan.newText name (String.ofList escaped) = String.ofList (newSource escaped name.toList) := by
  rw [← String.toList_inj]
  simp [Plan.newText, newSource, Assignment.fresh, Assignment.source, WrittenValue.source,
    Plan.quoted]

theorem not_prefix_newSource {escaped a b : List Char} (ha : IsName a) (hb : IsName b)
    (h : newSource escaped a <+: newSource escaped b) : a = b := by
  have hsource : ∀ n, newSource escaped n = ' ' :: (n ++ '=' :: ('"' :: escaped ++ ['"'])) := by
    intro n
    simp [newSource, Assignment.fresh, Assignment.source, WrittenValue.source]
  rw [hsource, hsource, List.cons_prefix_cons] at h
  obtain ⟨w, hw⟩ := h.2
  have htake : ∀ (n y : List Char), IsName n →
      (n ++ '=' :: y).takeWhile (fun c => !endsAttributeName c) = n := by
    intro n y hn
    refine takeWhile_append_of_stop (fun c hc => by simp [hn.2 c hc]) ?_
    intro c hc
    cases hc
    rfl
  rw [List.append_assoc, List.cons_append] at hw
  have hname := congrArg (List.takeWhile fun c => !endsAttributeName c) hw
  rwa [htake a _ ha, htake b _ hb] at hname

namespace Site

variable {f : Flavor} {s : List Char} (x : Site f s) (style : QuoteStyle) (escaped : List Char)

def lead : List Char := x.front ++ '<' :: x.tag.name

def first : Position := Position.origin.advance x.lead

def attributes : List Attribute := Growth.attributesOf f x.first x.tag.attributes

def delimiter : Nat :=
  byteLength x.lead +
    byteLength (x.tag.attributes.flatMap WrittenAttribute.source ++ x.tag.gap)

def stretches (ms : List Marked) (inserted : List (List Char)) (tail : List Stretch) :
    List Stretch :=
  .keep x.lead :: (tagStretches style escaped x.tag.gap false ms ++
    (inserted.map Stretch.insert ++ .keep x.tag.closing.source :: tail))

variable {style escaped} {ms : List Marked} {inserted names : List (List Char)}
  {tail : List Stretch}

theorem rewrite_eq (u : List Char) :
    x.rewrite x.tag u = x.lead ++ (x.tag.attributes.flatMap WrittenAttribute.source ++ x.tag.gap ++
      (x.tag.closing.source ++ u)) := by
  simp [rewrite, lead, StartTag.source]

theorem rewrite_update (u : List Char) :
    x.rewrite (x.tag.update style escaped ms names) u =
      x.lead ++ ((setMarked style escaped false ms).flatMap WrittenAttribute.source ++
        (x.tag.gapBehind ms ++
          ((names.map (newSource escaped)).flatten ++ (x.tag.closing.source ++ u)))) := by
  rw [rewrite, StartTag.source_update, lead]
  simp [List.flatMap_def]

theorem oldText_stretches (hms : ms.map Prod.fst = x.tag.attributes) :
    Stretch.oldText (x.stretches style escaped ms inserted tail) =
      x.rewrite x.tag (Stretch.oldText tail) := by
  have htag : Stretch.oldText (tagStretches style escaped x.tag.gap false ms) = _ :=
    oldText_tagStretches false ms
  have hinserted : Stretch.oldText (inserted.map Stretch.insert) = [] := by
    simp [Stretch.oldText, Stretch.insert]
  rw [hms] at htag
  rw [rewrite_eq, stretches, Stretch.oldText_cons, Stretch.oldText_append, htag,
    Stretch.oldText_append, hinserted]
  rfl

theorem newText_stretches :
    Stretch.newText (x.stretches style escaped ms inserted tail) =
      x.lead ++ ((setMarked style escaped false ms).flatMap WrittenAttribute.source ++
        (x.tag.gapBehind ms ++
          (inserted.flatten ++ (x.tag.closing.source ++ Stretch.newText tail)))) := by
  have htag : Stretch.newText (tagStretches style escaped x.tag.gap false ms) = _ :=
    newText_tagStretches false ms
  have hinserted : Stretch.newText (inserted.map Stretch.insert) = inserted.flatten := by
    simp [Stretch.newText, Stretch.insert, List.flatMap_map, List.flatMap_id']
  rw [stretches, Stretch.newText_cons, Stretch.newText_append, htag, Stretch.newText_append,
    hinserted]
  simp [Stretch.keep, StartTag.gapBehind]

theorem sound_attribute {a : WrittenAttribute} (ha : a ∈ x.tag.attributes) : a.Sound :=
  sound_of_reads x.sound.reads ha

theorem sound_marked (hms : ms.map Prod.fst = x.tag.attributes) : ∀ m ∈ ms, m.1.Sound := by
  intro m hm
  apply x.sound_attribute
  rw [← hms]
  exact List.mem_map_of_mem hm

theorem offset_first : x.first.offset = byteLength x.lead := by simp [first, Position.origin]

theorem edits_parts (hms : ms.map Prod.fst = x.tag.attributes) :
    Stretch.edits 0 (x.stretches style escaped ms inserted tail) =
      Stretch.edits (byteLength x.lead) (tagStretches style escaped x.tag.gap false ms) ++
        (inserted.map (fun t => .insert x.delimiter (String.ofList t)) ++
          Stretch.edits (x.delimiter + byteLength x.tag.closing.source) tail) := by
  have hinsert : ∀ n xs, Stretch.edits n (inserted.map Stretch.insert ++ xs) =
      inserted.map (fun t => Edit.insert n (String.ofList t)) ++ Stretch.edits n xs := by
    intro n xs
    induction inserted with
    | nil => rfl
    | cons t ts ih => simp [ih]
  have hold : Stretch.oldText (tagStretches style escaped x.tag.gap false ms) = _ :=
    oldText_tagStretches false ms
  rw [hms] at hold
  rw [stretches, Stretch.edits_keep, Nat.zero_add, Stretch.edits_append, hold, hinsert,
    Stretch.edits_keep, delimiter]

theorem changes_eq (o : PlanOptions) (escaped : List Char)
    (hms : ms.map Prod.fst = x.tag.attributes) :
    Plan.changes o x.delimiter (String.ofList escaped) x.attributes (ms.map Prod.snd) =
      Stretch.edits (byteLength x.lead) (tagStretches o.quotes escaped x.tag.gap false ms) := by
  have htag : Stretch.edits (x.first.offset + if false then byteLength (gapOf x.tag.gap ms) else 0)
      (tagStretches o.quotes escaped x.tag.gap false ms) =
        Plan.changes o (x.first.offset +
            byteLength ((ms.map Prod.fst).flatMap WrittenAttribute.source ++ x.tag.gap))
          (String.ofList escaped) (Growth.attributesOf f x.first (ms.map Prod.fst))
          (ms.map Prod.snd) := edits_tagStretches (x.sound_marked hms) false
  rw [hms, x.offset_first, ← delimiter] at htag
  exact htag.symm

theorem distinct_stretches (hms : ms.map Prod.fst = x.tag.attributes)
    (hinserted : inserted.Pairwise fun a b => ¬a <+: b)
    (hfront : inserted ≠ [] → ∀ e ∈ Stretch.edits (byteLength x.lead)
      (tagStretches style escaped x.tag.gap false ms), e.start < x.delimiter)
    (htail : (Stretch.edits (x.delimiter + byteLength x.tag.closing.source) tail).Pairwise
      fun a b => a.start < b.start)
    (hbehind : ∀ e ∈ Stretch.edits (x.delimiter + byteLength x.tag.closing.source) tail,
      x.delimiter < e.start) :
    Stretch.Distinct (x.stretches style escaped ms inserted tail) := by
  have hdistinct : ∀ {a b : Edit}, a.start < b.start →
      a.start = b.start → b.stop = b.start ∧ ¬a.text.toList <+: b.text.toList :=
    fun hlt heq => absurd heq (Nat.ne_of_lt hlt)
  have hold : Stretch.oldText (tagStretches style escaped x.tag.gap false ms) = _ :=
    oldText_tagStretches false ms
  rw [Stretch.Distinct, edits_parts x hms]
  refine List.pairwise_append.2 ⟨(pairwise_tagStretches (x.sound_marked hms) _).imp hdistinct,
    List.pairwise_append.2 ⟨List.pairwise_map.2 ?_, htail.imp hdistinct, ?_⟩, ?_⟩
  · refine hinserted.imp fun {a b} hne _ => ⟨rfl, ?_⟩
    simpa only [Edit.insert, String.toList_ofList] using hne
  · intro a ha b hb
    obtain ⟨t, -, rfl⟩ := List.mem_map.1 ha
    exact hdistinct (hbehind b hb)
  · intro a ha b hb
    rcases List.mem_append.1 hb with hb | hb
    · obtain ⟨t, ht, rfl⟩ := List.mem_map.1 hb
      exact hdistinct (hfront (List.ne_nil_of_mem ht) a ha)
    · have hstop := Stretch.start_le_of_mem ha
      rw [hold, hms, ← delimiter] at hstop
      have hlt := hbehind b hb
      exact hdistinct (by omega)

/-- The planned edits make of the text what its stretches say, whatever order they are given in. -/
theorem applyEdits_site {text : String} {es : List Edit}
    (htext : (Document.stripMark text.toList).1 = s) (hms : ms.map Prod.fst = x.tag.attributes)
    (hdistinct : Stretch.Distinct (x.stretches style escaped ms inserted tail))
    (htail : Stretch.oldText tail = x.rest)
    (hes : ∀ o, Edit.startingAt o es =
      Edit.startingAt o (Stretch.edits 0 (x.stretches style escaped ms inserted tail))) :
    applyEdits text (Edit.shiftPastMark text.toList es) =
      .ok (String.ofList (Stretch.mark text.toList ++
        (x.lead ++ ((setMarked style escaped false ms).flatMap WrittenAttribute.source ++
          (x.tag.gapBehind ms ++
            (inserted.flatten ++ (x.tag.closing.source ++ Stretch.newText tail))))))) := by
  have hold : (Document.stripMark text.toList).1 =
      Stretch.oldText (x.stretches style escaped ms inserted tail) := by
    rw [htext, oldText_stretches x hms, htail, x.rewrite_tag]
  rw [Stretch.applyEdits_stretches hold hdistinct hes, newText_stretches]

theorem head_rewrite_eq (t t' : StartTag) (u u' : List Char) :
    (x.rewrite t u).head? = (x.rewrite t' u').head? := by
  unfold rewrite
  cases x.front <;> rfl

end Site

theorem Document.nodes_parse (f : Flavor) (text : String) :
    (Document.parse f text).nodes =
      (Growth.ofPieces f (pieces f (Document.stripMark text.toList).1)).nodes := rfl

theorem Document.stripMark_mark {s y : List Char}
    (h : y.head? = (Document.stripMark s).1.head?) :
    (Document.stripMark (Stretch.mark s ++ y)).1 = y := by
  by_cases hs : s.head? = some '\ufeff'
  · simp [Stretch.mark, hs, Document.stripMark, Document.byteOrderMark]
  · have hstrip : (Document.stripMark s).1 = s := by
      have hmark := Stretch.mark_append s
      rwa [Stretch.mark, if_neg hs, List.nil_append] at hmark
    rw [hstrip] at h
    rw [Stretch.mark, if_neg hs, List.nil_append]
    cases y with
    | nil => rfl
    | cons c y =>
      have hc : c ≠ Document.byteOrderMark := by
        rintro rfl
        exact hs h.symm
      simp [Document.stripMark, hc]

theorem Site.stripMark_rewrite {f : Flavor} {text : String}
    (x : Site f (Document.stripMark text.toList).1) (t : StartTag) (u : List Char) :
    (Document.stripMark (String.ofList (Stretch.mark text.toList ++ x.rewrite t u)).toList).1 =
      x.rewrite t u := by
  have hhead := x.head_rewrite_eq t x.tag u x.rest
  rw [x.rewrite_tag] at hhead
  rw [String.toList_ofList, Document.stripMark_mark hhead]

theorem Site.nodes_parse_rewrite {f : Flavor} {text : String}
    (x : Site f (Document.stripMark text.toList).1) (t : StartTag) (u : List Char) :
    (Document.parse f (String.ofList (Stretch.mark text.toList ++ x.rewrite t u))).nodes =
      (Growth.ofPieces f (Markup.pieces f (x.rewrite t u))).nodes := by
  rw [Document.nodes_parse, x.stripMark_rewrite]

end MarkupSplice
