import MarkupSplice.Proofs.Plan.Joint

/-!
# Setting several attributes

All edits for an element are planned and made together. The element is given
all of the attributes unless the edits at the closing of the tag come in a bad
order: behind the name of a new attribute there is no place for the value of a
bare one (`element_of_several`).
-/
namespace MarkupSplice
open Markup Text

/-- Whether a bare attribute at the closing of the tag comes behind a new one in the list. -/
def Plan.Misordered (f : Flavor) (n : Node) (e : Element) (names : List String) (value : String) :
    Prop :=
  ∃ b c i a, [c, b].Sublist names ∧ e.findAttribute f c = none ∧
    e.findAttribute f b = some (i, a) ∧ a.value.getD "" ≠ value ∧
    a.isBareAt (n.delimiterOffset e) = true

theorem legal_eq_empty {f : Flavor} {value : String} : legal f value = "" ↔ value = "" := by
  rw [legal, ofList_eq_empty, ← String.toList_eq_nil_iff]
  cases f <;> simp [legalChars]

namespace Site

variable {f : Flavor} {s : List Char} (x : Site f s) (o : PlanOptions) (value : String)
  {e : Element} {names : List String} {b : String}

def Late (e : Element) (b : String) : Prop :=
  ∃ i a, e.findAttribute f b = some (i, a) ∧ a.value.getD "" ≠ value ∧
    a.isBareAt x.delimiter = true

theorem late_unique (he : e.attributes = x.attributes) {c : String} (hb : x.Late value e b)
    (hc : x.Late value e c) : f.namesMatch b c = true := by
  obtain ⟨i, a, hfindb, -, hbareb⟩ := hb
  obtain ⟨j, a', hfindc, -, hbarec⟩ := hc
  obtain ⟨ha, hmatchb, -⟩ := Element.getElem_of_findAttribute hfindb
  obtain ⟨ha', hmatchc, -⟩ := Element.getElem_of_findAttribute hfindc
  rw [he] at ha ha'
  have hstart := (x.start_change_eq ⟨.html, .preserve⟩ [] ha).2 hbareb
  have hstart' := (x.start_change_eq ⟨.html, .preserve⟩ [] ha').2 hbarec
  obtain rfl := x.index_eq_of_start _ _ ha ha' (hstart.trans hstart'.symm)
  obtain rfl := Option.some.inj (ha.symm.trans ha')
  rw [Flavor.namesMatch_iff] at hmatchb hmatchc ⊢
  exact hmatchb.symm.trans hmatchc

theorem inserted_append (front back : List String) :
    x.inserted o value (front ++ back) e =
      x.inserted o value front e ++ x.inserted o value back e := by
  rw [inserted, List.filterMap_append, Edit.startingAt_append, List.map_append]
  rfl

theorem inserted_late (he : e.attributes = x.attributes) (hb : x.Late value e b) :
    x.inserted o value [b] e =
      [(Assignment.fresh (escapeChars o.escaping value.toList)).source] := by
  obtain ⟨i, a, hfind, hvalue, hbare⟩ := hb
  have ha := (Element.getElem_of_findAttribute hfind).1
  rw [he] at ha
  have hstart := (x.start_change_eq o (escapeChars o.escaping value.toList) ha).2 hbare
  rw [Attribute.isBareAt, Bool.and_eq_true, Option.isNone_iff_eq_none] at hbare
  rw [inserted, List.filterMap_cons, x.planned_of_ne o value hfind hvalue, List.filterMap_nil,
    Edit.startingAt, List.filter_cons, if_pos (beq_iff_eq.2 hstart), List.filter_nil,
    x.change_of_bare o _ hbare.1]
  simp [Edit.insert]

theorem inserted_missing (he : e.attributes = x.attributes)
    (h : ∀ b ∈ names, ¬x.Late value e b) :
    x.inserted o value names e = ((e.missing f names).map String.toList).map
      (newSource (escapeChars o.escaping value.toList)) := by
  induction names with
  | nil => rfl
  | cons b names ih =>
    have hrest := ih fun c hc => h c (List.mem_cons_of_mem _ hc)
    rw [← List.singleton_append, inserted_append, hrest]
    cases hfind : e.findAttribute f b with
    | none =>
      simp [inserted, x.planned_of_none o value hfind, Edit.startingAt, Edit.insert,
        Element.missing, hfind]
    | some found =>
      obtain ⟨i, a⟩ := found
      have ha := (Element.getElem_of_findAttribute hfind).1
      rw [he] at ha
      have hnone : x.inserted o value [b] e = [] := by
        by_cases hvalue : a.value.getD "" = value
        · simp [inserted, x.planned_of_eq o value hfind hvalue, Edit.startingAt]
        · have hstart : (x.change o (escapeChars o.escaping value.toList) i a).start ≠
              x.delimiter := by
            rw [ne_eq, x.start_change_eq o _ ha]
            exact fun hbare => h b List.mem_cons_self ⟨i, a, hfind, hvalue, hbare⟩
          simp [inserted, x.planned_of_ne o value hfind hvalue, Edit.startingAt, hstart]
      rw [hnone, List.nil_append]
      simp [Element.missing, hfind]

theorem source_attribute_ne_nil {w : WrittenAttribute} (hw : w ∈ x.tag.attributes) :
    w.source ≠ [] := by
  intro hempty
  have hfront : w.gap ++ w.name = [] := (List.append_eq_nil_iff.1 hempty).1
  exact (x.sound_attribute hw).name.ne_nil (List.append_eq_nil_iff.1 hfront).2

theorem split_of_bareAt {i : Nat} {a : Attribute} (ha : x.attributes[i]? = some a)
    (hbare : a.isBareAt x.delimiter = true) :
    ∃ front w, x.tag.attributes = front ++ [w] ∧ i = front.length ∧ w.assignment = none ∧
      x.tag.gap = [] := by
  rw [Attribute.isBareAt, Bool.and_eq_true, Option.isNone_iff_eq_none, beq_iff_eq] at hbare
  obtain ⟨hvalue, hstop⟩ := hbare
  obtain ⟨front, w, behind, hsplit, rfl, rfl⟩ := Growth.split_of_getElem ha
  have hassign : w.assignment = none := by simpa [Growth.attributeOf] using hvalue
  rw [Growth.nameStop_attributeOf, Position.offset_advance, x.offset_first, delimiter,
    hsplit] at hstop
  simp only [List.flatMap_append, List.flatMap_cons, byteLength_append, WrittenAttribute.source,
    hassign, Option.elim_none, byteLength_nil] at hstop
  -- nothing is left between the name and the closing, and what is behind would have a name
  refine ⟨front, w, ?_, rfl, hassign, byteLength_eq_zero.1 (by omega)⟩
  cases behind with
  | nil => exact hsplit
  | cons w' behind =>
    have hmem : w' ∈ x.tag.attributes := by simp [hsplit]
    have hempty : (w' :: behind).flatMap WrittenAttribute.source = [] :=
      byteLength_eq_zero.1 (by omega)
    exact absurd (List.append_eq_nil_iff.1 hempty).1 (x.source_attribute_ne_nil hmem)

theorem apart_eq (h : ∀ b ∈ names, ¬x.Late value e b) :
    x.apart value names e = e.differs f names value := by
  funext i
  cases hdiffers : e.differs f names value i with
  | false => simp [apart, hdiffers]
  | true =>
    obtain ⟨b, hb, a, hfind, hvalue⟩ := Element.differs_iff.1 hdiffers
    have ha := (Element.getElem_of_findAttribute hfind).1
    have hbare : a.isBareAt x.delimiter = false := by
      rw [← Bool.not_eq_true]
      exact fun hbare => h b hb ⟨i, a, hfind, hvalue, hbare⟩
    simp [apart, hdiffers, ha, hbare]

theorem apart_of_lt (he : e.attributes = x.attributes) {i k : Nat} {a : Attribute}
    (ha : e.attributes[i]? = some a) (hbare : a.isBareAt x.delimiter = true) (hk : k < i) :
    x.apart value names e k = e.differs f names value k := by
  obtain ⟨front, w, hsplit, rfl, -⟩ := x.split_of_bareAt (he ▸ ha) hbare
  have hnot : (e.attributes[k]?).any (Attribute.isBareAt x.delimiter) = false := by
    cases hget : e.attributes[k]? with
    | none => rfl
    | some a' =>
      cases hbare' : a'.isBareAt x.delimiter with
      | false => exact hbare'
      | true =>
        obtain ⟨front', w', hsplit', hlength, -⟩ := x.split_of_bareAt (he ▸ hget) hbare'
        have hlen := congrArg List.length (hsplit.symm.trans hsplit')
        simp only [List.length_append, List.length_singleton] at hlen
        omega
  simp [apart, hnot]

theorem marks_of_late (he : e.attributes = x.attributes) (hb : b ∈ names)
    (h : x.Late value e b) :
    ∃ front w, x.tag.attributes = front ++ [w] ∧ w.assignment = none ∧ x.tag.gap = [] ∧
      markAt (e.differs f names value) x.tag.attributes =
        markAt (e.differs f names value) front ++ [(w, true)] ∧
      markAt (x.apart value names e) x.tag.attributes =
        markAt (e.differs f names value) front ++ [(w, false)] := by
  obtain ⟨i, a, hfind, hvalue, hbare⟩ := h
  have ha := (Element.getElem_of_findAttribute hfind).1
  obtain ⟨front, w, hsplit, rfl, hassign, hgap⟩ := x.split_of_bareAt (he ▸ ha) hbare
  have hdiffers := (Element.differs_of_findAttribute value hb hfind).2 hvalue
  have hlast : x.apart value names e front.length = false := by
    simp [apart, ha, hbare]
  have hfront : markAt (x.apart value names e) front =
      markAt (e.differs f names value) front := by
    apply List.ext_getElem?
    intro k
    rw [getElem_markAt, getElem_markAt]
    by_cases hk : k < front.length
    · rw [x.apart_of_lt value he ha hbare hk]
    · simp [List.getElem?_eq_none (Nat.le_of_not_lt hk)]
  refine ⟨front, w, hsplit, hassign, hgap, ?_, ?_⟩
  · rw [hsplit, markAt_concat, hdiffers]
  · rw [hsplit, markAt_concat, hlast, hfront]

theorem not_late_others (he : e.attributes = x.attributes)
    (hpair : names.Pairwise fun a b => f.namesMatch a b = false) {front back : List String}
    (hsplit : names = front ++ b :: back) (h : x.Late value e b) :
    (∀ c ∈ front, ¬x.Late value e c) ∧ ∀ c ∈ back, ¬x.Late value e c := by
  rw [hsplit, List.pairwise_append, List.pairwise_cons] at hpair
  obtain ⟨-, ⟨hback, -⟩, hfront⟩ := hpair
  constructor
  · intro c hc hlate
    have hmatch := x.late_unique value he hlate h
    rw [hfront c hc b List.mem_cons_self] at hmatch
    cases hmatch
  · intro c hc hlate
    have hmatch := x.late_unique value he h hlate
    rw [hback c hc] at hmatch
    cases hmatch

/-- With the value of the bare attribute in front of all new ones, the text is that of the tag
with its attributes set. -/
theorem planned_eq_update (he : e.attributes = x.attributes)
    (hpair : names.Pairwise fun a b => f.namesMatch a b = false)
    (h : ∀ front b back, names = front ++ b :: back → x.Late value e b → e.missing f front = [])
    (u : List Char) :
    x.plannedText o value names e u =
      x.rewrite (x.tag.update o.quotes (escapeChars o.escaping value.toList)
        (markAt (e.differs f names value) x.tag.attributes)
        ((e.missing f names).map String.toList)) u := by
  -- joined behind the bare attribute, its value and the new ones make the attribute that is set
  rw [plannedText, x.rewrite_update]
  by_cases hlate : ∃ b ∈ names, x.Late value e b
  · obtain ⟨b, hb, hlate⟩ := hlate
    obtain ⟨before, w, -, hassign, hgap, hdiffers, hapart⟩ := x.marks_of_late value he hb hlate
    obtain ⟨front, back, rfl⟩ := List.append_of_mem hb
    obtain ⟨hfront, hback⟩ := x.not_late_others value he hpair rfl hlate
    have hnone := h front b back rfl hlate
    have hfound : (e.findAttribute f b).isNone = false := by
      obtain ⟨i, a, hfind, -⟩ := hlate
      rw [hfind]
      rfl
    have hmissing : e.missing f (front ++ b :: back) = e.missing f back := by
      rw [Element.missing, List.filter_append, ← Element.missing, hnone, List.nil_append,
        List.filter_cons, hfound]
      rfl
    have hinserted : x.inserted o value (front ++ b :: back) e =
        (Assignment.fresh (escapeChars o.escaping value.toList)).source ::
          ((e.missing f back).map String.toList).map
            (newSource (escapeChars o.escaping value.toList)) := by
      rw [inserted_append, ← List.singleton_append, inserted_append,
        x.inserted_late o value he hlate, x.inserted_missing o value he hfront,
        x.inserted_missing o value he hback, hnone]
      rfl
    rw [hapart, hdiffers, hmissing, hinserted, setMarked_concat, setMarked_concat,
      StartTag.gapBehind_nil hgap, StartTag.gapBehind_nil hgap, List.flatMap_append,
      List.flatMap_append, List.flatMap_singleton, List.flatMap_singleton,
      source_make_bare hassign]
    simp
  · have hnone : ∀ b ∈ names, ¬x.Late value e b := fun b hb hlate' => hlate ⟨b, hb, hlate'⟩
    rw [x.apart_eq value hnone, x.inserted_missing o value he hnone]

theorem entries_marked (he : e.attributes = x.attributes) (style : QuoteStyle)
    (escaped : List Char) (mark : Nat → Bool) :
    (setMarked style escaped false (markAt mark x.tag.attributes)).map (WrittenAttribute.entry f) =
      e.entriesMarked mark (String.ofList (unescapeChars escaped)) := by
  rw [entries_setMarked]
  apply List.ext_getElem?
  intro k
  obtain ⟨p, hp⟩ := Growth.getElem_attributesOf f x.first x.tag.attributes k
  rw [List.getElem?_map, getElem_markAt, Element.entriesMarked, List.getElem?_map,
    List.getElem?_zipIdx, he, attributes, hp]
  cases x.tag.attributes[k]? with
  | none => rfl
  | some a =>
    by_cases hmark : mark k = true
    · simp [hmark, Growth.attributeOf]
    · simp [hmark, Growth.attributeOf, WrittenAttribute.entry]

def updated (names : List String) (e : Element) : StartTag :=
  x.tag.update o.quotes (escapeChars o.escaping value.toList)
    (markAt (e.differs f names value) x.tag.attributes) ((e.missing f names).map String.toList)

theorem entries_update (he : e.attributes = x.attributes) (new : List String) :
    (x.tag.update o.quotes (escapeChars o.escaping value.toList)
      (markAt (e.differs f names value) x.tag.attributes) (new.map String.toList)).attributes.map
        (WrittenAttribute.entry f) =
      e.entriesMarked (e.differs f names value) (legal o.escaping value) ++
        new.map fun b => (f.normalize b, some (legal o.escaping value)) := by
  simp only [StartTag.update]
  rw [List.map_append, x.entries_marked he, entries_newAttributes, unescape_escapeChars,
    List.map_map]
  simp [Function.comp_def]

theorem setTo_updated {e' : Element} {p : Position} (he : e.attributes = x.attributes)
    (he' : e'.attributes = Growth.attributesOf f p (x.updated o value names e).attributes) :
    Element.SetTo f o names value e e' := by
  refine Element.setTo_of_entries ?_
  rw [he', Growth.entries_attributesOf, updated, x.entries_update o value he]

theorem sound_updated (hnames : ∀ name ∈ names, IsName name.toList)
    (hopen : e.missing f names ≠ [] → ∀ w ∈ (setMarked o.quotes
      (escapeChars o.escaping value.toList) false
        (markAt (e.differs f names value) x.tag.attributes)).getLast?, w.isOpen = false) :
    (x.updated o value names e).Sound x.rest := by
  refine StartTag.sound_update x.sound (map_fst_markAt _ _)
    (quotable_escapeChars o.escaping value.toList) ?_ ?_
  · intro name hname
    obtain ⟨c, hc, rfl⟩ := List.mem_map.1 hname
    exact hnames c (List.mem_filter.1 hc).1
  · intro hne
    exact hopen fun hnil => hne (congrArg _ hnil)

theorem misordered_iff {n : Node} (hdelimiter : n.delimiterOffset e = x.delimiter) :
    Plan.Misordered f n e names value ↔ ∃ front b back, names = front ++ b :: back ∧
      x.Late value e b ∧ e.missing f front ≠ [] := by
  constructor
  · rintro ⟨b, c, i, a, hsub, hnone, hfind, hne, hbare⟩
    obtain ⟨front, rest, rfl, hc, hsub⟩ := List.cons_sublist_iff.1 hsub
    obtain ⟨middle, back, rfl⟩ := List.append_of_mem (List.singleton_sublist.1 hsub)
    rw [hdelimiter] at hbare
    refine ⟨front ++ middle, b, back, by simp, ⟨i, a, hfind, hne, hbare⟩, ?_⟩
    have hmem : c ∈ e.missing f (front ++ middle) :=
      List.mem_filter.2 ⟨List.mem_append_left _ hc, by simp [hnone]⟩
    exact List.ne_nil_of_mem hmem
  · rintro ⟨front, b, back, rfl, ⟨i, a, hfind, hne, hbare⟩, hmissing⟩
    obtain ⟨c, cs, hcs⟩ := List.exists_cons_of_ne_nil hmissing
    have hc : c ∈ e.missing f front := by simp [hcs]
    obtain ⟨hmem, hnone⟩ := List.mem_filter.1 hc
    refine ⟨b, c, i, a, ?_, Option.isNone_iff_eq_none.1 hnone, hfind, hne, ?_⟩
    · rw [List.cons_sublist_iff]
      exact ⟨front, b :: back, rfl, hmem, List.singleton_sublist.2 List.mem_cons_self⟩
    · rw [hdelimiter]
      exact hbare

theorem not_setTo_of_late {e' : Element} (hb : b ∈ names) (hlate : x.Late value e b)
    (hvalue : e'.valueOf f b = some "") : ¬Element.SetTo f o names value e e' := by
  obtain ⟨i, a, hfind, hne, hbare⟩ := hlate
  intro hset
  have hlisted := hset.listed b hb
  have hempty : a.value.getD "" = "" := by
    rw [Attribute.isBareAt, Bool.and_eq_true, Option.isNone_iff_eq_none] at hbare
    rw [hbare.1]
    rfl
  have hold : e.valueOf f b ≠ some value := by
    rw [Element.valueOf, hfind]
    exact fun h => hne (Option.some.inj h)
  rw [hvalue, if_neg hold, Option.some.injEq, eq_comm, legal_eq_empty] at hlisted
  exact absurd (hempty.trans hlisted.symm) hne

theorem reads_behind_bare (style : QuoteStyle) {escaped name : List Char} {ms before : List Marked}
    {w : WrittenAttribute} (hq : Quotable escaped) (hms : ms.map Prod.fst = x.tag.attributes)
    (hbare : ms = before ++ [(w, false)]) (hassign : w.assignment = none)
    (hgap : x.tag.gap = []) (hname : IsName name) (t : List Char) :
    Reads (' ' :: (name ++ t)) (setMarked style escaped false ms) := by
  have hold := x.sound.reads
  rw [← hms] at hold
  apply reads_setMarked hq hold
  intro d hd hends
  rw [hbare, setMarked_concat, List.getLast?_concat] at hd
  obtain rfl := Option.some.inj hd
  have hopen : (Marked.make style escaped (cutBehind false before) (w, false)).isOpen = false := by
    cases cutBehind false before <;>
      simp [Marked.make, Marked.behind, WrittenAttribute.isOpen, hassign]
  have hnew := endsBefore_new hopen x.sound.ends hends hname t
  rwa [hgap] at hnew

theorem not_isOpen (he : e.attributes = x.attributes) (hclosing : x.tag.closing ≠ .cutOff)
    (hvalues : ∀ a ∈ e.attributes, ¬(a.value = some "" ∧ a.quote = none)) :
    ∀ w ∈ x.tag.attributes, w.isOpen = false := by
  intro w hw
  cases hopen : w.isOpen with
  | false => rfl
  | true =>
    have hne : x.tag.gap ++ x.tag.closing.source ++ x.rest ≠ [] := by
      have hmem := List.mem_append_right x.tag.gap (mem_source_of_ne hclosing)
      exact List.ne_nil_of_mem (List.mem_append_left x.rest hmem)
    obtain ⟨before, after, hassign⟩ := dangling_of_isOpen x.sound.reads hne hw hopen
    obtain ⟨k, hk⟩ := List.mem_iff_getElem?.1 hw
    obtain ⟨p, hp⟩ := Growth.getElem_attributesOf f x.first x.tag.attributes k
    rw [hk, Option.map_some] at hp
    have hmem : Growth.attributeOf f p w ∈ e.attributes := by
      rw [he]
      exact List.mem_of_getElem? hp
    refine absurd ⟨?_, ?_⟩ (hvalues _ hmem)
    · simp [Growth.attributeOf, hassign, WrittenValue.text]
    · simp [Growth.attributeOf, hassign, WrittenValue.quote?]

end Site

theorem Plan.element_eq {o : PlanOptions} {d : Document} {id : Nat} {n : Node} {e : Element}
    {names : List String} {value : String} (hn : d.nodes[id]? = some n)
    (he : n.element? = some e)
    (hattributes : ∀ name ∈ names, ∀ edit ∈ setAttribute d.flavor o n e name value,
      edit.stop ≤ n.range.stop.offset)
    (hclear : ∀ edit ∈ clearContent d id, n.range.stop.offset ≤ edit.start) :
    element o d id names value =
      .ok (names.filterMap (fun name => setAttribute d.flavor o n e name value) ++
        (clearContent d id).toList) := by
  have hall : attributes o d id names value =
      names.filterMap fun name => setAttribute d.flavor o n e name value := by
    rw [attributes, Document.element?, hn, Option.bind_some, he]
  rw [element, hn, hall]
  split
  · rename_i stray hfind
    obtain ⟨name, hname, hset⟩ := List.mem_filterMap.1 (List.mem_of_find?_eq_some hfind)
    have hle := hattributes name hname stray hset
    have hgt := List.find?_some hfind
    exact absurd (of_decide_eq_true hgt) (Nat.not_lt.2 hle)
  · cases hedit : clearContent d id with
    | none => exact congrArg Except.ok (List.append_nil _).symm
    | some edit => exact if_neg (Nat.not_lt.2 (hclear edit hedit))

namespace Site

variable {f : Flavor} {text : String} (x : Site f (Document.stripMark text.toList).1)
  (o : PlanOptions) (value : String) {e : Element} {names : List String} {b : String}

theorem element_planned {n : Node} {tail : List Stretch}
    (hn : (Document.parse f text).nodes[x.id]? = some n) (h : n.head = x.head)
    (he : n.element? = some e)
    (hedits : Stretch.edits (x.delimiter + byteLength x.tag.closing.source) tail =
      (Plan.clearContent (Document.parse f text) x.id).toList) :
    Plan.element o (Document.parse f text) x.id names value =
      .ok (names.filterMap (x.planned o value e) ++
        Stretch.edits (x.delimiter + byteLength x.tag.closing.source) tail) := by
  obtain ⟨hattributes, -, -⟩ := x.attributes_of_head h rfl he
  have hstop := x.stop_of_head h he
  have hset : ∀ name, Plan.setAttribute (Document.parse f text).flavor o n e name value =
      x.planned o value e name := x.setAttribute_eq_planned o value h he
  rw [Plan.element_eq hn he, hedits]
  · simp only [hset]
  · intro name _ edit hedit
    rw [hset] at hedit
    have hbounds := x.planned_bounds o value hattributes hedit
    omega
  · intro edit hedit
    have hmem : edit ∈ Stretch.edits (x.delimiter + byteLength x.tag.closing.source) tail := by
      rw [hedits]
      exact Option.mem_toList.2 hedit
    rw [hstop]
    exact (Stretch.start_le_of_mem hmem).1

theorem setTo_of_update (he : e.attributes = x.attributes) (hclosing : x.tag.closing ≠ .cutOff)
    (hvalues : ∀ a ∈ e.attributes, ¬(a.value = some "" ∧ a.quote = none))
    (hnames : ∀ name ∈ names, IsName name.toList) (u : List Char) :
    ∃ e', (Document.parse f (String.ofList (Stretch.mark text.toList ++
        x.rewrite (x.tag.update o.quotes (escapeChars o.escaping value.toList)
          (markAt (e.differs f names value) x.tag.attributes)
          ((e.missing f names).map String.toList)) u))).element? x.id = some e' ∧
      Element.SetTo f o names value e e' := by
  have hms := map_fst_markAt (e.differs f names value) x.tag.attributes
  have hopen : ∀ m ∈ markAt (e.differs f names value) x.tag.attributes, m.1.isOpen = false := by
    intro m hm
    apply x.not_isOpen he hclosing hvalues m.1
    rw [← hms]
    exact List.mem_map_of_mem hm
  have hsound : (x.updated o value names e).Sound u :=
    (x.sound_updated o value hnames fun _ w hw =>
      isOpen_setMarked hopen w (List.mem_of_mem_getLast? hw)).append hclosing u
  obtain ⟨e', he', hattributes⟩ := x.element_rewrite (by rfl) hsound
  exact ⟨e', he', x.setTo_updated o value he hattributes⟩

/-- A blank stands behind a bare attribute that a new one is put in front of, so nothing further
on can be its value. -/
theorem plannedText_of_late (he : e.attributes = x.attributes)
    (hnames : ∀ name ∈ names, IsName name.toList)
    (hpair : names.Pairwise fun a b => f.namesMatch a b = false) {front back : List String}
    (hsplit : names = front ++ b :: back) (hlate : x.Late value e b)
    (hmissing : e.missing f front ≠ []) (u : List Char) :
    ∃ z, x.plannedText o value names e u = x.lead ++
        ((setMarked o.quotes (escapeChars o.escaping value.toList) false
          (markAt (x.apart value names e) x.tag.attributes)).flatMap WrittenAttribute.source ++
            ' ' :: z) ∧
      Reads (' ' :: z) (setMarked o.quotes (escapeChars o.escaping value.toList) false
        (markAt (x.apart value names e) x.tag.attributes)) ∧
      ∀ c ∈ ((setMarked o.quotes (escapeChars o.escaping value.toList) false
          (markAt (x.apart value names e) x.tag.attributes)).flatMap WrittenAttribute.source ++
            ' ' :: z).head?, endsTagName c = true := by
  have hms := map_fst_markAt (x.apart value names e) x.tag.attributes
  have hq := quotable_escapeChars o.escaping value.toList
  have hb : b ∈ names := by simp [hsplit]
  obtain ⟨before, w, -, hassign, hgap, -, hapart⟩ := x.marks_of_late value he hb hlate
  obtain ⟨c, cs, hcs⟩ := List.exists_cons_of_ne_nil hmissing
  have hname : IsName c.toList := by
    have hc : c ∈ e.missing f front := by simp [hcs]
    apply hnames c
    rw [hsplit]
    exact List.mem_append_left _ (List.mem_filter.1 hc).1
  obtain ⟨z, hz⟩ : ∃ z, (x.inserted o value names e).flatten =
      ' ' :: (c.toList ++ z) := by
    rw [hsplit, inserted_append, x.inserted_missing o value he
      (x.not_late_others value he hpair hsplit hlate).1, hcs]
    simp only [List.map_cons, List.cons_append, List.flatten_cons, newSource, List.append_assoc]
    exact ⟨_, rfl⟩
  have hnil := StartTag.gapBehind_nil hgap (markAt (x.apart value names e) x.tag.attributes)
  have hhead := @StartTag.head_update o.quotes (escapeChars o.escaping value.toList) _ _ _
    x.sound hms (' ' :: (c.toList ++ (z ++ (x.tag.closing.source ++ u)))) (by simp [hapart])
  rw [hnil, List.nil_append] at hhead
  refine ⟨c.toList ++ (z ++ (x.tag.closing.source ++ u)), ?_, ?_, hhead⟩
  · rw [plannedText, hnil, List.nil_append, hz, List.cons_append, List.append_assoc]
  · exact x.reads_behind_bare o.quotes hq hms hapart hassign hgap hname _

theorem valueOf_of_late (he : e.attributes = x.attributes)
    (hnames : ∀ name ∈ names, IsName name.toList)
    (hpair : names.Pairwise fun a b => f.namesMatch a b = false) {front back : List String}
    (hsplit : names = front ++ b :: back) (hlate : x.Late value e b)
    (hmissing : e.missing f front ≠ []) (u : List Char) :
    ∃ e', (Document.parse f (String.ofList (Stretch.mark text.toList ++
        x.plannedText o value names e u))).element? x.id = some e' ∧
      e'.valueOf f b = some "" := by
  obtain ⟨z, htext, hreads, hhead⟩ :=
    x.plannedText_of_late o value he hnames hpair hsplit hlate hmissing u
  rw [htext]
  obtain ⟨e', he', hattributes⟩ := x.element_behind hhead
  refine ⟨e', he', ?_⟩
  obtain ⟨i, a, hfind, -, hbare⟩ := hlate
  have ha := (Element.getElem_of_findAttribute hfind).1
  have hunset : x.apart value names e i = false := by simp [apart, ha, hbare]
  rw [Attribute.isBareAt, Bool.and_eq_true, Option.isNone_iff_eq_none] at hbare
  rw [Element.valueOf_eq, hattributes, Growth.entries_attributesOf, readAttributes_append hreads,
    List.map_append, x.entries_marked he, Element.valueIn_marked hfind, hunset, hbare.1]
  rfl

end Site

theorem element_of_several {f : Flavor} {o : PlanOptions} {text value : String}
    {names : List String} {id : Nat} {n : Node} {e : Element}
    (hn : (Document.parse f text).nodes[id]? = some n) (he : n.element? = some e)
    (hclosing : e.closing ≠ .cutOff)
    (hvalues : ∀ a ∈ e.attributes, ¬(a.value = some "" ∧ a.quote = none))
    (hnames : ∀ name ∈ names, IsName name.toList)
    (hpair : names.Pairwise fun a b => f.namesMatch a b = false) :
    ∃ edits text' e', Plan.element o (Document.parse f text) id names value = .ok edits ∧
      applyEdits text (Edit.shiftPastMark text.toList edits) = .ok text' ∧
      (Document.parse f text').element? id = some e' ∧
      (Element.SetTo f o names value e e' ↔ ¬Plan.Misordered f n e names value) := by
  obtain ⟨x, rfl, hhead⟩ := exists_site_parse hn he
  obtain ⟨hattributes, hclosed, -⟩ := x.attributes_of_head hhead rfl he
  obtain ⟨tail, hold, hedits⟩ := x.edits_clearContent hn hhead he
  have hplan : Plan.element o (Document.parse f text) x.id names value = .ok _ :=
    x.element_planned o value hn hhead he hedits
  rw [hclosed] at hclosing
  have hpairwise : (Stretch.edits (x.delimiter + byteLength x.tag.closing.source) tail).Pairwise
      fun a b => a.start < b.start := by
    rw [hedits]
    cases Plan.clearContent (Document.parse f text) x.id <;> simp
  have happly := x.applyEdits_planned o value hattributes hnames hpair hold hpairwise hclosing
  rw [x.misordered_iff value (x.delimiterOffset_eq hhead he)]
  by_cases hbad : ∃ front b back, names = front ++ b :: back ∧ x.Late value e b ∧
      e.missing f front ≠ []
  · obtain ⟨front, b, back, hsplit, hlate, hmissing⟩ := hbad
    obtain ⟨e', he', hvalue⟩ := x.valueOf_of_late o value hattributes hnames hpair hsplit hlate
      hmissing (Stretch.newText tail)
    have hb : b ∈ names := by simp [hsplit]
    have hnot := x.not_setTo_of_late o value hb hlate hvalue
    exact ⟨_, _, e', hplan, happly, he', fun hset => absurd hset hnot,
      fun h => absurd ⟨front, b, back, hsplit, hlate, hmissing⟩ h⟩
  · have hgood : ∀ front b back, names = front ++ b :: back → x.Late value e b →
        e.missing f front = [] := by
      intro front b back hsplit hlate
      by_contra hne
      exact hbad ⟨front, b, back, hsplit, hlate, hne⟩
    rw [x.planned_eq_update o value hattributes hpair hgood] at happly
    obtain ⟨e', he', hset⟩ := x.setTo_of_update o value hattributes hclosing hvalues hnames
      (Stretch.newText tail)
    exact ⟨_, _, e', hplan, happly, he', fun _ => hbad, fun _ => hset⟩

theorem element_of_several_misordered :
    ∃ edits text' e e', (Document.parse .html "<a b>").element? 0 = some e ∧
      Plan.element ⟨.html, .preserve⟩ (Document.parse .html "<a b>") 0 ["c", "b"] "v" =
        .ok edits ∧
      applyEdits "<a b>" (Edit.shiftPastMark "<a b>".toList edits) = .ok text' ∧
      (Document.parse .html text').element? 0 = some e' ∧
      ¬Element.SetTo .html ⟨.html, .preserve⟩ ["c", "b"] "v" e e' := by
  let b : Attribute := ⟨"b", ⟨⟨3, 1, 4⟩, ⟨4, 1, 5⟩⟩, none, ⟨⟨4, 1, 5⟩, ⟨4, 1, 5⟩⟩, none, false⟩
  let e : Element := ⟨"a", [b], .bracket, none⟩
  let n : Node := ⟨.element e, ⟨⟨0, 1, 1⟩, ⟨5, 1, 6⟩⟩, "<a b>", none⟩
  have hn : (Document.parse .html "<a b>").nodes[0]? = some n := by decide +kernel
  have hclosing : e.closing ≠ .cutOff := by decide
  have hvalues : ∀ a ∈ e.attributes, ¬(a.value = some "" ∧ a.quote = none) := by decide
  have hnames : ∀ name ∈ ["c", "b"], IsName name.toList := by decide
  have hpair : ["c", "b"].Pairwise fun a b => Flavor.html.namesMatch a b = false := by
    decide +kernel
  have hmisordered : Plan.Misordered .html n e ["c", "b"] "v" :=
    ⟨"b", "c", 0, b, List.Sublist.refl _, by decide +kernel, by decide +kernel, by decide,
      by decide⟩
  obtain ⟨edits, text', e', hplan, happly, he', hset⟩ :=
    @element_of_several .html ⟨.html, .preserve⟩ "<a b>" "v" ["c", "b"] 0 n e hn rfl hclosing
      hvalues hnames hpair
  refine ⟨edits, text', e, e', ?_, hplan, happly, he', fun h => hset.1 h hmisordered⟩
  rw [Document.element?, hn]
  rfl

end MarkupSplice
