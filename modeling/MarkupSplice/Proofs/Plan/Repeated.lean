import MarkupSplice.Update.Revision
import MarkupSplice.Proofs.Plan.Absent
import MarkupSplice.Proofs.Plan.Clearing
import MarkupSplice.Proofs.Plan.Mark
import MarkupSplice.Proofs.Plan.Settled

/-!
# Updates made again

An update selects the first script of a text, gives it the attributes and
deletes its content, as a rule for the first script does with a text
(`Task.reviseText_of_update`). In the new text the same element is selected, it
has no content, and its attributes are settled, so the update made again changes
nothing, unless a bare attribute was put behind a new one
(`update_idempotent_iff`).
-/
namespace MarkupSplice
open Markup Text

def Plan.update (f : Flavor) (quotes : QuoteStyle) (names : List String) (value text : String) :
    Option String :=
  rewrite f .firstScript ⟨f, quotes⟩ names value text

/-- Whether a new attribute comes behind a value that is left open. -/
def Plan.Swallowed (f : Flavor) (e : Element) (names : List String) (value : String) : Prop :=
  e.missing f names ≠ [] ∧ e.isOpenEnded = true ∧
    ∀ a ∈ e.attributes.getLast?, a.value = some "" →
      e.differs f names value (e.attributes.length - 1) = false

structure Document.FirstScript (d : Document) (id : Nat) (n : Node) (e : Element) : Prop where
  selected : Selector.select d .firstScript = .ok [id]
  node : d.nodes[id]? = some n
  element : n.element? = some e

namespace Task

variable {t : Task} {d : Document} {path : Path} {scripts : List Path} {text after value : String}

theorem edits_pointAll (ids : List Nat) :
    (t.pointAll d path value ids).edits.toOption =
      ((ids.mapM fun id => Plan.element (t.options d) d id t.attributes value).map
        List.flatten).toOption := by
  induction ids with
  | nil => rfl
  | cons id ids ih =>
    rw [pointAll, List.mapM_cons]
    cases Plan.element (t.options d) d id t.attributes value with
    | error err => rfl
    | ok es =>
      have hcons : ∀ (a : Except (UpdateError × Position) (List Edit))
          (b : Except EditError (List (List Edit))), a.toOption = (b.map List.flatten).toOption →
            (a.map (es ++ ·)).toOption = ((b.map (es :: ·)).map List.flatten).toOption := by
        rintro (_ | _) (_ | _) h <;> cases h <;> rfl
      exact hcons _ _ ih

theorem edits_plan (hselector : t.selector = .ok .firstScript)
    (hreferences : t.references path scripts = [value]) {ids : List Nat}
    (hids : Selector.select d .firstScript = .ok ids) :
    (t.plan d path scripts).edits.toOption =
      ((ids.mapM fun id => Plan.element (t.options d) d id t.attributes value).map
        List.flatten).toOption := by
  have hfound : t.selector >>= Selector.select d = .ok ids := by
    rw [hselector]
    exact hids
  rw [plan, hfound]
  cases ids with
  | nil => rfl
  | cons id ids =>
    rw [← @edits_pointAll _ _ path]
    simp only [Except.toOption, Option.getD_some, planElements, hreferences, List.find?_nil]
    generalize t.pointAll d path value (id :: ids) = planned
    obtain ⟨said, edits⟩ := planned
    cases edits <;> rfl

/-- What a rule for the first script makes of a text, when it has one reference to write. -/
theorem reviseText_of_update (hselector : t.selector = .ok .firstScript)
    (hreferences : t.references path scripts = [value])
    (h : Plan.update (Flavor.ofPath path) t.quotes t.attributes value text = some after) :
    ∃ said, t.reviseText path scripts text =
      if after = text then .keep said else .change said ⟨text, after⟩ := by
  obtain ⟨ids, plans, hids, hplans, happly⟩ := Plan.rewrite_eq_some.1 h
  have hoptions : t.options (Document.parse (Flavor.ofPath path) text) =
      ⟨Flavor.ofPath path, t.quotes⟩ := rfl
  have hedits := edits_plan hselector hreferences hids
  rw [hoptions, hplans] at hedits
  unfold reviseText
  simp only [toOption_eq_some.1 hedits, happly]
  exact ⟨_, rfl⟩

end Task

def Node.isScript (n : Node) : Bool :=
  n.element?.any fun e => Flavor.foldName e.name == Flavor.foldName "script"

theorem Node.isScript_head (n : Node) : n.head.isScript = n.isScript := by
  obtain ⟨kind, range, source, parent⟩ := n
  cases kind <;> rfl

theorem find_range {α : Type} {p : α → Bool} (xs : List α) :
    (List.range xs.length).find? (fun i => xs[i]?.any p) = xs.findIdx? p := by
  ext i
  simp only [List.find?_range_eq_some, List.findIdx?_eq_some_iff_getElem, Option.any_eq_true,
    List.mem_range, List.getElem?_eq_some_iff]
  constructor
  · rintro ⟨⟨y, ⟨hlt, rfl⟩, hi⟩, -, hfront⟩
    refine ⟨hlt, hi, fun j hj => ?_⟩
    have hnot := hfront j hj
    rw [List.getElem?_eq_getElem (Nat.lt_trans hj hlt)] at hnot
    simpa using hnot
  · rintro ⟨hlt, hi, hfront⟩
    refine ⟨⟨_, ⟨hlt, rfl⟩, hi⟩, hlt, fun j hj => ?_⟩
    rw [List.getElem?_eq_getElem (Nat.lt_trans hj hlt)]
    simpa using hfront j hj

theorem Selector.select_firstScript (d : Document) :
    select d .firstScript = .ok (d.nodes.toList.findIdx? Node.isScript).toList := by
  have hscript : ∀ i, (((d.element? i).any fun e =>
      Flavor.foldName e.name == Flavor.foldName "script") && d.isElement i) =
        d.nodes.toList[i]?.any Node.isScript := by
    intro i
    rw [Document.isElement, Document.element?, ← Array.getElem?_toList]
    cases d.nodes.toList[i]? with
    | none => rfl
    | some n =>
      simp only [Option.bind_some, Option.any_some, Node.isScript]
      cases n.element? <;> simp
  rw [select, Document.elementsByTag, Document.elements, List.filter_filter, List.take_one,
    List.head?_filter]
  simp only [hscript]
  exact congrArg (fun i => Except.ok i.toList) (find_range d.nodes.toList)

theorem findIdx_length {α : Type} {p : α → Bool} {xs ys ys' : List α} {y y' : α}
    (h : (xs ++ y :: ys).findIdx? p = some xs.length) (hy : p y' = p y) :
    (xs ++ y' :: ys').findIdx? p = some xs.length := by
  rw [List.findIdx?_append] at h ⊢
  cases hxs : xs.findIdx? p with
  | some i =>
    obtain ⟨hlt, -⟩ := List.findIdx?_eq_some_iff_getElem.1 hxs
    rw [hxs] at h
    exact absurd (Option.some.inj h) (Nat.ne_of_lt hlt)
  | none =>
    rw [hxs, List.findIdx?_cons] at h
    rw [List.findIdx?_cons, hy]
    cases hp : p y with
    | true => simp
    | false =>
      rw [hp] at h
      obtain ⟨i, hi, hlength⟩ := Option.map_eq_some_iff.1 h
      simp at hi
      omega

theorem Selector.select_firstScript_iff {d : Document} {id : Nat} :
    select d .firstScript = .ok [id] ↔
      (d.nodes.toList.map Node.head).findIdx? Node.isScript = some id := by
  have hscript : Node.isScript ∘ Node.head = Node.isScript := funext Node.isScript_head
  rw [select_firstScript, List.findIdx?_map, hscript, Except.ok.injEq]
  cases d.nodes.toList.findIdx? Node.isScript <;> simp

namespace Site

variable {f : Flavor} {text : String} (x : Site f (Document.stripMark text.toList).1) {n : Node}
  {e : Element}

structure IsFirst (n : Node) (e : Element) : Prop
    extends (Document.parse f text).FirstScript x.id n e where
  head : n.head = x.head

variable {x} {text' : String} {t : StartTag} {u : List Char}

theorem IsFirst.rewritten (h : x.IsFirst n e) (hn : t.name = x.tag.name) (hs : t.Sound u)
    (htext : (Document.stripMark text'.toList).1 = x.rewrite t u) :
    ∃ n' e', (x.rewritten t hn hs htext).IsFirst n' e' := by
  have hnodes : (Document.parse f text').nodes =
      (Growth.ofPieces f (Markup.pieces f (x.rewrite t u))).nodes := by
    rw [Document.nodes_parse, htext]
  obtain ⟨n', hn', hhead⟩ := x.head_rewrite hn hs
  obtain ⟨e', he'⟩ := x.exists_element hhead
  obtain ⟨more, hold⟩ := x.heads_rewrite rfl x.sound
  obtain ⟨more', hnew⟩ := x.heads_rewrite hn hs
  have hfirst := Selector.select_firstScript_iff.1 h.selected
  rw [x.rewrite_tag] at hold
  rw [Document.nodes_parse, ← Growth.heads, hold, id, ← Growth.length_heads] at hfirst
  refine ⟨n', e', ⟨⟨Selector.select_firstScript_iff.2 ?_, ?_, he'⟩, hhead⟩⟩
  · rw [hnodes, ← Growth.heads, hnew]
    refine (findIdx_length hfirst ?_).trans (congrArg some (Growth.length_heads _))
    simp [Node.isScript, Node.element?, Growth.elementNode, Growth.leafNode, hn]
  · rw [hnodes, ← Array.getElem?_toList]
    exact hn'

variable (quotes : QuoteStyle) (value : String) {names : List String} {tail : List Stretch}

theorem update_of_first (h : x.IsFirst n e) (hnames : ∀ name ∈ names, IsName name.toList)
    (hpair : names.Pairwise fun a b => f.namesMatch a b = false)
    (hold : Stretch.oldText tail = x.rest)
    (hedits : Stretch.edits (x.delimiter + byteLength x.tag.closing.source) tail =
      (Plan.clearContent (Document.parse f text) x.id).toList) :
    Plan.update f quotes names value text = some (String.ofList (Stretch.mark text.toList ++
      x.plannedText ⟨f, quotes⟩ value names e (Stretch.newText tail))) := by
  obtain ⟨hattributes, -, -⟩ := x.attributes_of_head h.head rfl h.element
  have hplan : Plan.element ⟨f, quotes⟩ (Document.parse f text) x.id names value = .ok _ :=
    x.element_planned _ value h.node h.head h.element hedits
  have hpairwise : (Stretch.edits (x.delimiter + byteLength x.tag.closing.source) tail).Pairwise
      fun a b => a.start < b.start := by
    rw [hedits]
    cases Plan.clearContent (Document.parse f text) x.id <;> simp
  have happly := x.applyEdits_joint ⟨f, quotes⟩ value hattributes hnames hpair hold hpairwise
    (x.delimiter_lt_of_clearContent hold hedits)
  exact Plan.rewrite_single h.selected hplan happly

theorem isOpen_updated (o : PlanOptions) (he : e.attributes = x.attributes)
    (h : ¬Plan.Swallowed f e names value) (hne : e.missing f names ≠ []) :
    ∀ w ∈ (setMarked o.quotes (escapeChars o.escaping value.toList) false
      (markAt (e.differs f names value) x.tag.attributes)).getLast?, w.isOpen = false := by
  intro w hw
  rcases List.eq_nil_or_concat' x.tag.attributes with hnil | ⟨front, b, hsplit⟩
  · rw [hnil] at hw
    cases hw
  · rw [hsplit, markAt_concat, setMarked_concat, List.getLast?_concat] at hw
    obtain rfl := Option.some.inj hw
    apply Marked.isOpen_make
    -- a last value that is open is empty and set, or it would take in the new attributes
    intro hopen
    by_contra hnot
    refine h ⟨hne, ?_, ?_⟩
    · rw [Element.isOpenEnded_eq he, hsplit, List.getLast?_concat]
      exact hopen
    · obtain ⟨p, hlast⟩ := Growth.getElem_attributesOf f x.first x.tag.attributes front.length
      have hlength : e.attributes.length = front.length + 1 := by
        rw [he, attributes, Growth.length_attributesOf, hsplit, List.length_append]
        rfl
      rw [← attributes, ← he, hsplit, List.getElem?_concat_length] at hlast
      rw [List.getLast?_eq_getElem?, hlength, Nat.add_sub_cancel, hlast]
      rintro a ⟨⟩ hempty
      rw [Bool.eq_false_iff]
      intro hset
      exact hnot ⟨hset, isEmpty_attributeOf.1 hempty⟩

theorem update_settled (h : x.IsFirst n e) (hnames : ∀ name ∈ names, IsName name.toList)
    (hpair : names.Pairwise fun a b => f.namesMatch a b = false)
    (hswallowed : ¬Plan.Swallowed f e names value) (hempty : x.Emptied tail)
    (htext : (Document.stripMark text'.toList).1 =
      x.rewrite (x.updated ⟨f, quotes⟩ value names e) (Stretch.newText tail)) :
    Plan.update f quotes names value text' = some text' := by
  obtain ⟨hattributes, -, -⟩ := x.attributes_of_head h.head rfl h.element
  obtain ⟨hsound, hchildless⟩ := hempty (x.updated ⟨f, quotes⟩ value names e) rfl rfl
    (x.sound_updated _ value hnames (isOpen_updated value _ hattributes hswallowed))
  let y := x.rewritten (x.updated ⟨f, quotes⟩ value names e) rfl hsound htext
  obtain ⟨n', e', h'⟩ : ∃ n' e', y.IsFirst n' e' := h.rewritten _ hsound htext
  obtain ⟨hattributes', -, -⟩ := y.attributes_of_head h'.head rfl h'.element
  -- without children there is no content to delete, so only the start tag is planned for
  have hnone : (Document.parse f text').children x.id = [] := by
    rw [Document.children_parse, htext]
    exact hchildless
  have hclear : Plan.clearContent (Document.parse f text') y.id = none :=
    Plan.clearContent_of_childless hnone
  have hold : Stretch.oldText [.keep y.rest] = y.rest := by simp [Stretch.keep]
  have hnew : Stretch.newText [.keep y.rest] = y.rest := by simp [Stretch.keep]
  have hagain := update_of_first quotes value h' hnames hpair hold (by rw [hclear]; rfl)
  rw [hagain, hnew, x.plannedText_settled _ value y hattributes hattributes' rfl hpair,
    y.rewrite_tag, Stretch.mark_append, String.ofList_toList]

/-- A bare attribute that was put in front of a new one is set in the next update. -/
theorem update_unset {front back : List String} {b : String} {v : List Char}
    (h : x.IsFirst n e) (hnames : ∀ name ∈ names, IsName name.toList)
    (hpair : names.Pairwise fun a b => f.namesMatch a b = false)
    (hsplit : names = front ++ b :: back) (hlate : x.Late value e b)
    (hmissing : e.missing f front ≠ [])
    (htext : text' = String.ofList (Stretch.mark text.toList ++
      x.plannedText ⟨f, quotes⟩ value names e v)) :
    Plan.update f quotes names value text' ≠ some text' := by
  obtain ⟨hattributes, -, -⟩ := x.attributes_of_head h.head rfl h.element
  have hb : b ∈ names := by simp [hsplit]
  obtain ⟨z, hplanned, hreads, hhead⟩ := x.plannedText_of_late ⟨f, quotes⟩ value hattributes
    hnames hpair hsplit hlate hmissing v
  obtain ⟨t, u, hname, hsound, hrewrite, htag⟩ := x.exists_rewrite hhead
  have hstrip : (Document.stripMark text'.toList).1 = x.rewrite t u := by
    rw [htext, hplanned, hrewrite, x.stripMark_rewrite]
  let y := x.rewritten t hname hsound hstrip
  have hlead : y.lead = x.lead := congrArg (fun name => x.front ++ '<' :: name) hname
  obtain ⟨n', e', h'⟩ : ∃ n' e', y.IsFirst n' e' := h.rewritten hname hsound hstrip
  obtain ⟨hattributes', -, -⟩ := y.attributes_of_head h'.head rfl h'.element
  obtain ⟨tail, hold, hedits, -⟩ := y.exists_cleared
  rw [update_of_first quotes value h' hnames hpair hold hedits]
  intro heq
  have htext' := congrArg String.toList (Option.some.inj heq)
  rw [String.toList_ofList] at htext'
  have hplanned' := List.append_cancel_left (htext'.trans (Stretch.mark_append _).symm)
  refine x.plannedText_of_unset (z := z) ⟨f, quotes⟩ value y hattributes hattributes' hb hlate
    (htag.trans (congrArg Prod.fst (readAttributes_append hreads))) ?_ _ hplanned'
  rw [hlead]
  exact hstrip.trans hrewrite.symm

end Site

namespace Document

variable {d : Document} {id id' : Nat} {n n' : Node} {e e' : Element}

theorem firstScript_cases (d : Document) :
    Selector.select d .firstScript = .ok [] ∨ ∃ id n e, d.FirstScript id n e := by
  rw [Selector.select_firstScript]
  cases hfind : d.nodes.toList.findIdx? Node.isScript with
  | none => exact Or.inl rfl
  | some id =>
    right
    obtain ⟨hlt, hscript, -⟩ := List.findIdx?_eq_some_iff_getElem.1 hfind
    obtain ⟨e, he, -⟩ := (Option.any_eq_true _ _).1 hscript
    refine ⟨id, _, e, ?_, ?_, he⟩
    · rw [Selector.select_firstScript, hfind]
      rfl
    · rw [← Array.getElem?_toList]
      exact List.getElem?_eq_getElem hlt

theorem FirstScript.unique (h : d.FirstScript id n e) (h' : d.FirstScript id' n' e') :
    id' = id ∧ n' = n ∧ e' = e := by
  obtain rfl := List.singleton_inj.1 (Except.ok.inj (h'.selected.symm.trans h.selected))
  obtain rfl := Option.some.inj (h'.node.symm.trans h.node)
  exact ⟨rfl, rfl, Option.some.inj (h'.element.symm.trans h.element)⟩

theorem FirstScript.exists_site {f : Flavor} {text : String}
    (h : (parse f text).FirstScript id n e) :
    ∃ x : Site f (stripMark text.toList).1, x.IsFirst n e := by
  obtain ⟨x, rfl, hhead⟩ := exists_site_parse h.node h.element
  exact ⟨x, h, hhead⟩

theorem FirstScript.forall_iff {P : Node → Element → Prop} (h : d.FirstScript id n e) :
    (∀ id n e, d.FirstScript id n e → P n e) ↔ P n e := by
  constructor
  · exact fun hall => hall id n e h
  · intro hp id' n' e' h'
    obtain ⟨-, rfl, rfl⟩ := h.unique h'
    exact hp

end Document

theorem Plan.update_of_none {f : Flavor} {quotes : QuoteStyle} {names : List String}
    {value text : String}
    (h : Selector.select (Document.parse f text) .firstScript = .ok []) :
    update f quotes names value text = some text := by
  have hshift : Edit.shiftPastMark text.toList [] = [] := ite_self []
  refine rewrite_eq_some.2 ⟨[], [], h, rfl, ?_⟩
  rw [List.flatten_nil, hshift]
  simp [applyEdits, Edit.apply, Edit.schedule, Edit.descending, bind, Except.bind, pure,
    Except.pure, Except.map]

/-- An update made again changes nothing unless it sets a bare attribute that was put in front of
a new one. -/
theorem update_idempotent_iff {f : Flavor} {quotes : QuoteStyle} {names : List String}
    {value : String} (hnames : ∀ name ∈ names, IsName name.toList)
    (hpair : names.Pairwise fun a b => f.namesMatch a b = false) (text : String) :
    ∃ text', Plan.update f quotes names value text = some text' ∧
      ((∀ id n e, (Document.parse f text).FirstScript id n e →
          ¬Plan.Swallowed f e names value) →
        (Plan.update f quotes names value text' = some text' ↔
          ∀ id n e, (Document.parse f text).FirstScript id n e →
            ¬Plan.Misordered f n e names value)) := by
  rcases (Document.parse f text).firstScript_cases with hnone | ⟨id, n, e, hfirst⟩
  · have hupdate : Plan.update f quotes names value text = some text := Plan.update_of_none hnone
    refine ⟨text, hupdate, fun _ => ⟨fun _ id n e hfirst => ?_, fun _ => hupdate⟩⟩
    cases Except.ok.inj (hnone.symm.trans hfirst.selected)
  · obtain ⟨x, h⟩ := hfirst.exists_site
    obtain ⟨hattributes, -, -⟩ := x.attributes_of_head h.head rfl h.element
    obtain ⟨tail, hold, hedits, hempty⟩ := x.exists_cleared
    refine ⟨_, Site.update_of_first quotes value h hnames hpair hold hedits, ?_⟩
    rw [hfirst.forall_iff, hfirst.forall_iff,
      x.misordered_iff value (x.delimiterOffset_eq h.head h.element)]
    intro hswallowed
    constructor
    · rintro hsame ⟨front, b, back, hsplit, hlate, hmissing⟩
      exact Site.update_unset quotes value h hnames hpair hsplit hlate hmissing rfl hsame
    · intro hgood
      apply Site.update_settled quotes value h hnames hpair hswallowed hempty
      rw [x.planned_eq_update _ value hattributes hpair, x.stripMark_rewrite]
      · rfl
      · intro front b back hsplit hlate
        by_contra hne
        exact hgood ⟨front, b, back, hsplit, hlate, hne⟩

/-- In `<script b>` the attribute `b` is set behind `src` first, and again in the second update. -/
theorem update_idempotent_iff_misordered :
    ∃ text', Plan.update .html .preserve ["src", "b"] "v" "<script b>" = some text' ∧
      Plan.update .html .preserve ["src", "b"] "v" text' ≠ some text' := by
  let b : Attribute :=
    ⟨"b", ⟨⟨8, 1, 9⟩, ⟨9, 1, 10⟩⟩, none, ⟨⟨9, 1, 10⟩, ⟨9, 1, 10⟩⟩, none, false⟩
  let e : Element := ⟨"script", [b], .bracket, none⟩
  let n : Node := ⟨.element e, ⟨⟨0, 1, 1⟩, ⟨10, 1, 11⟩⟩, "<script b>", none⟩
  have hn : (Document.parse .html "<script b>").nodes[0]? = some n := by decide +kernel
  have hselected : (Document.parse .html "<script b>").elementsByTag "script" = [0] := by
    decide +kernel
  have hfirst : (Document.parse .html "<script b>").FirstScript 0 n e :=
    ⟨by rw [Selector.select, hselected]; rfl, hn, rfl⟩
  have hnames : ∀ name ∈ ["src", "b"], IsName name.toList := by decide
  have hpair : ["src", "b"].Pairwise fun a b => Flavor.html.namesMatch a b = false := by
    decide +kernel
  have hclosed : ¬Plan.Swallowed .html e ["src", "b"] "v" := fun h => nomatch h.2.1
  have hmisordered : Plan.Misordered .html n e ["src", "b"] "v" :=
    ⟨"b", "src", 0, b, List.Sublist.refl _, by decide +kernel, by decide +kernel, by decide,
      by decide⟩
  obtain ⟨text', hupdate, hiff⟩ := @update_idempotent_iff .html .preserve ["src", "b"] "v" hnames
    hpair "<script b>"
  refine ⟨text', hupdate, fun hsame => ?_⟩
  rw [hfirst.forall_iff, hfirst.forall_iff] at hiff
  exact (hiff hclosed).1 hsame hmisordered

example : Plan.update .html .preserve ["src"] "v" "<script b=>" =
      some "<script b= src=\"v\">" ∧
    Plan.update .html .preserve ["src"] "v" "<script b= src=\"v\">" =
      some "<script b= src=\"v\" src=\"v\">" := by
  decide +kernel

end MarkupSplice
