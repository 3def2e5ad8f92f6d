import MarkupSplice.Proofs.Markup.Notes
import MarkupSplice.Proofs.Markup.Writing

/-!
# Balanced documents

An XML document without issues is balanced (`balanced_of_issues`). A growing
forest is, but for the elements that are open, and a piece at which nothing is
noted keeps it so (`Balanced.grow`); what is still open at the end of the text
would be noted there.
-/
namespace MarkupSplice
open Markup Text
open scoped List

def Markup.EndTag.Whole (t : EndTag) : Prop :=
  (∀ c ∈ t.name, endsTagName c = false) ∧ ∀ c ∈ t.rest.head?, endsTagName c = true

structure Markup.EndTag.Closes (t : EndTag) (name : String) : Prop where
  name_eq : String.ofList t.name = name
  closed : t.closed = true
  whole : t.Whole

def Markup.Piece.AsRead (f : Flavor) : Piece → Prop
  | .verbatim t _ _ => f.isVerbatim (f.normalize (String.ofList t.name)) = true
  | .endTag t => t.Whole
  | _ => True

namespace Markup

theorem whole_readEndTag (s : List Char) : (readEndTag s).1.Whole := by
  have hname : ∀ c ∈ s.takeWhile (fun c => !endsTagName c), endsTagName c = false := by
    intro c hc
    simpa using List.mem_takeWhile_imp hc
  have hstop : ∀ c ∈ (s.dropWhile fun c => !endsTagName c).head?, endsTagName c = true := by
    intro c hc
    simpa using head_dropWhile c hc
  simp only [readEndTag]
  split
  · rename_i rest r h
    refine ⟨hname, fun c hc => hstop c ?_⟩
    -- what stands behind the name begins with the first character in front of the bracket
    have happend := append_of_cutAt h
    cases rest with
    | nil => cases hc
    | cons b bs =>
      rw [← happend]
      exact hc
  · exact ⟨hname, hstop⟩

theorem asRead_readPiece (f : Flavor) (s : List Char) : (readPiece f s).1.AsRead f := by
  unfold readPiece
  split
  case h_5 =>
    dsimp only [readContent]
    split
    · rename_i h
      split <;> exact h.2
    · trivial
  case h_6 => exact whole_readEndTag _
  all_goals trivial

theorem asRead_of_mem {f : Flavor} {s : List Char} {p : Piece} (h : p ∈ pieces f s) :
    p.AsRead f := by
  fun_induction pieces f s with
  | case1 => cases h
  | case2 s hs _ ih =>
    rcases List.mem_cons.1 h with rfl | h
    · exact asRead_readPiece f s
    · exact ih h

end Markup

namespace Element

structure Proper (e : Element) : Prop where
  terminated : e.closing ≠ .cutOff
  nodup : (e.attributes.map Attribute.name).Nodup

def EndsIn (s : List Char) (e : Element) : Prop :=
  ∃ (w : List Char) (t : EndTag), w ++ t.source <+: s ∧ t.Closes e.name ∧
    e.endTag = some ⟨Position.origin.advance w, Position.origin.advance (w ++ t.source)⟩

theorem EndsIn.append {s : List Char} {e : Element} (h : e.EndsIn s) (s' : List Char) :
    e.EndsIn (s ++ s') := by
  obtain ⟨w, t, hw, ht⟩ := h
  exact ⟨w, t, hw.trans (List.prefix_append s s'), ht⟩

end Element

namespace Growth

variable {g : Growth} {w : List Char} {p : Piece} {t : EndTag}

theorem nodup_of_attributeIssues {f : Flavor} {p : Position} (q : Position) {seen : List String}
    {as : List WrittenAttribute} (h : attributeIssues f p seen as = []) :
    ((attributesOf f q as).map Attribute.name).Nodup ∧
      ∀ a ∈ attributesOf f q as, a.name ∉ seen := by
  induction as generalizing p q seen with
  | nil => exact ⟨List.nodup_nil, by simp [attributesOf]⟩
  | cons a as ih =>
    simp only [attributeIssues, List.append_eq_nil_iff] at h
    obtain ⟨⟨-, hrepeated⟩, hrest⟩ := h
    obtain ⟨hnodup, hnew⟩ := ih (q.advance a.source) hrest
    have hname : f.normalize (String.ofList a.name) ∉ seen := by
      intro hmem
      rw [if_pos (List.contains_iff_mem.2 hmem)] at hrepeated
      cases hrepeated
    rw [attributesOf, List.map_cons, List.nodup_cons]
    refine ⟨⟨?_, hnodup⟩, ?_⟩
    · intro hmem
      obtain ⟨b, hb, heq⟩ := List.mem_map.1 hmem
      exact hnew b hb (heq ▸ List.mem_cons_self)
    · intro b hb
      rcases List.mem_cons.1 hb with rfl | hb
      · exact hname
      · exact fun hmem => hnew b hb (List.mem_cons_of_mem _ hmem)

theorem proper_of_tagNotes {t : StartTag} {r : Option Range} {e : Element}
    (h : g.tagNotes t = []) (he : (g.elementNode t r).element? = some e) : e.Proper := by
  obtain rfl := Option.some.inj he
  obtain ⟨hattributes, hclosing⟩ := List.append_eq_nil_iff.1 h
  exact ⟨bne_iff_ne.1 (notesUnless_eq_nil.1 hclosing), (nodup_of_attributeIssues _ hattributes).1⟩

/-- Where nothing is noted at an end tag of XML, it closes the innermost element and no other. -/
theorem opened_of_closingNotes (hf : g.flavor = .xml) (h : g.closingNotes t = []) :
    ∃ o rest, g.opened = o :: rest ∧ o.name = g.nameOf t.name ∧ g.reopened t = o :: rest := by
  rw [closingNotes, if_pos hf] at h
  split at h
  · cases h
  · rename_i hopen
    have himplied : g.opened.takeWhile (fun o => o.name != g.nameOf t.name) = [] := by
      simpa [impliedBy] using h
    have hreopened : g.reopened t = g.opened := by
      have happend := List.takeWhile_append_dropWhile (p := fun o => o.name != g.nameOf t.name)
        (l := g.opened)
      rwa [himplied] at happend
    cases hopened : g.opened with
    | nil => simp [hreopened, hopened] at hopen
    | cons o rest =>
      refine ⟨o, rest, rfl, ?_, hreopened.trans hopened⟩
      rw [hopened] at himplied
      simpa using himplied

theorem startTag_of_element {n : Node} {e : Element} (hf : g.flavor = .xml)
    (hp : p.AsRead g.flavor) (hn : n ∈ g.added p) (he : n.element? = some e) :
    ∃ t, p = .startTag t ∧ n = g.elementNode t none := by
  cases p with
  | startTag t => exact ⟨t, rfl, List.mem_singleton.1 hn⟩
  | verbatim t content close =>
    rw [Piece.AsRead, hf] at hp
    cases hp
  | endTag t => cases hn
  | _ =>
    obtain rfl := List.mem_singleton.1 hn
    cases he

def Settled (g : Growth) (w : List Char) (i : Nat) (e : Element) : Prop :=
  e.selfClosing = true ∨ e.EndsIn w ∨ ∃ o ∈ g.opened, o.id = i ∧ o.name = e.name

/-- A forest whose elements are in order, as far as the text `w` that it was read from goes. -/
structure Balanced (g : Growth) (w : List Char) : Prop where
  place : g.place = Position.origin.advance w
  elements : ∀ i n e, g.nodes[i]? = some n → n.element? = some e → e.Proper ∧ g.Settled w i e

theorem balanced_start (f : Flavor) : (start f).Balanced [] := ⟨rfl, by simp [start]⟩

theorem Settled.mono {g' : Growth} {i : Nat} {e : Element} (h : g.Settled w i e)
    (hopened : ∀ o ∈ g.opened, o.id = i → o ∈ g'.opened) (s : List Char) :
    g'.Settled (w ++ s) i e := by
  rcases h with hslash | hends | ⟨o, ho, hid, hname⟩
  · exact Or.inl hslash
  · exact Or.inr (Or.inl (hends.append s))
  · exact Or.inr (Or.inr ⟨o, hopened o ho hid, hid, hname⟩)

theorem settled_startTag {t : StartTag} {e : Element} (hf : g.flavor = .xml)
    (he : (g.elementNode t none).element? = some e) (hclosing : e.closing ≠ .cutOff) :
    (g.grow (.startTag t)).Settled w g.nodes.size e := by
  obtain rfl := Option.some.inj he
  cases hc : t.closing with
  | cutOff => exact absurd hc hclosing
  | slash => exact Or.inl rfl
  | bracket =>
    refine Or.inr (Or.inr ⟨⟨g.nodes.size, g.nameOf t.name, g.place⟩, ?_, rfl, rfl⟩)
    rw [opened_grow, openedBy, if_pos ⟨hc, by simp [hf, Flavor.isVoid]⟩]
    exact List.mem_cons_self

theorem Balanced.grow_added (h : g.Balanced w) (hf : g.flavor = .xml) (hp : p.AsRead g.flavor)
    (hadds : p.isEndTag = false) (hnotes : g.notes p = []) {i : Nat} {n : Node} {e : Element}
    (hn : (g.grow p).nodes[i]? = some n) (he : n.element? = some e) :
    e.Proper ∧ (g.grow p).Settled (w ++ p.source) i e := by
  by_cases hi : i < g.nodes.size
  · rw [nodes_grow_left hi (by simp [closes?_of_added hadds])] at hn
    obtain ⟨hproper, hsettled⟩ := h.elements i n e hn he
    refine ⟨hproper, hsettled.mono (fun o ho _ => ?_) _⟩
    rcases opened_of_added hadds (g := g) with hopened | ⟨t, -, -, hopened⟩
    · exact hopened ▸ ho
    · exact hopened ▸ List.mem_cons_of_mem _ ho
  · have hnew : (g.added p)[i - g.nodes.size]? = some n := by
      rw [← Array.getElem?_toList, nodes_grow, List.getElem?_append_right (by simpa using hi),
        length_closeAt] at hn
      exact hn
    obtain ⟨t, rfl, rfl⟩ := startTag_of_element hf hp (List.mem_of_getElem? hnew) he
    have hproper := proper_of_tagNotes hnotes he
    obtain rfl : i = g.nodes.size := by
      obtain ⟨hlt, -⟩ := List.getElem?_eq_some_iff.1 hnew
      have hone : i - g.nodes.size < 1 := hlt
      omega
    exact ⟨hproper, settled_startTag hf he hproper.terminated⟩

theorem nodes_close {m : Node} {o : OpenElement} (hm : g.nodes[o.id]? = some m)
    (ho : o ∈ g.closes? p) :
    (g.grow p).nodes[o.id]? = some (setEndTag ⟨g.place, g.place.advance p.source⟩ m) := by
  obtain ⟨hlt, -⟩ := Array.getElem?_eq_some_iff.1 hm
  rw [← Array.getElem?_toList] at hm ⊢
  rw [nodes_grow, List.getElem?_append_left (by simpa using hlt), Option.mem_def.1 ho]
  simp [closeAt, hm]

theorem element_setEndTag {m : Node} {r : Range} {e : Element}
    (h : (setEndTag r m).element? = some e) :
    ∃ e', m.element? = some e' ∧ e = { e' with endTag := some r } := by
  obtain ⟨kind, range, source, parent⟩ := m
  cases kind with
  | element e' => exact ⟨e', rfl, (Option.some.inj h).symm⟩
  | _ => cases h

theorem Settled.close {o : OpenElement} {e : Element} (h : g.Settled w o.id e) (hs : g.Sound)
    (ho : o ∈ g.opened) (hnone : e.endTag = none) (hplace : g.place = Position.origin.advance w)
    (ht : t.Closes o.name) :
    (g.grow (.endTag t)).Settled (w ++ t.source) o.id
      { e with endTag := some ⟨g.place, g.place.advance t.source⟩ } := by
  rcases h with hslash | ⟨v, t', -, -, hend⟩ | ⟨a, ha, hid, hname⟩
  · exact Or.inl hslash
  · rw [hnone] at hend
    cases hend
  · obtain rfl : a = o := List.inj_on_of_nodup_map hs.nodup ha ho hid
    rw [hname] at ht
    refine Or.inr (Or.inl ⟨w, t, List.prefix_refl _, ht, ?_⟩)
    rw [hplace, ← Position.advance_append]

theorem Balanced.grow_endTag (h : g.Balanced w) (hs : g.Sound) (hf : g.flavor = .xml)
    (ht : t.Whole) (hnotes : g.notes (.endTag t) = []) {i : Nat} {n : Node} {e : Element}
    (hn : (g.grow (.endTag t)).nodes[i]? = some n) (he : n.element? = some e) :
    e.Proper ∧ (g.grow (.endTag t)).Settled (w ++ t.source) i e := by
  obtain ⟨hclosed, hclosing⟩ := List.append_eq_nil_iff.1 hnotes
  obtain ⟨o, rest, hopened, hname, hreopened⟩ := opened_of_closingNotes hf hclosing
  have ho : o ∈ g.opened := hopened ▸ List.mem_cons_self
  have hcloses : g.closes? (.endTag t) = some o := by rw [closes?, hreopened, List.head?_cons]
  by_cases heq : o.id = i
  · subst heq
    obtain ⟨m, hm, e₀, hkind, hnone⟩ := hs.unclosed o ho
    rw [Option.mem_def, Array.getElem?_toList] at hm
    have he₀ : m.element? = some e₀ := by rw [Node.element?, hkind]
    rw [nodes_close hm hcloses] at hn
    obtain rfl := Option.some.inj hn
    obtain ⟨e', he', rfl⟩ := element_setEndTag he
    obtain rfl := Option.some.inj (he₀.symm.trans he')
    obtain ⟨⟨hterminated, hnodup⟩, hsettled⟩ := h.elements o.id m e₀ hm he₀
    have hcloses : t.Closes o.name := by
      refine ⟨?_, notesUnless_eq_nil.1 hclosed, ht⟩
      rw [hname, nameOf, hf]
      rfl
    exact ⟨⟨hterminated, hnodup⟩, hsettled.close hs ho hnone h.place hcloses⟩
  · have hi : i < g.nodes.size := by
      obtain ⟨hlt, -⟩ := Array.getElem?_eq_some_iff.1 hn
      simpa [size_grow, added] using hlt
    rw [nodes_grow_left hi (by simpa [hcloses] using heq)] at hn
    obtain ⟨hproper, hsettled⟩ := h.elements i n e hn he
    refine ⟨hproper, hsettled.mono (fun a ha hid => ?_) _⟩
    -- of the open elements only the innermost is closed
    rw [opened_grow, openedBy, hreopened]
    rw [hopened] at ha
    rcases List.mem_cons.1 ha with rfl | ha
    · exact absurd hid heq
    · simpa using ha

theorem Balanced.grow (h : g.Balanced w) (hs : g.Sound) (hf : g.flavor = .xml)
    (hp : p.AsRead g.flavor) (hnotes : g.notes p = []) :
    (g.grow p).Balanced (w ++ p.source) := by
  refine ⟨by rw [place_grow, h.place, Position.advance_append], fun i n e hn he => ?_⟩
  cases hadds : p.isEndTag with
  | false => exact h.grow_added hf hp hadds hnotes hn he
  | true =>
    cases p with
    | endTag t => exact h.grow_endTag hs hf hp hnotes hn he
    | _ => cases hadds

theorem Balanced.foldl (h : g.Balanced w) (hs : g.Sound) (hf : g.flavor = .xml) {ps : List Piece}
    (hps : ∀ p ∈ ps, p.AsRead g.flavor) (hissues : (ps.foldl Growth.grow g).issues = []) :
    (ps.foldl Growth.grow g).Balanced (w ++ ps.flatMap Piece.source) := by
  induction ps generalizing g w with
  | nil => simpa using h
  | cons p ps ih =>
    have hflavor := flavor_grow (g := g) p
    have hnext := h.grow hs hf (hps p List.mem_cons_self) (notes_eq_nil hissues)
    rw [List.flatMap_cons, ← List.append_assoc]
    exact ih hnext (hs.grow p) (hflavor.trans hf)
      (fun q hq => hflavor ▸ hps q (List.mem_cons_of_mem p hq)) hissues

theorem balanced_ofPieces {ps : List Piece} (hps : ∀ p ∈ ps, p.AsRead .xml)
    (h : (ofPieces .xml ps).issues = []) :
    (ofPieces .xml ps).Balanced (ps.flatMap Piece.source) :=
  (balanced_start .xml).foldl (sound_start .xml) rfl hps h

theorem opened_of_unclosed (hf : g.flavor = .xml) (h : g.unclosed = []) : g.opened = [] := by
  simpa [unclosed, hf] using h

theorem strays_of_issues {f : Flavor} {ps : List Piece} (h : (ofPieces f ps).issues = []) :
    (start f).strays ps = [] := by
  have hstrays := issues_foldl (start f) ps
  rw [show (ps.foldl grow (start f)).issues = [] from h] at hstrays
  simpa [start] using hstrays.symm

end Growth

namespace Document

theorem issues_parse (f : Flavor) (text : String) :
    (parse f text).issues =
      (Growth.ofPieces f (pieces f (stripMark text.toList).1)).issues ++
        (Growth.ofPieces f (pieces f (stripMark text.toList).1)).unclosed := rfl

/-- An XML document without issues is balanced, and written back it is its text. -/
theorem balanced_of_issues (text : String) (h : (parse .xml text).issues = []) :
    let s := (stripMark text.toList).1
    let d := parse .xml text
    (∀ i e, d.element? i = some e → e.Proper ∧ (e.selfClosing = true ∨ e.EndsIn s)) ∧
      (Growth.start .xml).strays (pieces .xml s) = [] ∧
      d.roots.flatMap (d.written s) = s := by
  intro s d
  rw [issues_parse, List.append_eq_nil_iff] at h
  obtain ⟨hissues, hunclosed⟩ := h
  have hflavor := Growth.flavor_ofPieces .xml (pieces .xml s)
  have hopened := Growth.opened_of_unclosed hflavor hunclosed
  have hstrays := Growth.strays_of_issues hissues
  have hbalanced := Growth.balanced_ofPieces (fun p hp => asRead_of_mem hp) hissues
  rw [source_pieces] at hbalanced
  refine ⟨fun i e he => ?_, hstrays, written_parse hstrays⟩
  obtain ⟨n, hn, he⟩ := Option.bind_eq_some_iff.1 he
  obtain ⟨hproper, hslash | hends | ⟨o, ho, -⟩⟩ := hbalanced.elements i n e hn he
  · exact ⟨hproper, Or.inl hslash⟩
  · exact ⟨hproper, Or.inr hends⟩
  · rw [hopened] at ho
    cases ho

theorem balanced_of_issues_nested :
    let s := "<a b='1'><c/>x</a>".toList
    let d := parse .xml "<a b='1'><c/>x</a>"
    d.issues = [] ∧ (∃ e, d.element? 0 = some e ∧ e.Proper ∧ e.EndsIn s) ∧
      d.roots.flatMap (d.written s) = s := by
  have hissues : (parse .xml "<a b='1'><c/>x</a>").issues = [] := by decide +kernel
  have hmark : (stripMark "<a b='1'><c/>x</a>".toList).1 = "<a b='1'><c/>x</a>".toList := by
    decide +kernel
  obtain ⟨e, he, hopen⟩ : ∃ e, (parse .xml "<a b='1'><c/>x</a>").element? 0 = some e ∧
      e.selfClosing = false := by
    refine ⟨_, Option.eq_some_of_isSome (by decide +kernel), by decide +kernel⟩
  have hall := balanced_of_issues "<a b='1'><c/>x</a>" hissues
  rw [hmark] at hall
  obtain ⟨helements, -, hwritten⟩ := hall
  obtain ⟨hproper, hends⟩ := helements 0 e he
  rw [hopen] at hends
  exact ⟨hissues, ⟨e, he, hproper, hends.resolve_left Bool.false_ne_true⟩, hwritten⟩

end Document
end MarkupSplice
