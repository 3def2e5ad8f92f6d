import MarkupSplice.Proofs.Markup.Emptied
import MarkupSplice.Proofs.Plan.Content

/-!
# Texts with the content of an element deleted

The text in which the content of an element is deleted, and its start tag
written with other attributes, is read as a document in which the element has
no children (`Site.exists_cleared`). What is left behind its start tag are end
tags that closed nothing before and close nothing now, and then the text goes
on behind the element.
-/
namespace MarkupSplice
open Markup Text

namespace Plan

variable {d : Document} {id first last : Nat} {n : Node} {e : Element}

theorem clearContent_of_childless (h : d.children id = []) : clearContent d id = none := by
  unfold clearContent
  cases d.element? id with
  | none => rfl
  | some e =>
    simp only [h, Option.bind_eq_bind, Option.bind_some, List.head?_nil, Option.bind_none]
    split <;> rfl

theorem clearContent_of_children (he : d.element? id = some e) (hslash : e.closing ≠ .slash)
    (hfirst : (d.children id).head? = some first) (hlast : (d.children id).getLast? = some last)
    (hn : d.nodes[first]? = some n) (hlt : n.range.start.offset < (d.outerEnd last).offset) :
    clearContent d id = some (.delete n.range.start.offset (d.outerEnd last).offset) := by
  have hclosing : e.selfClosing = false := by simpa [Element.selfClosing] using hslash
  simp [clearContent, he, hclosing, hfirst, hlast, hn, hlt]

theorem clearContent_parse {f : Flavor} {text : String}
    (hfirst : ((Document.parse f text).children id).head? = some first)
    (hlast : ((Document.parse f text).children id).getLast? = some last)
    (hn : (Document.parse f text).nodes[first]? = some n) :
    clearContent (Document.parse f text) id =
      some (.delete n.range.start.offset ((Document.parse f text).outerEnd last).offset) := by
  have hmem := List.mem_of_mem_head? hfirst
  obtain ⟨m, e, hm, he, hbracket, -⟩ := Document.bracket_of_child hmem
  have helement : (Document.parse f text).element? id = some e := by
    rw [Document.element?, hm]
    exact he
  have hslash : e.closing ≠ .slash := by
    rw [hbracket]
    exact Closing.noConfusion
  have hlt := Document.lt_of_node hn
  have hstop := Document.stop_le_outerEnd hn
  have hle := Document.child_le_last hlast hmem
  exact clearContent_of_children helement hslash hfirst hlast hn (by omega)

end Plan

namespace Markup

theorem readVerbatim_of_stop {name s : List Char} (h : s ≠ [] → closesVerbatim name s = true) :
    readVerbatim name s = ([], s) := by
  cases s with
  | nil => rfl
  | cons c s => rw [readVerbatim, if_pos (h (List.cons_ne_nil c s))]

theorem readContent_emptied {f : Flavor} {t t' : StartTag} {content s rest : List Char}
    {close : Option EndTag} (h : readContent f t s = (.verbatim t content close, rest))
    (hn : t'.name = t.name) (hc : t'.closing = t.closing) :
    t'.closing = .bracket ∧ readContent f t' (close.elim [] EndTag.source ++ rest) =
      (.verbatim t' [] close, rest) := by
  have hsource := source_readContent f t s
  rw [h] at hsource
  simp only [Piece.source, List.append_assoc] at hsource
  have hs := List.append_cancel_left hsource
  dsimp only [readContent] at h ⊢
  rw [hn, hc]
  split at h
  · rename_i hverbatim
    have hv := source_readVerbatim (f.normalize (String.ofList t.name)).toList s
    have hstop := @readVerbatim_stop (f.normalize (String.ofList t.name)).toList s
    generalize readVerbatim (f.normalize (String.ofList t.name)).toList s = r at h hv hstop
    obtain ⟨content', u⟩ := r
    obtain rfl : content' = content := by
      cases u with
      | nil => exact (Piece.verbatim.inj (congrArg Prod.fst h)).2.1
      | cons c r => exact (Piece.verbatim.inj (congrArg Prod.fst h)).2.1
    obtain rfl := List.append_cancel_left (hv.trans hs.symm)
    refine ⟨hverbatim.1, ?_⟩
    rw [if_pos hverbatim, readVerbatim_of_stop hstop]
    generalize close.elim [] EndTag.source ++ rest = u at h
    cases u with
    | nil => simpa using h
    | cons c r => simpa using h
  · cases h

end Markup

namespace Growth.Interior

variable {g : Growth} {id : Nat} {ps : List Piece}

def stretches (i : g.Interior id ps) : List Stretch :=
  [.keep (i.early.flatMap Piece.source), .replace (i.content.flatMap Piece.source) [],
    .keep ((i.late ++ i.behind).flatMap Piece.source)]

theorem newText_stretches (i : g.Interior id ps) :
    Stretch.newText i.stretches = (i.early ++ (i.late ++ i.behind)).flatMap Piece.source := by
  simp [stretches, Stretch.keep, Stretch.replace]

end Growth.Interior

namespace Site

variable {f : Flavor} {s : List Char} (x : Site f s)

theorem bracketed {p : Piece} (hp : p ∈ x.before ++ x.piece :: x.after) : p.Bracketed :=
  bracketed_of_mem (x.pieces ▸ hp)

theorem pieces_after : Markup.pieces f (x.after.flatMap Piece.source) = x.after := by
  apply @pieces_behind _ _ (x.before ++ [x.piece])
  rw [x.pieces, List.append_assoc]
  rfl

theorem sound_growth : x.growth.Sound := Growth.sound_ofPieces f x.before

theorem ordered_growth : x.growth.Ordered :=
  (Growth.ordered_start f).foldl (Growth.sound_start f) x.before

theorem lineage_growth : x.growth.Lineage := Growth.lineage_ofPieces f x.before

theorem exists_nested : ∃ q, x.growth.Nested q :=
  (Growth.nested_start f Position.origin).foldl (Growth.sound_start f) (Growth.ordered_start f)
    fun _ hp => x.bracketed (List.mem_append_left _ hp)

theorem growth_eq :
    Growth.ofPieces f (Markup.pieces f s) = x.after.foldl Growth.grow (x.growth.grow x.piece) := by
  rw [x.pieces, Growth.ofPieces_append]
  rfl

theorem children_grow_id {p : Piece} (hsize : (x.growth.grow p).nodes.size = x.id + 1) :
    (x.growth.grow p).document.children x.id = [] :=
  Growth.children_of_size_le (x.ordered_growth.grow x.sound_growth p) (Nat.le_of_eq hsize)

theorem not_opened : ∀ a ∈ x.growth.opened, a.id ≠ x.id := by
  intro a ha
  exact Nat.ne_of_lt (x.sound_growth.id_lt ha)

theorem rest_of_startTag (h : x.piece = .startTag x.tag) :
    x.rest = x.after.flatMap Piece.source := by
  have hsource := source_readContent f x.tag x.rest
  rw [x.content, h] at hsource
  exact (List.append_cancel_left hsource).symm

theorem rest_of_verbatim {content : List Char} {close : Option EndTag}
    (h : x.piece = .verbatim x.tag content close) :
    x.rest = content ++ (close.elim [] EndTag.source ++ x.after.flatMap Piece.source) := by
  have hsource := source_readContent f x.tag x.rest
  rw [x.content, h] at hsource
  simp only [Piece.source, List.append_assoc] at hsource
  exact (List.append_cancel_left hsource).symm

theorem readContent_startTag {t : StartTag} (h : x.piece = .startTag x.tag)
    (hn : t.name = x.tag.name) (hc : t.closing = x.tag.closing) (u : List Char) :
    readContent f t u = (.startTag t, u) := by
  have hcontent := x.content
  rw [h] at hcontent
  dsimp only [readContent] at hcontent ⊢
  rw [hn, hc]
  split
  · rename_i hverbatim
    rw [if_pos hverbatim] at hcontent
    split at hcontent <;> cases hcontent
  · rfl

/-- Whether the element has no children behind these changes, whatever attributes it gets. -/
def Emptied (tail : List Stretch) : Prop :=
  ∀ t : StartTag, t.name = x.tag.name → t.closing = x.tag.closing → t.Sound x.rest →
    t.Sound (Stretch.newText tail) ∧ (Growth.ofPieces f
      (Markup.pieces f (x.rewrite t (Stretch.newText tail)))).document.children x.id = []

theorem emptied_of_childless
    (h : (Growth.ofPieces f (Markup.pieces f s)).document.children x.id = []) :
    x.Emptied [.keep x.rest] := by
  intro t hn hc hs
  have hrest : Stretch.newText [.keep x.rest] = x.rest := by simp [Stretch.keep]
  have houtlines := @outlines_rewrite f s x t
    (fun _ => t.attributes.map (WrittenAttribute.entry f)) hn hc hs rfl
  have hparents : ∀ g : Growth, g.parents = g.outlines.map Outline.parent := fun g => by
    simp [Growth.parents, Growth.outlines, Node.outline]
  rw [hrest]
  refine ⟨hs, ?_⟩
  rw [Growth.children_document, hparents, houtlines, Growth.map_modify_of_eq, ← hparents,
    ← Growth.children_document, h]
  intro o
  unfold Outline.mapEntries
  split <;> rfl

theorem exists_interior (hpiece : x.piece = .startTag x.tag)
    (hne : (Growth.ofPieces f (Markup.pieces f s)).document.children x.id ≠ []) :
    x.tag.closing = .bracket ∧
      (x.growth.grow x.piece).opened =
        ⟨x.id, x.growth.nameOf x.tag.name, x.growth.place⟩ :: x.growth.opened ∧
      ∃ i : (x.growth.grow x.piece).Interior x.id x.after, i.content ≠ [] := by
  have hsound := x.sound_growth.grow x.piece
  have hadds : x.piece.isEndTag = false := by rw [hpiece]; rfl
  have hsize : (x.growth.grow x.piece).nodes.size = x.id + 1 := by
    rw [Growth.size_grow, hpiece]
    rfl
  rw [x.growth_eq] at hne
  rcases Growth.opened_of_added hadds (g := x.growth) with hopened | ⟨t, ht, hbracket, hopened⟩
  · -- an element that is not open never gets a child
    have hclosed := Growth.closed_foldl hsound (by omega) (hopened ▸ x.not_opened) x.after
    rw [hclosed.2.1, x.children_grow_id hsize] at hne
    exact absurd rfl hne
  · obtain rfl : x.tag = t := Piece.startTag.inj (hpiece.symm.trans ht)
    obtain ⟨q, hnested⟩ := x.exists_nested
    obtain ⟨i⟩ := Growth.exists_interior hsound (x.ordered_growth.grow x.sound_growth x.piece)
      (hnested.grow_added x.sound_growth x.ordered_growth hadds (x.bracketed (by simp))) hopened
      hsize fun p hp => x.bracketed (List.mem_append_right _ (List.mem_cons_of_mem _ hp))
    exact ⟨hbracket, hopened, i, fun hnil => hne (i.childless hnil)⟩

theorem emptied_of_opened {strays behind : List Piece} {tail : List Stretch}
    (hpiece : x.piece = .startTag x.tag) (hbracket : x.tag.closing = .bracket)
    (hopened : (x.growth.grow x.piece).opened =
      ⟨x.id, x.growth.nameOf x.tag.name, x.growth.place⟩ :: x.growth.opened)
    (hstrays : (x.growth.grow x.piece).PassesOver strays)
    (hbehind : (x.growth.grow x.piece).Leaves behind)
    (hnew : Stretch.newText tail = (strays ++ behind).flatMap Piece.source)
    (hpieces : Markup.pieces f ((strays ++ behind).flatMap Piece.source) = strays ++ behind) :
    x.Emptied tail := by
  intro t hn hc hs
  have hcut : t.closing ≠ .cutOff := by
    rw [hc, hbracket]
    exact Closing.noConfusion
  have hs' := hs.append hcut (Stretch.newText tail)
  refine ⟨hs', ?_⟩
  -- which elements are open does not depend on attributes
  have hopened' : (x.growth.grow (.startTag t)).opened = (x.growth.grow x.piece).opened := by
    rw [Growth.opened_grow, Growth.opened_grow, hpiece, Growth.openedBy, Growth.openedBy, hn, hc]
  have hflavor : (x.growth.grow (.startTag t)).flavor = (x.growth.grow x.piece).flavor := by
    rw [Growth.flavor_grow, Growth.flavor_grow]
  have hsound := x.sound_growth.grow (.startTag t)
  rw [x.pieces_rewrite hn hs', x.readContent_startTag hpiece hn hc, hnew, hpieces,
    Growth.ofPieces_append, List.foldl_cons]
  have hempty := Growth.children_emptied hsound (hopened'.trans hopened)
    (hstrays.of_suffix hflavor.symm (hopened' ▸ List.suffix_refl _))
    (hbehind.congr hflavor hopened')
  refine hempty.trans (x.children_grow_id ?_)
  rw [Growth.size_grow]
  rfl

theorem emptied_of_interior (hpiece : x.piece = .startTag x.tag) (hbracket : x.tag.closing = .bracket)
    (hopened : (x.growth.grow x.piece).opened =
      ⟨x.id, x.growth.nameOf x.tag.name, x.growth.place⟩ :: x.growth.opened)
    (i : (x.growth.grow x.piece).Interior x.id x.after) (hcontent : i.content ≠ []) :
    x.Emptied i.stretches := by
  refine x.emptied_of_opened hpiece hbracket hopened i.passes i.leaves ?_ ?_
  · rw [List.append_assoc]
    exact i.newText_stretches
  · rw [List.append_assoc]
    exact i.pieces_emptied x.pieces_after hcontent

theorem emptied_of_verbatim {content : List Char} {close : Option EndTag} {tail : List Stretch}
    (hpiece : x.piece = .verbatim x.tag content close)
    (hnew : Stretch.newText tail =
      close.elim [] EndTag.source ++ x.after.flatMap Piece.source) : x.Emptied tail := by
  intro t hn hc hs
  obtain ⟨hbracket, hread⟩ := readContent_emptied (x.content.trans (by rw [hpiece])) hn hc
  have hcut : t.closing ≠ .cutOff := by
    rw [hbracket]
    exact Closing.noConfusion
  have hs' := hs.append hcut (Stretch.newText tail)
  refine ⟨hs', ?_⟩
  have hsize : (x.growth.grow (.verbatim t [] close)).nodes.size = x.id + 1 := by
    rw [Growth.size_grow]
    rfl
  have hopened : (x.growth.grow (.verbatim t [] close)).opened = x.growth.opened :=
    Growth.opened_grow _
  have hclosed := Growth.closed_foldl (x.sound_growth.grow (.verbatim t [] close)) (by omega)
    (hopened ▸ x.not_opened) x.after
  rw [x.pieces_rewrite hn hs', hnew, hread, x.pieces_after, Growth.ofPieces_append,
    List.foldl_cons]
  exact hclosed.2.1.trans (x.children_grow_id hsize)

end Site

namespace Site

variable {f : Flavor} {text : String} (x : Site f (Document.stripMark text.toList).1)

theorem offset_inside : (x.growth.place.advance x.tag.source).offset =
    x.delimiter + byteLength x.tag.closing.source := by
  simp [delimiter, lead, StartTag.source, Position.origin, Nat.add_assoc]

theorem oldText_interior (hpiece : x.piece = .startTag x.tag)
    (i : (x.growth.grow x.piece).Interior x.id x.after) :
    Stretch.oldText i.stretches = x.rest := by
  have hafter := congrArg (List.flatMap Piece.source) i.pieces
  rw [x.rest_of_startTag hpiece]
  refine Eq.trans ?_ hafter.symm
  simp [Growth.Interior.stretches, Stretch.keep, Stretch.replace]

theorem edits_interior (hpiece : x.piece = .startTag x.tag)
    (i : (x.growth.grow x.piece).Interior x.id x.after) (hcontent : i.content ≠ []) :
    Stretch.edits (x.delimiter + byteLength x.tag.closing.source) i.stretches =
      (Plan.clearContent (Document.parse f text) x.id).toList := by
  obtain ⟨first, last, m, hfirst, hlast, hm, hstart, hend⟩ := i.children hcontent
  rw [← x.growth_eq] at hfirst hlast hm hend
  have hplace : (x.growth.grow x.piece).place = x.growth.place.advance x.tag.source := by
    rw [Growth.place_grow, hpiece]
    rfl
  rw [hplace] at hstart hend
  have hstart' : m.range.start.offset = x.delimiter + byteLength x.tag.closing.source +
      byteLength (i.early.flatMap Piece.source) := by
    rw [hstart, Position.offset_advance, x.offset_inside]
  have hend' : ((Document.parse f text).outerEnd last).offset =
      m.range.start.offset + byteLength (i.content.flatMap Piece.source) := by
    have hsize := Document.lt_size_of_child (List.mem_of_getLast? hlast)
    rw [Document.outerEnd_parse hsize, hend, Position.offset_advance, x.offset_inside,
      hstart', List.flatMap_append, byteLength_append, Nat.add_assoc _ _ (byteLength _)]
  rw [Plan.clearContent_parse hfirst hlast hm, hend', hstart']
  simp [Growth.Interior.stretches, Edit.delete]

theorem closed_verbatim {content : List Char} {close : Option EndTag}
    (hpiece : x.piece = .verbatim x.tag content close) {i : Nat} (hi : x.id ≤ i)
    (hlt : i < (x.growth.grow x.piece).nodes.size) :
    (Document.parse f text).nodes[i]? = (x.growth.grow x.piece).nodes[i]? ∧
      (Document.parse f text).children i = (x.growth.grow x.piece).document.children i := by
  have hopened : (x.growth.grow x.piece).opened = x.growth.opened := by
    rw [Growth.opened_grow, hpiece]
    rfl
  have hapart : ∀ a ∈ (x.growth.grow x.piece).opened, a.id ≠ i := by
    intro a ha
    exact Nat.ne_of_lt (Nat.lt_of_lt_of_le (x.sound_growth.id_lt (hopened ▸ ha)) hi)
  have hclosed := Growth.closed_foldl (x.sound_growth.grow x.piece) hlt hapart x.after
  rw [Document.children_parse, Document.nodes_parse, x.growth_eq]
  exact ⟨hclosed.1, hclosed.2.1⟩

theorem children_verbatim {content : List Char} {close : Option EndTag}
    (hpiece : x.piece = .verbatim x.tag content close) :
    (Document.parse f text).children x.id = (if content.isEmpty then [] else [x.id + 1]) ∧
      (content ≠ [] →
        (Document.parse f text).nodes[x.id + 1]? = some (x.growth.contentNode x.tag content)) := by
  have hsize : (x.growth.grow x.piece).nodes.size =
      x.id + if content.isEmpty then 1 else 2 := by
    rw [Growth.size_grow, hpiece, Growth.added, id]
    split <;> rfl
  cases hempty : content.isEmpty with
  | true =>
    rw [hempty, if_pos rfl] at hsize
    rw [(x.closed_verbatim hpiece (Nat.le_refl _) (by omega)).2, x.children_grow_id hsize]
    exact ⟨rfl, fun hne => absurd (List.isEmpty_iff.1 hempty) hne⟩
  | false =>
    rw [hempty] at hsize
    simp only [Bool.false_eq_true, if_false] at hsize
    rw [(x.closed_verbatim hpiece (Nat.le_refl _) (by omega)).2,
      (x.closed_verbatim hpiece (Nat.le_succ _) (by omega)).1]
    constructor
    · -- the start tag alone would add the same node and no other
      have htag := @children_grow_id _ _ x (.startTag x.tag) (by rw [Growth.size_grow]; rfl)
      rw [Growth.children_document, Growth.parents_grow] at htag
      have hfront : childrenIn (x.growth.parents ++ [x.growth.parent?]) x.id = [] := htag
      rw [Growth.children_document, Growth.parents_grow, hpiece]
      simp only [Growth.added, hempty, Bool.false_eq_true, if_false, List.map_cons, List.map_nil]
      rw [← List.singleton_append, ← List.append_assoc, childrenIn_concat]
      simp only [Growth.elementNode, Growth.leafNode, Growth.contentNode, hfront]
      simp [id]
    · intro _
      rw [← Array.getElem?_toList, Growth.nodes_grow, hpiece, id]
      simp [Growth.closeAt, Growth.closes?, Growth.added, hempty]

theorem content_ne_nil {content : List Char} {close : Option EndTag}
    (hpiece : x.piece = .verbatim x.tag content close)
    (hne : (Document.parse f text).children x.id ≠ []) : content ≠ [] := by
  rintro rfl
  exact hne (x.children_verbatim hpiece).1

def verbatimStretches (content : List Char) (close : Option EndTag) : List Stretch :=
  [.replace content [], .keep (close.elim [] EndTag.source ++ x.after.flatMap Piece.source)]

theorem newText_verbatim (content : List Char) (close : Option EndTag) :
    Stretch.newText (x.verbatimStretches content close) =
      close.elim [] EndTag.source ++ x.after.flatMap Piece.source := by
  simp [verbatimStretches, Stretch.keep, Stretch.replace]

theorem oldText_verbatim {content : List Char} {close : Option EndTag}
    (hpiece : x.piece = .verbatim x.tag content close) :
    Stretch.oldText (x.verbatimStretches content close) = x.rest := by
  rw [x.rest_of_verbatim hpiece]
  simp [verbatimStretches, Stretch.keep, Stretch.replace]

theorem edits_verbatim {content : List Char} {close : Option EndTag}
    (hpiece : x.piece = .verbatim x.tag content close) (hcontent : content ≠ []) :
    Stretch.edits (x.delimiter + byteLength x.tag.closing.source)
        (x.verbatimStretches content close) =
      (Plan.clearContent (Document.parse f text) x.id).toList := by
  obtain ⟨hchildren, hnode⟩ := x.children_verbatim hpiece
  rw [if_neg (mt List.isEmpty_iff.1 hcontent)] at hchildren
  have hfirst : ((Document.parse f text).children x.id).head? = some (x.id + 1) := by
    rw [hchildren]
    rfl
  have hlast : ((Document.parse f text).children x.id).getLast? = some (x.id + 1) := by
    rw [hchildren]
    rfl
  have hstop := Document.outerEnd_of_leaf (hnode hcontent) rfl
  have hstart : (x.growth.contentNode x.tag content).range.start.offset =
      x.delimiter + byteLength x.tag.closing.source := x.offset_inside
  have hend : (x.growth.contentNode x.tag content).range.stop.offset =
      x.delimiter + byteLength x.tag.closing.source + byteLength content := by
    rw [← x.offset_inside]
    exact Position.offset_advance _ _
  rw [Plan.clearContent_parse hfirst hlast (hnode hcontent), hstop, hstart, hend]
  simp [verbatimStretches, Edit.delete]

structure Clears (tail : List Stretch) : Prop where
  old : Stretch.oldText tail = x.rest
  edits : Stretch.edits (x.delimiter + byteLength x.tag.closing.source) tail =
    (Plan.clearContent (Document.parse f text) x.id).toList
  deletes : Stretch.edits (x.delimiter + byteLength x.tag.closing.source) tail ≠ []
  empty : x.Emptied tail
  cleared : ∃ k, Growth.Cleared x.id k
    (Growth.ofPieces f (Markup.pieces f (Document.stripMark text.toList).1))
    (Growth.ofPieces f (Markup.pieces f (x.rewrite x.tag (Stretch.newText tail))))

theorem clears_opened (hpiece : x.piece = .startTag x.tag)
    (hne : (Document.parse f text).children x.id ≠ []) : ∃ tail, x.Clears tail := by
  obtain ⟨hbracket, hopened, i, hcontent⟩ := x.exists_interior hpiece hne
  have hcut : x.tag.closing ≠ .cutOff := by
    rw [hbracket]
    exact Closing.noConfusion
  have hsize : (x.growth.grow x.piece).nodes.size = x.id + 1 := by
    rw [Growth.size_grow, hpiece]
    rfl
  obtain ⟨k, hcleared⟩ := i.cleared (x.sound_growth.grow x.piece)
    (x.ordered_growth.grow x.sound_growth x.piece) (x.lineage_growth.grow x.sound_growth x.piece)
    hopened hsize
  have hempty := x.emptied_of_interior hpiece hbracket hopened i hcontent
  refine ⟨i.stretches, x.oldText_interior hpiece i,
    x.edits_interior hpiece i hcontent, by simp [Growth.Interior.stretches],
    hempty, ⟨k, ?_⟩⟩
  rw [x.growth_eq, x.pieces_rewrite rfl (x.sound.append hcut _),
    x.readContent_startTag hpiece rfl rfl, i.newText_stretches,
    i.pieces_emptied x.pieces_after hcontent, Growth.ofPieces_append, ← hpiece]
  exact hcleared

theorem clears_verbatim {content : List Char} {close : Option EndTag}
    (hpiece : x.piece = .verbatim x.tag content close)
    (hne : (Document.parse f text).children x.id ≠ []) : ∃ tail, x.Clears tail := by
  have hcontent := x.content_ne_nil hpiece hne
  obtain ⟨hbracket, hread⟩ := readContent_emptied (x.content.trans (by rw [hpiece])) rfl rfl
  have hcut : x.tag.closing ≠ .cutOff := by
    rw [hbracket]
    exact Closing.noConfusion
  have hnew := x.newText_verbatim content close
  refine ⟨x.verbatimStretches content close, x.oldText_verbatim hpiece,
    x.edits_verbatim hpiece hcontent, by simp [verbatimStretches],
    x.emptied_of_verbatim hpiece hnew, ⟨1, ?_⟩⟩
  rw [x.growth_eq, x.pieces_rewrite rfl (x.sound.append hcut _), hnew, hread, x.pieces_after,
    Growth.ofPieces_append, hpiece]
  exact Growth.cleared_verbatim x.sound_growth x.ordered_growth x.lineage_growth hcontent close
    x.after

theorem exists_clears (hne : (Document.parse f text).children x.id ≠ []) :
    ∃ tail, x.Clears tail := by
  have htag := x.startTag
  cases hpiece : x.piece with
  | startTag t =>
    rw [hpiece] at htag
    cases htag
    exact x.clears_opened hpiece hne
  | verbatim t content close =>
    rw [hpiece] at htag
    cases htag
    exact x.clears_verbatim hpiece hne
  | _ =>
    rw [hpiece] at htag
    cases htag

/-- What is deleted behind a start tag leaves its element without children. -/
theorem exists_cleared :
    ∃ tail, Stretch.oldText tail = x.rest ∧
      Stretch.edits (x.delimiter + byteLength x.tag.closing.source) tail =
        (Plan.clearContent (Document.parse f text) x.id).toList ∧ x.Emptied tail := by
  by_cases hnone : (Document.parse f text).children x.id = []
  · rw [Plan.clearContent_of_childless hnone]
    exact ⟨[.keep x.rest], by simp [Stretch.keep], rfl, x.emptied_of_childless hnone⟩
  · obtain ⟨tail, hclears⟩ := x.exists_clears hnone
    exact ⟨tail, hclears.old, hclears.edits, hclears.empty⟩

end Site
end MarkupSplice
