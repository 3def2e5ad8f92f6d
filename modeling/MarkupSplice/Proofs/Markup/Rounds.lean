import MarkupSplice.Proofs.Markup.Nesting
import MarkupSplice.Proofs.Markup.Scanner

/-!
# Reading round by round

A round of the loop over a text takes no more text than stands in front of the next `<`, so
text with a `<` that opens nothing is found in several rounds (`rounds`). Its node
is the one of the first round, and reaches further with each of the others
(`Growth.addText`). The document is the one that is read piece by piece
(`Document.ofRounds_eq`).
-/
namespace MarkupSplice
open Markup Text

namespace Markup

variable {f : Flavor} {s v a b c : List Char} {n m : Nat} {p : Piece} {ps : List Piece}

def rounds (f : Flavor) (s : List Char) (n : Nat) : Option (List Piece) :=
  if n < byteLength s then
    match scanPiece f s n with
    | none => none
    | some (p, m) => if n < m ∧ isBoundary s m then (rounds f s m).map (p :: ·) else none
  else some []
termination_by byteLength s - n

def joined (ps : List Piece) : List Piece := ps.foldr joinPiece []

theorem scan_eq_rounds (f : Flavor) (s : List Char) (n : Nat) :
    scan f s n = (rounds f s n).map joined := by
  fun_induction rounds f s n with
  | case1 n hn hnone => rw [scan, if_pos hn, hnone]; rfl
  | case2 n hn p m hsome hmoves ih =>
    rw [scan, if_pos hn, hsome]
    simp only [if_pos hmoves, ih, Option.map_map]
    rfl
  | case3 n hn p m hsome hstays =>
    rw [scan, if_pos hn, hsome]
    simp only [if_neg hstays]
    rfl
  | case4 n hn => rw [scan, if_neg hn]; rfl

theorem ne_nil_of_scanPiece (h : Stands s n v) (hv : v ≠ [])
    (hscan : scanPiece f s n = some (.text a, m)) : a ≠ [] := by
  rcases scanPiece_stands f h with ⟨-, htext⟩ | ⟨hsome, k, hpiece, -⟩
  · cases v with
    | nil => exact absurd rfl hv
    | cons c v =>
      obtain ⟨k, hcut, -⟩ := scanText_stands h
      rw [htext, hcut] at hscan
      cases hscan
      exact List.cons_ne_nil _ _
  · rw [hpiece] at hscan
    exact absurd (Prod.mk.inj (Option.some.inj hscan)).1 (readPiece_ne_text hsome a)

theorem ne_nil_of_rounds (hn : isBoundary s n = true) (h : rounds f s n = some ps)
    (ha : .text a ∈ ps) : a ≠ [] := by
  fun_induction rounds f s n generalizing ps with
  | case1 => cases h
  | case2 n hlt p m hsome hmoves ih =>
    obtain ⟨qs, hqs, rfl⟩ := Option.map_eq_some_iff.1 h
    rcases List.mem_cons.1 ha with rfl | ha
    · obtain ⟨v, hv⟩ := stands_of_isBoundary hn
      refine ne_nil_of_scanPiece hv ?_ hsome
      rintro rfl
      exact Nat.lt_irrefl _ (hv.eq_length ▸ hlt)
    · exact ih hmoves.2 hqs ha
  | case3 => cases h
  | case4 =>
    cases h
    cases ha

theorem joined_cons (p : Piece) (ps : List Piece) :
    joined (p :: ps) = joinPiece p (joined ps) := rfl

theorem joinPiece_of_not_text (hp : p.isText = false) (ps : List Piece) :
    joinPiece p ps = p :: ps := by
  apply joinPiece_of_ne_text
  rintro a rfl
  cases hp

theorem joinPiece_text_text (a b : List Char) (ps : List Piece) :
    joinPiece (.text a) (joinPiece (.text b) ps) = joinPiece (.text (a ++ b)) ps := by
  rcases ps with - | ⟨p, ps⟩
  · rfl
  · cases p with
    | text c => simp only [joinPiece, List.append_assoc]
    | _ => rfl

theorem joinPiece_text_markup (a : List Char) (hp : p.isText = false) (ps : List Piece) :
    joinPiece (.text a) (p :: ps) = .text a :: p :: ps := by
  cases p with
  | text b => cases hp
  | _ => rfl

theorem exists_joinPiece_text (a : List Char) (ps : List Piece) :
    ∃ b qs, joinPiece (.text a) ps = .text (a ++ b) :: qs := by
  rcases ps with - | ⟨p, ps⟩
  · exact ⟨[], [], by rw [List.append_nil]; rfl⟩
  · cases p with
    | text b => exact ⟨b, ps, rfl⟩
    | _ => exact ⟨[], _, by rw [List.append_nil]; rfl⟩

theorem source_ne_nil_of_not_text (hp : p.isText = false) : p.source ≠ [] := by
  cases p with
  | text s => cases hp
  | _ => simp [Piece.source, enclosed, commentOpen, cdataOpen, StartTag.source, EndTag.source]

theorem opening_of_isCdata (h : Document.isCdata s = true) : (opening? f s).isSome = true := by
  obtain ⟨r, rfl⟩ := List.isPrefixOf_iff_prefix.1 h
  simp [cdataOpen, isSome_opening, isOpener]

theorem isCdata_append (h : Document.isCdata a = true) (b : List Char) :
    Document.isCdata (a ++ b) = true :=
  List.isPrefixOf_iff_prefix.2 ((List.isPrefixOf_iff_prefix.1 h).trans (List.prefix_append a b))

theorem not_isCdata_of_mem_pieces (h : .text a ∈ pieces f s) : Document.isCdata a = false := by
  fun_induction pieces f s with
  | case1 => cases h
  | case2 s hs _ ih =>
    rcases List.mem_cons.1 h with h | h
    · refine Bool.eq_false_iff.2 fun hcdata => ?_
      have hsource := source_readPiece f s
      rw [← h] at hsource
      have hopens := opening_of_isCdata (f := f) (isCdata_append hcdata (readPiece f s).2)
      have hs' : (opening? f s).isSome = true := hsource ▸ hopens
      exact readPiece_ne_text hs' a h.symm
    · exact ih h

end Markup

namespace Growth

variable {g : Growth} {f : Flavor} {s a b : List Char} {p : Piece} {ps : List Piece}

def continues (g : Growth) (n : Node) : Bool :=
  n.isText && n.range.stop.offset == g.place.offset && !Document.isCdata n.source.toList

/-- The last node right inside the innermost open element, or the last root. -/
def lastChild? (g : Growth) : Option Nat := (g.document.childrenOf g.parent?).getLast?

def extend (content : List Char) (stop : Position) (n : Node) : Node :=
  { n with range := ⟨n.range.start, stop⟩, source := n.source ++ String.ofList content }

def addText (g : Growth) (content : List Char) : Growth :=
  if content.isEmpty then g
  else
    match g.lastChild?.filter fun i => g.nodes[i]?.any g.continues with
    | none => g.leaf .text content
    | some i =>
      let stop := g.place.advance content
      { g with nodes := g.nodes.modify i (extend content stop), place := stop }

def push (g : Growth) : Piece → Growth
  | .text s => g.addText s
  | p => g.grow p

theorem push_of_not_text (hp : p.isText = false) : g.push p = g.grow p := by
  cases p with
  | text s => cases hp
  | _ => rfl

/-- Whether text goes on in no child of the innermost open element. -/
def Apart (g : Growth) : Prop :=
  ∀ n ∈ g.nodes.toList, n.parent = g.parent? → g.continues n = false

theorem apart_start (f : Flavor) : (start f).Apart := by simp [Apart, start]

theorem continues_head (g : Growth) (n : Node) : g.continues n.head = g.continues n := by
  obtain ⟨kind, range, source, parent⟩ := n
  cases kind <;> rfl

theorem continues_of_lt {n : Node} (h : n.range.stop.offset < g.place.offset) :
    g.continues n = false := by
  have hne : (n.range.stop.offset == g.place.offset) = false :=
    beq_eq_false_iff_ne.2 (Nat.ne_of_lt h)
  rw [continues, hne, Bool.and_false, Bool.false_and]

theorem apart_grow (hs : g.Sound) (ho : g.Ordered) (hp : p.isText = false) :
    (g.grow p).Apart := by
  intro n hn hparent
  have hplace : g.place.offset < (g.grow p).place.offset := by
    rw [place_grow, Position.offset_advance]
    exact Nat.lt_add_of_pos_right (byteLength_pos (source_ne_nil_of_not_text hp))
  have hhead : n.head ∈ (g.grow p).heads := List.mem_map_of_mem hn
  rw [heads_grow] at hhead
  rw [← continues_head]
  rcases List.mem_append.1 hhead with hold | hnew
  · exact continues_of_lt (Nat.lt_of_le_of_lt (ho.passed _ hold) hplace)
  · obtain ⟨m, hm, heq⟩ := List.mem_map.1 hnew
    have hinside : m.parent = (g.grow p).parent? := by
      rw [← m.parent_head, heq, n.parent_head, hparent]
    rw [← heq, continues_head]
    cases p with
    | text s => cases hp
    | cdata s closed =>
      obtain rfl := List.mem_singleton.1 hm
      have hcdata : Document.isCdata (Piece.cdata s closed).source = true :=
        List.isPrefixOf_iff_prefix.2 ⟨_, (List.append_assoc _ _ _).symm⟩
      rw [continues, leafNode, String.toList_ofList, hcdata, Bool.not_true, Bool.and_false]
    | verbatim t content close =>
      rcases List.mem_cons.1 hm with rfl | hm
      · rfl
      · -- the content stands in the element that was just closed
        split at hm
        · cases hm
        · obtain rfl := List.mem_singleton.1 hm
          rw [parent?, opened_grow] at hinside
          obtain ⟨o, ho, hid⟩ := Option.map_eq_some_iff.1 hinside.symm
          exact absurd hid (Nat.ne_of_lt (hs.id_lt (List.mem_of_mem_head? ho)))
    | endTag t => cases hm
    | _ =>
      obtain rfl := List.mem_singleton.1 hm
      rfl

theorem addText_of_apart (h : g.Apart) (ha : a ≠ []) : g.addText a = g.grow (.text a) := by
  have hlast : (g.lastChild?.filter fun i => g.nodes[i]?.any g.continues) = none := by
    refine Option.filter_eq_none_iff.2 fun i hi => ?_
    obtain ⟨hid, hparent⟩ := List.mem_filter.1 (List.mem_of_getLast? hi)
    obtain ⟨n, hn⟩ : ∃ n, g.nodes[i]? = some n :=
      ⟨_, Array.getElem?_eq_getElem (List.mem_range.1 hid)⟩
    rw [Document.parent?, nodes_document, hn, beq_iff_eq] at hparent
    rw [hn, Option.any_some, h n (Array.mem_toList_iff.2 (Array.mem_of_getElem? hn)) hparent]
    exact Bool.false_ne_true
  rw [addText, if_neg (by simpa using ha), hlast]
  rfl

theorem lastChild_leaf (g : Growth) (kind : NodeKind) (s : List Char) :
    (g.leaf kind s).lastChild? = some g.nodes.size := by
  have hids : (g.leaf kind s).document.ids = List.range g.nodes.size ++ [g.nodes.size] := by
    rw [Document.ids, Document.size, nodes_document, nodes_leaf, Array.size_push, List.range_succ]
  have hnew : (g.leaf kind s).document.parent? g.nodes.size = (g.leaf kind s).parent? := by
    rw [Document.parent?, nodes_document, nodes_leaf, Array.getElem?_push_size]
    rfl
  rw [lastChild?, Document.childrenOf, hids, List.filter_append, List.filter_cons_of_pos (by
    rw [hnew, beq_self_eq_true]), List.filter_nil, List.getLast?_concat]

theorem addText_text (ha : Document.isCdata a = false) (hb : b ≠ []) :
    (g.grow (.text a)).addText b = g.grow (.text (a ++ b)) := by
  have hlast : (g.grow (.text a)).lastChild? = some g.nodes.size := lastChild_leaf g _ _
  have hnode : (g.grow (.text a)).nodes[g.nodes.size]? = some (g.leafNode .text a) :=
    Array.getElem?_push_size
  have hon : (g.grow (.text a)).continues (g.leafNode .text a) = true := by
    rw [continues, place_grow, leafNode, String.toList_ofList, ha, Piece.source]
    simp [Node.isText]
  rw [addText, if_neg (by simpa using hb), hlast, Option.filter_some, if_pos (by
    rw [hnode, Option.any_some, hon])]
  have hnodes : (g.grow (.text a)).nodes.modify g.nodes.size
      (extend b ((g.grow (.text a)).place.advance b)) = (g.grow (.text (a ++ b))).nodes := by
    apply Array.toList_inj.1
    rw [Array.toList_modify]
    simp only [grow, nodes_leaf, Array.toList_push, place_leaf]
    rw [modify_toList_append]
    simp [extend, leafNode, Piece.source, String.ofList_append]
  have hplace : (g.grow (.text a)).place.advance b = (g.grow (.text (a ++ b))).place := by
    rw [place_grow, place_grow, ← Position.advance_append]
    rfl
  simp only [hnodes]
  rw [hplace]
  rfl

/-- The rounds grow what the joined pieces grow, also behind a text that goes on. -/
theorem foldl_push (hs : g.Sound) (ho : g.Ordered) (hne : ∀ a, .text a ∈ ps → a ≠ []) :
    (g.Apart → (∀ c, .text c ∈ joined ps → Document.isCdata c = false) →
      ps.foldl push g = (joined ps).foldl grow g) ∧
    ∀ a, (∀ c, .text c ∈ joinPiece (.text a) (joined ps) → Document.isCdata c = false) →
      ps.foldl push (g.grow (.text a)) = (joinPiece (.text a) (joined ps)).foldl grow g := by
  induction ps generalizing g with
  | nil => exact ⟨fun _ _ => rfl, fun _ _ => rfl⟩
  | cons p ps ih =>
    have hrest : ∀ a, .text a ∈ ps → a ≠ [] := fun a ha => hne a (List.mem_cons_of_mem _ ha)
    rw [joined_cons]
    cases hp : p.isText with
    | false =>
      have hmarkup : ∀ {g : Growth}, g.Sound → g.Ordered →
          (∀ c, .text c ∈ joined ps → Document.isCdata c = false) →
          (p :: ps).foldl push g = (p :: joined ps).foldl grow g := by
        intro g hs ho hcdata
        rw [List.foldl_cons, List.foldl_cons, push_of_not_text hp]
        exact (ih (hs.grow p) (ho.grow hs p) hrest).1 (apart_grow hs ho hp) hcdata
      rw [joinPiece_of_not_text hp]
      refine ⟨fun _ hcdata => hmarkup hs ho fun c hc => hcdata c (List.mem_cons_of_mem _ hc),
        fun a hcdata => ?_⟩
      rw [joinPiece_text_markup a hp] at hcdata ⊢
      exact hmarkup (hs.grow _) (ho.grow hs _) fun c hc =>
        hcdata c (List.mem_cons_of_mem _ (List.mem_cons_of_mem _ hc))
    | true =>
      obtain ⟨b, rfl⟩ : ∃ b, p = .text b := by
        cases p with
        | text b => exact ⟨b, rfl⟩
        | _ => cases hp
      refine ⟨fun hapart hcdata => ?_, fun a hcdata => ?_⟩
      · rw [List.foldl_cons, push, addText_of_apart hapart (hne b List.mem_cons_self)]
        exact (ih hs ho hrest).2 b hcdata
      · have ha : Document.isCdata a = false := by
          obtain ⟨d, qs, hd⟩ := exists_joinPiece_text a (joinPiece (.text b) (joined ps))
          refine Bool.eq_false_iff.2 fun hcdata' => ?_
          have hjoined := hcdata (a ++ d) (hd ▸ List.mem_cons_self)
          rw [isCdata_append hcdata' d] at hjoined
          cases hjoined
        rw [joinPiece_text_text] at hcdata ⊢
        rw [List.foldl_cons, push, addText_text ha (hne b List.mem_cons_self)]
        exact (ih hs ho hrest).2 (a ++ b) hcdata

end Growth

namespace Document

def ofRounds (f : Flavor) (hasMark : Bool) (ps : List Piece) : Document :=
  let g := ps.foldl Growth.push (Growth.start f)
  ⟨f, hasMark, g.nodes, g.issues ++ g.unclosed⟩

theorem ofRounds_eq (f : Flavor) (hasMark : Bool) (s : List Char) :
    (rounds f s 0).map (ofRounds f hasMark) = some (ofPieces f hasMark (pieces f s)) := by
  have hscan := scan_stands f (stands_zero s)
  rw [scan_eq_rounds] at hscan
  obtain ⟨ps, hps, hjoined⟩ := Option.map_eq_some_iff.1 hscan
  have hne : ∀ a, .text a ∈ ps → a ≠ [] := fun a ha =>
    ne_nil_of_rounds (stands_zero s).isBoundary hps ha
  have hcdata : ∀ c, .text c ∈ joined ps → isCdata c = false := by
    rw [hjoined]
    exact fun c hc => not_isCdata_of_mem_pieces hc
  have hgrown := (Growth.foldl_push (Growth.sound_start f) (Growth.ordered_start f) hne).1
    (Growth.apart_start f) hcdata
  rw [hps, Option.map_some, ofRounds, hgrown, hjoined]
  rfl

end Document
end MarkupSplice
