import MarkupSplice.Proofs.Markup.Outline

/-!
# Where start tags stand

A site is a start tag in a text, with the pieces in front of it, those behind
it and the text that the reader went on with. Every element of a document has
one (`exists_site`). What is read when another start tag of the same name is
written there follows for the element (`head_rewrite`) and, when only the
attributes differ, for the whole document (`outlines_rewrite`).
-/
namespace MarkupSplice
open Markup Text

structure Site (f : Flavor) (s : List Char) where
  before : List Piece
  piece : Piece
  after : List Piece
  tag : StartTag
  rest : List Char
  pieces : pieces f s = before ++ piece :: after
  startTag : piece.startTag? = some tag
  source : s = before.flatMap Piece.source ++ (tag.source ++ rest)
  sound : tag.Sound rest
  content : readContent f tag rest = (piece, after.flatMap Piece.source)

namespace Site

variable {f : Flavor} {s : List Char} (x : Site f s)

def front : List Char := x.before.flatMap Piece.source

def growth : Growth := Growth.ofPieces f x.before

def id : Nat := x.growth.nodes.size

def head : Node := x.growth.elementNode x.tag none

/-- The text with another start tag at the site, and `u` behind it. -/
def rewrite (t : StartTag) (u : List Char) : List Char := x.front ++ (t.source ++ u)

theorem rewrite_tag : x.rewrite x.tag x.rest = s := x.source.symm

@[simp] theorem flavor_growth : x.growth.flavor = f := Growth.flavor_ofPieces f x.before

@[simp] theorem place_growth : x.growth.place = Position.origin.advance x.front :=
  Growth.place_ofPieces f x.before

theorem exists_of_piece {before after : List Piece} {p : Piece} {t : StartTag}
    (h : Markup.pieces f s = before ++ p :: after) (ht : p.startTag? = some t) :
    ∃ x : Site f s, x.before = before ∧ x.tag = t := by
  obtain ⟨u, hs, hsound, -, hcontent⟩ := startTag_among h ht
  exact ⟨⟨before, p, after, t, u, h, ht, hs, hsound, hcontent⟩, rfl, rfl⟩

end Site

namespace Growth

theorem startTag_of_added {g : Growth} {p : Piece} {n : Node} {j : Nat}
    (hn : n ∈ ((g.added p).map Node.head)[j]?) (he : n.isElement = true) :
    j = 0 ∧ ∃ t, p.startTag? = some t ∧ n = g.elementNode t none := by
  cases p with
  | startTag t =>
    cases j with
    | zero => exact ⟨rfl, t, rfl, (Option.some.inj hn).symm⟩
    | succ j => simp [added] at hn
  | verbatim t content close =>
    cases j with
    | zero => exact ⟨rfl, t, rfl, (Option.some.inj hn).symm⟩
    | succ j =>
      have htext : ∀ m ∈ ((if content.isEmpty then [] else [g.contentNode t content]).map
          Node.head), m.isElement = false := by
        intro m hm
        split at hm
        · cases hm
        · obtain rfl := List.mem_singleton.1 hm
          rfl
      have hmem : n ∈ (if content.isEmpty then [] else [g.contentNode t content]).map Node.head :=
        List.mem_of_getElem? hn
      rw [htext n hmem] at he
      cases he
  | endTag t => simp [added] at hn
  | _ =>
    obtain ⟨m, hm, rfl⟩ := List.mem_map.1 (List.mem_of_getElem? hn)
    obtain rfl := List.mem_singleton.1 hm
    cases he

end Growth

theorem Node.isElement_head (n : Node) : n.head.isElement = n.isElement := by
  obtain ⟨kind, range, source, parent⟩ := n
  cases kind <;> rfl

theorem exists_site {f : Flavor} {s : List Char} {i : Nat} {n : Node}
    (hn : n ∈ (Growth.ofPieces f (pieces f s)).nodes.toList[i]?) (he : n.isElement = true) :
    ∃ x : Site f s, x.id = i ∧ n.head = x.head := by
  have hhead : n.head ∈ (Growth.ofPieces f (pieces f s)).heads[i]? := by
    rw [Growth.heads, List.getElem?_map, Option.mem_def.1 hn]
    rfl
  obtain ⟨before, p, after, hpieces, hle, hmem⟩ :=
    Growth.added_of_head (Growth.start f) hhead (Nat.zero_le i)
  obtain ⟨hj, t, ht, hnode⟩ := Growth.startTag_of_added hmem (by rwa [Node.isElement_head])
  obtain ⟨x, rfl, rfl⟩ := Site.exists_of_piece hpieces ht
  exact ⟨x, Nat.le_antisymm hle (Nat.le_of_sub_eq_zero hj), hnode⟩

namespace Site

variable {f : Flavor} {s : List Char} (x : Site f s) {t : StartTag}

theorem pieces_rewrite {u : List Char} (hn : t.name = x.tag.name) (hs : t.Sound u) :
    Markup.pieces f (x.rewrite t u) =
      x.before ++ (readContent f t u).1 :: Markup.pieces f (readContent f t u).2 :=
  pieces_startTag x.pieces x.startTag hn hs

def rewritten {s' u : List Char} (t : StartTag) (hn : t.name = x.tag.name) (hs : t.Sound u)
    (htext : s' = x.rewrite t u) : Site f s' where
  before := x.before
  piece := (readContent f t u).1
  after := Markup.pieces f (readContent f t u).2
  tag := t
  rest := u
  pieces := htext ▸ x.pieces_rewrite hn hs
  startTag := startTag_readContent f t u
  source := htext
  sound := hs
  content := by rw [source_pieces]

/-- The nodes up to the site stay, and behind them comes the element of the tag written there. -/
theorem heads_rewrite {u : List Char} (hn : t.name = x.tag.name) (hs : t.Sound u) :
    ∃ more, (Growth.ofPieces f (Markup.pieces f (x.rewrite t u))).heads =
      x.growth.heads ++ x.growth.elementNode t none :: more := by
  have htag := startTag_readContent f t u
  rw [x.pieces_rewrite hn hs, Growth.ofPieces_append, List.foldl_cons]
  generalize (readContent f t u).1 = p at htag
  obtain ⟨rest, hrest⟩ := Growth.heads_prefix (x.growth.grow p)
    (Markup.pieces f (readContent f t u).2)
  have hadded : ∃ more, (x.growth.added p).map Node.head =
      x.growth.elementNode t none :: more := by
    cases p with
    | startTag t' =>
      cases htag
      exact ⟨_, rfl⟩
    | verbatim t' content close =>
      cases htag
      exact ⟨_, rfl⟩
    | _ => cases htag
  obtain ⟨more, hmore⟩ := hadded
  rw [Growth.heads_grow, hmore, List.append_assoc] at hrest
  exact ⟨more ++ rest, hrest.symm⟩

theorem head_rewrite {u : List Char} (hn : t.name = x.tag.name) (hs : t.Sound u) :
    ∃ n ∈ (Growth.ofPieces f (Markup.pieces f (x.rewrite t u))).nodes.toList[x.id]?,
      n.head = x.growth.elementNode t none := by
  obtain ⟨more, hheads⟩ := x.heads_rewrite hn hs
  have hget := congrArg (fun ns => ns[x.id]?) hheads
  simp only [id, ← Growth.length_heads, List.getElem?_append_right, Nat.le_refl, Nat.sub_self,
    List.getElem?_cons_zero] at hget
  rw [Growth.heads, List.getElem?_map] at hget
  obtain ⟨n, hmem, hhead⟩ := Option.map_eq_some_iff.1 hget
  refine ⟨n, ?_, hhead⟩
  rw [id, ← Growth.length_heads]
  exact hmem

theorem outlines_rewrite {k : List (String × Option String) → List (String × Option String)}
    (hn : t.name = x.tag.name) (hc : t.closing = x.tag.closing) (hs : t.Sound x.rest)
    (hk : t.attributes.map (WrittenAttribute.entry f) =
      k (x.tag.attributes.map (WrittenAttribute.entry f))) :
    (Growth.ofPieces f (Markup.pieces f (x.rewrite t x.rest))).outlines =
      (Growth.ofPieces f (Markup.pieces f s)).outlines.modify x.id (Outline.mapEntries k) := by
  have hpieces : Markup.pieces f (x.rewrite t x.rest) = x.before ++ x.piece.withTag t :: x.after :=
    pieces_withTag x.pieces x.content hn hc hs
  have hgrowth : x.growth.flavor = f := x.flavor_growth
  have hagree := Growth.agree_withTag (g := x.growth) (k := k) x.startTag hn hc
    (by rw [hgrowth]; exact hk)
  have hsize : x.growth.nodes.size < (x.growth.grow x.piece).nodes.size := by
    have hlen := congrArg List.length (Growth.heads_grow (g := x.growth) x.piece)
    have htag := x.startTag
    rw [List.length_append, Growth.length_heads, Growth.length_heads] at hlen
    generalize x.piece = p at hlen htag ⊢
    cases p with
    | startTag t =>
      simp only [Growth.added, List.map_cons, List.length_cons] at hlen
      omega
    | verbatim t content close =>
      simp only [Growth.added, List.map_cons, List.length_cons] at hlen
      omega
    | _ => cases htag
  have hall := hagree.foldl hsize x.after
  rw [hpieces, x.pieces, Growth.ofPieces_append, Growth.ofPieces_append]
  exact hall.outlines

end Site
end MarkupSplice
