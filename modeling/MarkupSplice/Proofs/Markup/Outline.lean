import MarkupSplice.Proofs.Markup.Growth
import MarkupSplice.Proofs.Markup.Resume

/-!
# What documents say

The outline of a node is what it says and where it stands in the forest, but
not where it stands in the text. End tags aside, a forest only ever grows at
its end (`heads_grow`), so an element of a document can be traced to the start
piece that it was read from (`added_of_head`). What a piece does to a forest
depends on the open elements and the number of nodes only (`Alike.added`): when
one start tag is written anew, no outline changes but that of its element
(`agree_withTag`).
-/
namespace MarkupSplice
open Markup Text

def Attribute.entry (a : Attribute) : String × Option String := (a.name, a.value)

def Markup.WrittenAttribute.entry (f : Flavor) (a : WrittenAttribute) : String × Option String :=
  (f.normalize (String.ofList a.name),
    a.assignment.map fun g => String.ofList (unescapeChars g.value.text))

inductive Content
  | element (name : String) (entries : List (String × Option String)) (closing : Closing)
    (ended : Bool)
  | text (source : String)
  | comment (source : String)
  | declaration (source : String)
deriving DecidableEq, Repr

structure Outline where
  parent : Option Nat
  content : Content
deriving DecidableEq, Repr

namespace Outline

def mapEntries (k : List (String × Option String) → List (String × Option String))
    (o : Outline) : Outline :=
  match o.content with
  | .element name entries closing ended => ⟨o.parent, .element name (k entries) closing ended⟩
  | _ => o

def close (o : Outline) : Outline :=
  match o.content with
  | .element name entries closing _ => ⟨o.parent, .element name entries closing true⟩
  | _ => o

theorem mapEntries_close (k : List (String × Option String) → List (String × Option String))
    (o : Outline) : o.close.mapEntries k = (o.mapEntries k).close := by
  obtain ⟨parent, content⟩ := o
  cases content <;> rfl

end Outline

def Node.outline (n : Node) : Outline :=
  ⟨n.parent,
    match n.kind with
    | .element e => .element e.name (e.attributes.map Attribute.entry) e.closing e.endTag.isSome
    | .text => .text n.source
    | .comment => .comment n.source
    | .declaration => .declaration n.source⟩

def Document.outlines (d : Document) : List Outline := d.nodes.toList.map Node.outline

structure Trace where
  parent : Option Nat
  content : Content
  source : String
deriving DecidableEq, Repr

namespace Trace

def outline (t : Trace) : Outline := ⟨t.parent, t.content⟩

def renumber (k : Nat → Nat) (t : Trace) : Trace := { t with parent := t.parent.map k }

theorem renumber_self (t : Trace) : (t.renumber fun i => i) = t := by
  obtain ⟨parent, content, source⟩ := t
  cases parent <;> rfl

end Trace

def Node.trace (n : Node) : Trace := ⟨n.parent, n.outline.content, n.source⟩

def OpenElement.key (o : OpenElement) : Nat × String := (o.id, o.name)

/-- The node as it was when it was added. -/
def Node.head (n : Node) : Node :=
  match n.kind with
  | .element e => { n with kind := .element { e with endTag := none } }
  | _ => n

namespace Growth

variable {g g' : Growth}

theorem head_setEndTag (r : Range) (n : Node) : (setEndTag r n).head = n.head := by
  obtain ⟨kind, range, source, parent⟩ := n
  cases kind <;> rfl

theorem map_modify_of_eq {α β : Type} {k : α → β} {h : α → α} (hk : ∀ a, k (h a) = k a)
    (as : List α) (i : Nat) : (as.modify i h).map k = as.map k := by
  induction as generalizing i with
  | nil => simp
  | cons a as ih =>
    cases i with
    | zero => simp [hk]
    | succ i => simp [ih]

def heads (g : Growth) : List Node := g.nodes.toList.map Node.head

theorem heads_grow (p : Piece) : (g.grow p).heads = g.heads ++ (g.added p).map Node.head := by
  simp only [heads, nodes_grow, List.map_append]
  cases g.closes? p with
  | none => rfl
  | some o => simp only [closeAt, map_modify_of_eq (head_setEndTag _)]

theorem heads_prefix (g : Growth) (ps : List Piece) : g.heads <+: (ps.foldl grow g).heads := by
  induction ps generalizing g with
  | nil => exact List.prefix_refl _
  | cons p ps ih =>
    refine List.IsPrefix.trans ?_ (ih (g.grow p))
    rw [heads_grow]
    exact List.prefix_append _ _

theorem ofPieces_append (f : Flavor) (before after : List Piece) :
    ofPieces f (before ++ after) = after.foldl grow (ofPieces f before) :=
  List.foldl_append

theorem length_heads (g : Growth) : g.heads.length = g.nodes.size := by
  simp [heads]

theorem added_of_head (g : Growth) {ps : List Piece} {i : Nat} {n : Node}
    (hn : n ∈ (ps.foldl grow g).heads[i]?) (hi : g.nodes.size ≤ i) :
    ∃ before p after, ps = before ++ p :: after ∧ (before.foldl grow g).nodes.size ≤ i ∧
      n ∈ (((before.foldl grow g).added p).map Node.head)[
        i - (before.foldl grow g).nodes.size]? := by
  induction ps generalizing g with
  | nil =>
    obtain ⟨hlt, -⟩ := List.getElem?_eq_some_iff.1 (Option.mem_def.1 hn)
    rw [List.foldl_nil, length_heads] at hlt
    omega
  | cons p ps ih =>
    by_cases hnext : (g.grow p).nodes.size ≤ i
    · obtain ⟨before, q, after, rfl, hle, hmem⟩ := ih (g.grow p) hn hnext
      exact ⟨p :: before, q, after, rfl, hle, hmem⟩
    · refine ⟨[], p, ps, rfl, hi, ?_⟩
      obtain ⟨rest, hrest⟩ := heads_prefix (g.grow p) ps
      rw [List.foldl_cons, ← hrest, List.getElem?_append_left (by rw [length_heads]; omega),
        heads_grow, List.getElem?_append_right (by rw [length_heads]; exact hi), length_heads] at hn
      exact hn

def outlines (g : Growth) : List Outline := g.nodes.toList.map Node.outline

def close? (c : Option OpenElement) (os : List Outline) : List Outline :=
  c.elim os fun o => os.modify o.id Outline.close

theorem outline_setEndTag (r : Range) (n : Node) : (setEndTag r n).outline = n.outline.close := by
  obtain ⟨kind, range, source, parent⟩ := n
  cases kind <;> rfl

theorem map_modify {α β : Type} {k : α → β} {h : α → α} {h' : β → β}
    (hk : ∀ a, k (h a) = h' (k a)) (as : List α) (i : Nat) :
    (as.modify i h).map k = (as.map k).modify i h' := by
  induction as generalizing i with
  | nil => simp
  | cons a as ih =>
    cases i with
    | zero => simp [hk]
    | succ i => simp [ih]

theorem outlines_grow (p : Piece) :
    (g.grow p).outlines = close? (g.closes? p) g.outlines ++ (g.added p).map Node.outline := by
  simp only [outlines, nodes_grow, List.map_append]
  cases g.closes? p with
  | none => rfl
  | some o => simp only [closeAt, close?, Option.elim_some, map_modify (outline_setEndTag _)]

@[simp] theorem entries_attributesOf (f : Flavor) (p : Position) (as : List WrittenAttribute) :
    (attributesOf f p as).map Attribute.entry = as.map (WrittenAttribute.entry f) := by
  induction as generalizing p with
  | nil => rfl
  | cons a as ih =>
    rw [attributesOf, List.map_cons, ih]
    rfl

structure Alike (k : Nat → Nat) (g g' : Growth) : Prop where
  flavor : g'.flavor = g.flavor
  size : g'.nodes.size = k g.nodes.size
  opened : g'.opened.map OpenElement.key = g.opened.map fun o => (k o.id, o.name)

namespace Alike

variable {k : Nat → Nat}

theorem nameOf (h : Alike k g g') (name : List Char) : g'.nameOf name = g.nameOf name := by
  rw [Growth.nameOf, h.flavor, Growth.nameOf]

theorem parent (h : Alike k g g') : g'.parent? = g.parent?.map k := by
  have hhead := congrArg (fun os => os.head?.map Prod.fst) h.opened
  simpa [parent?, OpenElement.key, Function.comp_def] using hhead

theorem reopened (h : Alike k g g') (t : EndTag) :
    (g'.reopened t).map OpenElement.key = (g.reopened t).map fun o => (k o.id, o.name) := by
  have hdrop := congrArg (List.dropWhile fun x : Nat × String => x.2 != g.nameOf t.name) h.opened
  rw [List.dropWhile_map, List.dropWhile_map] at hdrop
  simpa [Growth.reopened, h.nameOf, OpenElement.key, Function.comp_def] using hdrop

theorem closes (h : Alike k g g') (p : Piece) :
    (g'.closes? p).map OpenElement.key = (g.closes? p).map fun o => (k o.id, o.name) := by
  cases p with
  | endTag t => simpa [closes?] using congrArg List.head? (h.reopened t)
  | _ => rfl

theorem openedBy (h : Alike k g g') (p : Piece) :
    (g'.openedBy p).map OpenElement.key = (g.openedBy p).map fun o => (k o.id, o.name) := by
  cases p with
  | startTag t =>
    simp only [Growth.openedBy, h.nameOf, h.flavor, h.size]
    split
    · rw [List.map_cons, List.map_cons, h.opened]
      rfl
    · exact h.opened
  | endTag t =>
    have hre := h.reopened t
    have hempty : (g'.reopened t).isEmpty = (g.reopened t).isEmpty := by
      simpa using congrArg List.isEmpty hre
    simp only [Growth.openedBy, hempty]
    split
    · exact h.opened
    · simpa using congrArg List.tail hre
  | _ => exact h.opened

theorem added (h : Alike k g g') (p : Piece) :
    (g'.added p).map Node.trace = ((g.added p).map Node.trace).map (Trace.renumber k) := by
  have hleaf : ∀ kind s, (g'.leafNode kind s).trace.content = (g.leafNode kind s).trace.content →
      (g'.leafNode kind s).trace = (g.leafNode kind s).trace.renumber k := by
    intro kind s hcontent
    simp only [Node.trace, leafNode, Trace.renumber, h.parent] at hcontent ⊢
    rw [hcontent]
  have helement : ∀ t r r', (r' : Option Range).isSome = (r : Option Range).isSome →
      (g'.elementNode t r').trace = (g.elementNode t r).trace.renumber k := by
    intro t r r' hr
    simp [Node.trace, Node.outline, Trace.renumber, elementNode, leafNode, h.parent, h.nameOf,
      h.flavor, hr]
  cases p with
  | startTag t => simp [Growth.added, helement]
  | verbatim t content close =>
    have hcontent : (g'.contentNode t content).trace =
        (g.contentNode t content).trace.renumber k := by
      simp [Node.trace, Node.outline, Trace.renumber, contentNode, h.size]
    simp only [Growth.added, List.map_cons]
    congr 1
    · exact helement t _ _ (by cases close <;> rfl)
    · split <;> simp [hcontent]
  | endTag t => rfl
  | _ => simp only [Growth.added, List.map_cons, List.map_nil, hleaf _ _ rfl]

end Alike

structure Agree (id : Nat) (k : List (String × Option String) → List (String × Option String))
    (g g' : Growth) : Prop where
  flavor : g'.flavor = g.flavor
  opened : g'.opened.map OpenElement.key = g.opened.map OpenElement.key
  outlines : g'.outlines = g.outlines.modify id (Outline.mapEntries k)

theorem modify_append {α : Type} {as : List α} {i : Nat} (hi : i < as.length) (h : α → α)
    (bs : List α) : (as ++ bs).modify i h = as.modify i h ++ bs := by
  induction as generalizing i with
  | nil => cases hi
  | cons a as ih =>
    cases i with
    | zero => rfl
    | succ i => simpa using ih (by simpa using hi)

theorem modify_close? (id : Nat)
    (k : List (String × Option String) → List (String × Option String))
    (c : Option OpenElement) (os : List Outline) :
    close? c (os.modify id (Outline.mapEntries k)) =
      (close? c os).modify id (Outline.mapEntries k) := by
  cases c with
  | none => rfl
  | some o =>
    simp only [close?, Option.elim_some]
    by_cases ho : o.id = id
    · subst ho
      simp only [List.modify_modify_eq]
      congr 1
      funext x
      exact (Outline.mapEntries_close k x).symm
    · exact (List.modify_modify_ne _ _ _ ho).symm

theorem close?_congr {c c' : Option OpenElement}
    (h : c'.map OpenElement.key = c.map OpenElement.key) (os : List Outline) :
    close? c' os = close? c os := by
  cases c with
  | none =>
    obtain rfl : c' = none := by simpa using h
    rfl
  | some o =>
    obtain ⟨o', rfl, hkey⟩ := Option.map_eq_some_iff.1 h
    have hid : o'.id = o.id := congrArg Prod.fst hkey
    simp only [close?, Option.elim_some, hid]

namespace Agree

variable {id : Nat} {k : List (String × Option String) → List (String × Option String)}

theorem size (h : Agree id k g g') : g'.nodes.size = g.nodes.size := by
  have hlen := congrArg List.length h.outlines
  simpa [Growth.outlines] using hlen

theorem alike (h : Agree id k g g') : Alike (fun i => i) g g' := ⟨h.flavor, h.size, h.opened⟩

theorem added (h : Agree id k g g') (p : Piece) :
    (g'.added p).map Node.outline = (g.added p).map Node.outline := by
  have houtlines := congrArg (List.map Trace.outline) (h.alike.added p)
  simp only [List.map_map, Function.comp_def, Trace.renumber_self] at houtlines
  exact houtlines

theorem grow (h : Agree id k g g') (hid : id < g.nodes.size) (p : Piece) :
    Agree id k (g.grow p) (g'.grow p) := by
  constructor
  · rw [flavor_grow, flavor_grow, h.flavor]
  · rw [opened_grow, opened_grow]
    exact h.alike.openedBy p
  · -- the element is there already, so it is not among the nodes that the piece adds
    have hlen : id < (close? (g.closes? p) g.outlines).length := by
      cases g.closes? p <;> simpa [close?, Growth.outlines] using hid
    rw [outlines_grow, outlines_grow, h.added, close?_congr (h.alike.closes p), h.outlines,
      modify_close?, modify_append hlen]

theorem foldl (h : Agree id k g g') (hid : id < g.nodes.size) (ps : List Piece) :
    Agree id k (ps.foldl Growth.grow g) (ps.foldl Growth.grow g') := by
  induction ps generalizing g g' with
  | nil => exact h
  | cons p ps ih =>
    apply ih (h.grow hid p)
    have hlen := congrArg List.length (nodes_grow (g := g) p)
    simp only [Array.length_toList, List.length_append, length_closeAt] at hlen
    omega

end Agree

theorem agree_withTag {p : Piece} {t t' : StartTag}
    {k : List (String × Option String) → List (String × Option String)}
    (ht : p.startTag? = some t) (hn : t'.name = t.name) (hc : t'.closing = t.closing)
    (hk : t'.attributes.map (WrittenAttribute.entry g.flavor) =
      k (t.attributes.map (WrittenAttribute.entry g.flavor))) :
    Agree g.nodes.size k (g.grow p) (g.grow (p.withTag t')) := by
  have hmodify : ∀ (o : Outline) (os : List Outline),
      (g.outlines ++ o :: os).modify g.nodes.size (Outline.mapEntries k) =
        g.outlines ++ o.mapEntries k :: os := by
    intro o os
    simpa [outlines] using modify_toList_append ⟨g.outlines⟩ o os (Outline.mapEntries k)
  have helement : ∀ r r', (r' : Option Range).isSome = (r : Option Range).isSome →
      (g.elementNode t' r').outline = (g.elementNode t r).outline.mapEntries k := by
    intro r r' hr
    simp [Node.outline, elementNode, leafNode, Outline.mapEntries, hn, hc, hk, hr]
  refine ⟨by rw [flavor_grow, flavor_grow], ?_, ?_⟩
  · rw [opened_grow, opened_grow]
    cases p with
    | startTag t₁ =>
      obtain rfl : t₁ = t := Option.some.inj ht
      simp [Piece.withTag, openedBy, hn, hc]
    | verbatim t₁ content close => rfl
    | _ => cases ht
  · rw [outlines_grow, outlines_grow]
    cases p with
    | startTag t₁ =>
      obtain rfl : t₁ = t := Option.some.inj ht
      simp [Piece.withTag, closes?, close?, added, hmodify, helement none none rfl]
    | verbatim t₁ content close =>
      obtain rfl : t₁ = t := Option.some.inj ht
      have hcontent : (g.contentNode t' content).outline = (g.contentNode t₁ content).outline := rfl
      simp only [Piece.withTag, closes?, close?, added, Option.elim_none, List.map_cons, hmodify]
      congr 2
      · exact helement _ _ (by cases close <;> rfl)
      · split <;> simp [hcontent]
    | _ => cases ht

end Growth
end MarkupSplice
