import MarkupSplice.Markup.Tree

/-!
# One step of a growing forest

What a piece does to a forest, said once for all parts of it: it moves the
place behind its source (`place_grow`), sets the end tag of at most one node
and adds at most two (`nodes_grow`), and opens an element or closes some
(`opened_grow`). What holds of whole documents follows from these by induction
on the pieces, and never looks into a step again.
-/
namespace MarkupSplice
open Markup

theorem Text.byteLength_pos {s : List Char} (hs : s ≠ []) : 0 < Text.byteLength s := by
  cases s with
  | nil => exact absurd rfl hs
  | cons c s => exact Nat.add_pos_left c.utf8Size_pos _

theorem Text.byteLength_eq_zero {s : List Char} : Text.byteLength s = 0 ↔ s = [] := by
  constructor
  · intro h
    cases s with
    | nil => rfl
    | cons c s => exact absurd h (Nat.ne_of_gt (Text.byteLength_pos (List.cons_ne_nil c s)))
  · rintro rfl
    rfl

@[simp] theorem Position.offset_step (p : Position) (c : Char) :
    (p.step c).offset = p.offset + c.utf8Size := by
  unfold step
  split <;> rfl

@[simp] theorem Position.offset_advance (p : Position) (s : List Char) :
    (p.advance s).offset = p.offset + Text.byteLength s := by
  induction s generalizing p with
  | nil => rfl
  | cons c s ih => rw [advance_cons, ih, offset_step, Text.byteLength_cons, Nat.add_assoc]

theorem Position.offset_advance_origin (s : List Char) :
    (Position.origin.advance s).offset = Text.byteLength s := by
  rw [offset_advance]
  exact Nat.zero_add _

namespace Growth

variable (g : Growth)

def nameOf (name : List Char) : String := g.flavor.normalize (String.ofList name)

def leafNode (kind : NodeKind) (source : List Char) : Node :=
  ⟨kind, ⟨g.place, g.place.advance source⟩, String.ofList source, g.parent?⟩

def elementNode (t : StartTag) (endTag : Option Range) : Node :=
  g.leafNode (.element ⟨g.nameOf t.name,
    attributesOf g.flavor (g.place.advance ('<' :: t.name)) t.attributes, t.closing, endTag⟩)
    t.source

def inside (t : StartTag) : Position := g.place.advance t.source

def contentNode (t : StartTag) (content : List Char) : Node :=
  ⟨.text, ⟨g.inside t, (g.inside t).advance content⟩, String.ofList content, some g.nodes.size⟩

def added : Piece → List Node
  | .text s => [g.leafNode .text s]
  | .comment s closed => [g.leafNode .comment (Piece.comment s closed).source]
  | .cdata s closed => [g.leafNode .text (Piece.cdata s closed).source]
  | .declaration s closed => [g.leafNode .declaration (Piece.declaration s closed).source]
  | .instruction s closed => [g.leafNode .declaration (Piece.instruction s closed).source]
  | .startTag t => [g.elementNode t none]
  | .verbatim t content close =>
    g.elementNode t (close.map fun e =>
      ⟨(g.inside t).advance content, ((g.inside t).advance content).advance e.source⟩) ::
    if content.isEmpty then [] else [g.contentNode t content]
  | .endTag _ => []

/-- The open elements from the one that an end tag closes on. -/
def reopened (t : EndTag) : List OpenElement :=
  g.opened.dropWhile fun o => o.name != g.nameOf t.name

def closes? : Piece → Option OpenElement
  | .endTag t => (g.reopened t).head?
  | _ => none

def closeAt (r : Range) : Option OpenElement → List Node
  | none => g.nodes.toList
  | some o => g.nodes.toList.modify o.id (setEndTag r)

def openedBy : Piece → List OpenElement
  | .startTag t =>
    if t.closing = .bracket ∧ !g.flavor.isVoid (g.nameOf t.name) then
      ⟨g.nodes.size, g.nameOf t.name, g.place⟩ :: g.opened
    else g.opened
  | .endTag t => if (g.reopened t).isEmpty then g.opened else (g.reopened t).tail
  | _ => g.opened

variable {g}

@[simp] theorem flavor_noteUnless (ok : Bool) (fault : Fault) :
    (noteUnless ok g fault).flavor = g.flavor := by
  unfold noteUnless
  split <;> rfl

@[simp] theorem place_noteUnless (ok : Bool) (fault : Fault) :
    (noteUnless ok g fault).place = g.place := by
  unfold noteUnless
  split <;> rfl

@[simp] theorem nodes_noteUnless (ok : Bool) (fault : Fault) :
    (noteUnless ok g fault).nodes = g.nodes := by
  unfold noteUnless
  split <;> rfl

@[simp] theorem opened_noteUnless (ok : Bool) (fault : Fault) :
    (noteUnless ok g fault).opened = g.opened := by
  unfold noteUnless
  split <;> rfl

@[simp] theorem flavor_leaf (kind : NodeKind) (s : List Char) :
    (g.leaf kind s).flavor = g.flavor := rfl

@[simp] theorem place_leaf (kind : NodeKind) (s : List Char) :
    (g.leaf kind s).place = g.place.advance s := rfl

@[simp] theorem nodes_leaf (kind : NodeKind) (s : List Char) :
    (g.leaf kind s).nodes = g.nodes.push (g.leafNode kind s) := rfl

@[simp] theorem opened_leaf (kind : NodeKind) (s : List Char) :
    (g.leaf kind s).opened = g.opened := rfl

@[simp] theorem leafNode_noteUnless (ok : Bool) (fault : Fault) (kind : NodeKind)
    (s : List Char) : (noteUnless ok g fault).leafNode kind s = g.leafNode kind s := by
  simp [leafNode, parent?]

@[simp] theorem flavor_addStartTag (t : StartTag) : (g.addStartTag t).flavor = g.flavor := by
  simp [addStartTag]

@[simp] theorem place_addStartTag (t : StartTag) : (g.addStartTag t).place = g.inside t := by
  simp [addStartTag, inside]

@[simp] theorem opened_addStartTag (t : StartTag) : (g.addStartTag t).opened = g.opened := by
  simp [addStartTag]

@[simp] theorem nodes_addStartTag (t : StartTag) :
    (g.addStartTag t).nodes = g.nodes.push (g.elementNode t none) := by
  simp [addStartTag, elementNode, leafNode, parent?, nameOf]

@[simp] theorem flavor_passEndTag (t : EndTag) : (g.passEndTag t).1.flavor = g.flavor := by
  simp [passEndTag]

@[simp] theorem place_passEndTag (t : EndTag) :
    (g.passEndTag t).1.place = g.place.advance t.source := by
  simp [passEndTag]

@[simp] theorem nodes_passEndTag (t : EndTag) : (g.passEndTag t).1.nodes = g.nodes := by
  simp [passEndTag]

@[simp] theorem opened_passEndTag (t : EndTag) : (g.passEndTag t).1.opened = g.opened := by
  simp [passEndTag]

@[simp] theorem range_passEndTag (t : EndTag) :
    (g.passEndTag t).2 = ⟨g.place, g.place.advance t.source⟩ := by
  simp [passEndTag]

theorem modify_toList_append {α : Type} (xs : Array α) (a : α) (bs : List α) (f : α → α) :
    (xs.toList ++ a :: bs).modify xs.size f = xs.toList ++ f a :: bs := by
  rw [← Array.length_toList]
  induction xs.toList with
  | nil => rfl
  | cons b as ih => simpa using ih

theorem addVerbatim_eq (t : StartTag) (content : List Char) (close : Option EndTag) :
    (g.addVerbatim t content close).flavor = g.flavor ∧
      (g.addVerbatim t content close).place =
        g.place.advance (Piece.verbatim t content close).source ∧
      (g.addVerbatim t content close).opened = g.opened ∧
      (g.addVerbatim t content close).nodes.toList =
        g.nodes.toList ++ g.added (.verbatim t content close) := by
  by_cases hc : content.isEmpty = true
  · obtain rfl := List.isEmpty_iff.1 hc
    cases close with
    | none => simp [addVerbatim, note, added, Piece.source, inside]
    | some e =>
      simp [addVerbatim, closeNode, added, Piece.source, inside, modify_toList_append,
        setEndTag, elementNode, leafNode]
  · cases close with
    | none => simp [addVerbatim, note, added, Piece.source, inside, hc, add, contentNode]
    | some e =>
      simp [addVerbatim, closeNode, added, Piece.source, inside, hc, add,
        modify_toList_append, setEndTag, elementNode, leafNode, contentNode]

theorem addEndTag_eq (t : EndTag) :
    (g.addEndTag t).flavor = g.flavor ∧ (g.addEndTag t).place = g.place.advance t.source ∧
      (g.addEndTag t).opened = g.openedBy (.endTag t) ∧
      (g.addEndTag t).nodes.toList =
        g.closeAt ⟨g.place, g.place.advance t.source⟩ (g.closes? (.endTag t)) := by
  have hre : ((g.passEndTag t).1.opened.dropWhile fun o =>
      o.name != g.flavor.normalize (String.ofList t.name)) = g.reopened t := by
    simp [reopened, nameOf]
  simp only [addEndTag, openedBy, closes?, hre]
  cases g.reopened t with
  | nil => simp [note, closeAt]
  | cons o rest => simp [closeNode, closeAt]

theorem flavor_grow (p : Piece) : (g.grow p).flavor = g.flavor := by
  cases p with
  | startTag t => simp [grow, addElement]
  | verbatim t content close => exact (addVerbatim_eq t content close).1
  | endTag t => exact (addEndTag_eq t).1
  | _ => simp [grow]

theorem place_grow (p : Piece) : (g.grow p).place = g.place.advance p.source := by
  cases p with
  | startTag t => simp [grow, addElement, inside, Piece.source]
  | verbatim t content close => exact (addVerbatim_eq t content close).2.1
  | endTag t => exact (addEndTag_eq t).2.1
  | _ => simp [grow]

theorem opened_grow (p : Piece) : (g.grow p).opened = g.openedBy p := by
  cases p with
  | startTag t => simp [grow, addElement, openedBy, nameOf]
  | verbatim t content close => exact (addVerbatim_eq t content close).2.2.1
  | endTag t => exact (addEndTag_eq t).2.2.1
  | _ => simp [grow, openedBy]

theorem nodes_grow (p : Piece) :
    (g.grow p).nodes.toList =
      g.closeAt ⟨g.place, g.place.advance p.source⟩ (g.closes? p) ++ g.added p := by
  cases p with
  | startTag t => simp [grow, addElement, closeAt, closes?, added]
  | verbatim t content close => exact (addVerbatim_eq t content close).2.2.2
  | endTag t => simpa [grow, added, Piece.source] using (addEndTag_eq t).2.2.2
  | _ => simp [grow, closeAt, closes?, added, Piece.source]

end Growth

def Node.Unclosed (n : Node) : Prop := ∃ e, n.kind = .element e ∧ e.endTag = none

namespace Growth

structure Sound (g : Growth) : Prop where
  unclosed : ∀ o ∈ g.opened, ∃ n ∈ g.nodes.toList[o.id]?, n.Unclosed
  nodup : (g.opened.map OpenElement.id).Nodup

theorem sound_start (f : Flavor) : (start f).Sound := ⟨by simp [start], by simp [start]⟩

theorem Sound.id_lt {g : Growth} (h : g.Sound) {o : OpenElement} (ho : o ∈ g.opened) :
    o.id < g.nodes.size := by
  obtain ⟨n, hn, -⟩ := h.unclosed o ho
  obtain ⟨hlt, -⟩ := List.getElem?_eq_some_iff.1 (Option.mem_def.1 hn)
  simpa using hlt

theorem reopened_sublist (g : Growth) (t : EndTag) : (g.reopened t).Sublist g.opened :=
  List.dropWhile_sublist _

theorem mem_opened_grow {g : Growth} (h : g.Sound) {p : Piece} {o : OpenElement}
    (ho : o ∈ (g.grow p).opened) :
    (o ∈ g.opened ∧ ∀ c ∈ g.closes? p, c.id ≠ o.id) ∨
      ∃ t, p = .startTag t ∧ o.id = g.nodes.size := by
  rw [opened_grow] at ho
  cases p with
  | startTag t =>
    simp only [openedBy] at ho
    split at ho
    · rcases List.mem_cons.1 ho with rfl | ho
      · exact Or.inr ⟨t, rfl, rfl⟩
      · exact Or.inl ⟨ho, by simp [closes?]⟩
    · exact Or.inl ⟨ho, by simp [closes?]⟩
  | endTag t =>
    left
    have hnodup := h.nodup.sublist ((g.reopened_sublist t).map OpenElement.id)
    have hmem := (g.reopened_sublist t).subset
    simp only [openedBy, closes?] at ho ⊢
    cases hr : g.reopened t with
    | nil => simp_all
    | cons c rest =>
      rw [hr] at ho hnodup hmem
      simp only [List.isEmpty_cons, Bool.false_eq_true, if_false, List.tail_cons] at ho
      refine ⟨hmem (List.mem_cons_of_mem _ ho), ?_⟩
      intro c' hc' he
      cases hc'
      rw [List.map_cons, List.nodup_cons, he] at hnodup
      exact hnodup.1 (List.mem_map_of_mem ho)
  | _ => exact Or.inl ⟨ho, by simp [closes?]⟩

theorem getElem_closeAt {g : Growth} {r : Range} {c : Option OpenElement} {i : Nat}
    (h : ∀ o ∈ c, o.id ≠ i) : (g.closeAt r c)[i]? = g.nodes.toList[i]? := by
  cases c with
  | none => rfl
  | some o => exact List.getElem?_modify_ne _ _ (h o rfl)

@[simp] theorem length_closeAt {g : Growth} {r : Range} {c : Option OpenElement} :
    (g.closeAt r c).length = g.nodes.size := by
  cases c <;> simp [closeAt]

theorem Sound.grow {g : Growth} (h : g.Sound) (p : Piece) : (g.grow p).Sound := by
  constructor
  · intro o ho
    rcases mem_opened_grow h ho with ⟨ho, hc⟩ | ⟨t, rfl, hid⟩
    · obtain ⟨n, hn, hu⟩ := h.unclosed o ho
      refine ⟨n, ?_, hu⟩
      rw [nodes_grow, List.getElem?_append_left (by simpa using h.id_lt ho), getElem_closeAt hc]
      exact hn
    · -- only a start tag opens an element, and its node is the last one then
      refine ⟨g.elementNode t none, ?_, _, rfl, rfl⟩
      rw [nodes_grow, List.getElem?_append_right (by simp [hid])]
      simp [hid, added]
  · have hnodup := h.nodup
    rw [opened_grow]
    cases p with
    | startTag t =>
      simp only [openedBy]
      split
      · rw [List.map_cons, List.nodup_cons]
        refine ⟨?_, hnodup⟩
        intro hmem
        obtain ⟨o, ho, hid⟩ := List.mem_map.1 hmem
        exact absurd (h.id_lt ho) (by simp [hid])
      · exact hnodup
    | endTag t =>
      simp only [openedBy]
      split
      · exact hnodup
      · refine hnodup.sublist (List.Sublist.map _ ?_)
        exact (List.tail_sublist _).trans (g.reopened_sublist t)
    | _ => exact hnodup

theorem flavor_foldl (g : Growth) (ps : List Piece) : (ps.foldl grow g).flavor = g.flavor := by
  induction ps generalizing g with
  | nil => rfl
  | cons p ps ih => rw [List.foldl_cons, ih, flavor_grow]

theorem place_foldl (g : Growth) (ps : List Piece) :
    (ps.foldl grow g).place = g.place.advance (ps.flatMap Piece.source) := by
  induction ps generalizing g with
  | nil => rfl
  | cons p ps ih =>
    rw [List.foldl_cons, ih, place_grow, List.flatMap_cons, Position.advance_append]

theorem Sound.foldl {g : Growth} (h : g.Sound) (ps : List Piece) :
    (ps.foldl Growth.grow g).Sound := by
  induction ps generalizing g with
  | nil => exact h
  | cons p ps ih => exact ih (h.grow p)

def ofPieces (f : Flavor) (ps : List Piece) : Growth := ps.foldl grow (start f)

@[simp] theorem flavor_ofPieces (f : Flavor) (ps : List Piece) : (ofPieces f ps).flavor = f :=
  flavor_foldl _ _

@[simp] theorem place_ofPieces (f : Flavor) (ps : List Piece) :
    (ofPieces f ps).place = Position.origin.advance (ps.flatMap Piece.source) :=
  place_foldl _ _

theorem sound_ofPieces (f : Flavor) (ps : List Piece) : (ofPieces f ps).Sound :=
  (sound_start f).foldl ps

end Growth
end MarkupSplice
