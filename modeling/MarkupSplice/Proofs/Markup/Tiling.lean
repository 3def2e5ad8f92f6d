import Mathlib.Data.List.Pairwise
import Mathlib.Data.List.Perm.Basic
import Mathlib.Data.List.TakeWhile
import MarkupSplice.Proofs.Markup.Growth

/-!
# Documents tile their texts

The ranges of all nodes, those of all end tags and those of the end tags that
close nothing lie one behind another without a gap, from the beginning of the
text to its end (`tiles_parse`). Each piece of the text adds ranges that tile
its own source, whatever it does to the forest (`regions_grow`).
-/
namespace MarkupSplice
open Markup Text
open scoped List

/-- Ranges that lie one behind another from `start` to `stop`, none of them empty. -/
def Tiles (start stop : Position) : List Range → Prop
  | [] => start = stop
  | r :: rs => r.start = start ∧ start.offset < r.stop.offset ∧ Tiles r.stop stop rs

def Range.Disjoint (a b : Range) : Prop :=
  a.stop.offset ≤ b.start.offset ∨ b.stop.offset ≤ a.start.offset

def Range.startsNoLater (a b : Range) : Bool := a.start.offset ≤ b.start.offset

def Node.regions (n : Node) : List Range :=
  n.range :: (n.element?.bind Element.endTag).toList

def Document.regions (d : Document) : List Range := d.nodes.toList.flatMap Node.regions

def Issue.isStray (i : Issue) : Bool :=
  match i.fault with
  | .unexpectedEndTag _ => true
  | _ => false

section Tiles

variable {i j k : Position} {rs rs' : List Range}

theorem tiles_append {as bs : List Range} (ha : Tiles i j as) (hb : Tiles j k bs) :
    Tiles i k (as ++ bs) := by
  induction as generalizing i with
  | nil =>
    obtain rfl := ha
    exact hb
  | cons r as ih => exact ⟨ha.1, ha.2.1, ih ha.2.2⟩

theorem start_le_of_tiles (h : Tiles i k rs) : ∀ r ∈ rs, i.offset ≤ r.start.offset := by
  induction rs generalizing i with
  | nil => simp
  | cons r rs ih =>
    obtain ⟨h1, h2, h3⟩ := h
    intro r' hr'
    rcases List.mem_cons.1 hr' with rfl | hr'
    · exact Nat.le_of_eq (congrArg Position.offset h1).symm
    · exact Nat.le_trans (Nat.le_of_lt h2) (ih h3 r' hr')

theorem lt_of_mem_tiles (h : Tiles i k rs) : ∀ r ∈ rs, r.start.offset < r.stop.offset := by
  induction rs generalizing i with
  | nil => simp
  | cons r rs ih =>
    obtain ⟨rfl, hlt, hrest⟩ := h
    intro r' hr'
    rcases List.mem_cons.1 hr' with rfl | hr'
    · exact hlt
    · exact ih hrest r' hr'

theorem pairwise_of_tiles (h : Tiles i k rs) :
    rs.Pairwise fun a b => a.start.offset < b.start.offset ∧ a.stop.offset ≤ b.start.offset := by
  induction rs generalizing i with
  | nil => exact List.Pairwise.nil
  | cons r rs ih =>
    obtain ⟨h1, h2, h3⟩ := h
    refine List.Pairwise.cons ?_ (ih h3)
    intro r' hr'
    have hle := start_le_of_tiles h3 r' hr'
    rw [h1]
    exact ⟨Nat.lt_of_lt_of_le h2 hle, hle⟩

theorem covers_of_tiles (h : Tiles i k rs) {n : Nat} (h1 : i.offset ≤ n) (h2 : n < k.offset) :
    ∃ r ∈ rs, r.start.offset ≤ n ∧ n < r.stop.offset := by
  induction rs generalizing i with
  | nil =>
    obtain rfl := h
    omega
  | cons r rs ih =>
    obtain ⟨rfl, -, hrest⟩ := h
    by_cases hn : n < r.stop.offset
    · exact ⟨r, List.mem_cons_self, h1, hn⟩
    · obtain ⟨r', hr', hin⟩ := ih hrest (by omega)
      exact ⟨r', List.mem_cons_of_mem _ hr', hin⟩

theorem disjoint_of_tiles (h : Tiles i k rs) (hp : rs' ~ rs) :
    rs'.Pairwise Range.Disjoint := by
  refine (hp.pairwise_iff ?_).2 ((pairwise_of_tiles h).imp fun hab => Or.inl hab.2)
  intro a b hab
  exact hab.symm

theorem mergeSort_of_tiles (h : Tiles i k rs) (hp : rs' ~ rs) :
    rs'.mergeSort Range.startsNoLater = rs := by
  have hsorted : (rs'.mergeSort Range.startsNoLater).Pairwise
      fun a b => a.startsNoLater b = true := by
    refine List.pairwise_mergeSort ?_ ?_ rs'
    · intro a b c hab hbc
      simp only [Range.startsNoLater, decide_eq_true_eq] at *
      exact Nat.le_trans hab hbc
    · intro a b
      simp only [Range.startsNoLater, Bool.or_eq_true, decide_eq_true_eq]
      exact Nat.le_total _ _
  have hstrict := pairwise_of_tiles h
  have hmem : ∀ a ∈ rs'.mergeSort Range.startsNoLater, a ∈ rs :=
    fun a ha => hp.subset ((List.mergeSort_perm rs' _).subset ha)
  have : Std.Symm fun a b : Range => a.start.offset ≠ b.start.offset := ⟨fun _ _ hne => hne.symm⟩
  have hinj := (hstrict.imp (S := fun a b => a.start.offset ≠ b.start.offset)
    fun hab => Nat.ne_of_lt hab.1).forall
  refine List.Perm.eq_of_pairwise ?_ hsorted ?_ ((List.mergeSort_perm rs' _).trans hp)
  · intro a b ha hb hab hba
    simp only [Range.startsNoLater, decide_eq_true_eq] at hab hba
    by_contra hne
    exact hinj (hmem a ha) hb hne (Nat.le_antisymm hab hba)
  · refine hstrict.imp fun hab => ?_
    simp only [Range.startsNoLater, decide_eq_true_eq]
    exact Nat.le_of_lt hab.1

end Tiles

def Markup.Piece.regions (p : Position) : Piece → List Range
  | .verbatim t content close =>
    let inside := p.advance t.source
    let behind := inside.advance content
    ⟨p, inside⟩ :: (if content.isEmpty then [] else [⟨inside, behind⟩]) ++
      close.elim [] fun e => [⟨behind, behind.advance e.source⟩]
  | piece => [⟨p, p.advance piece.source⟩]

theorem tiles_advance {p : Position} {s : List Char} (hs : s ≠ []) :
    Tiles p (p.advance s) [⟨p, p.advance s⟩] := by
  have hpos := byteLength_pos hs
  refine ⟨rfl, ?_, rfl⟩
  rw [Position.offset_advance]
  omega

theorem tiles_regions {p : Position} {piece : Piece} (h : piece.source ≠ []) :
    Tiles p (p.advance piece.source) (piece.regions p) := by
  cases piece with
  | verbatim t content close =>
    have htag : t.source ≠ [] := by simp [StartTag.source]
    have hcontent : Tiles (p.advance t.source) ((p.advance t.source).advance content)
        (if content.isEmpty then [] else
          [⟨p.advance t.source, (p.advance t.source).advance content⟩]) := by
      cases content with
      | nil => rfl
      | cons c content => exact tiles_advance (by simp)
    have hclose : Tiles ((p.advance t.source).advance content)
        (((p.advance t.source).advance content).advance (close.elim [] EndTag.source))
        (close.elim [] fun e => [⟨(p.advance t.source).advance content,
          ((p.advance t.source).advance content).advance e.source⟩]) := by
      cases close with
      | none => rfl
      | some e => exact tiles_advance (by simp [EndTag.source])
    simpa [Piece.regions, Piece.source] using
      tiles_append (tiles_advance htag) (tiles_append hcontent hclose)
  | _ => exact tiles_advance h

namespace Growth

variable {g : Growth}

def regions (g : Growth) : List Range := g.nodes.toList.flatMap Node.regions

def stray? (g : Growth) : Piece → Option EndTag
  | .endTag t => if (g.reopened t).isEmpty then some t else none
  | _ => none

/-- The end tags among the pieces that close nothing, and where they stand. -/
def strays (g : Growth) : List Piece → List (Position × EndTag)
  | [] => []
  | p :: ps => ((g.stray? p).map fun t => (g.place, t)).toList ++ (g.grow p).strays ps

def strayRange (x : Position × EndTag) : Range := ⟨x.1, x.1.advance x.2.source⟩

def strayIssue (f : Flavor) (x : Position × EndTag) : Issue :=
  ⟨x.1, .unexpectedEndTag (f.normalize (String.ofList x.2.name))⟩

theorem regions_setEndTag {n : Node} {r : Range} (h : n.Unclosed) :
    (setEndTag r n).regions = n.regions ++ [r] := by
  obtain ⟨e, hk, he⟩ := h
  simp [Node.regions, Node.element?, setEndTag, hk, he]

theorem regions_modify {ns : List Node} {i : Nat} {n : Node} {r : Range} (hn : n ∈ ns[i]?)
    (hu : n.Unclosed) :
    (ns.modify i (setEndTag r)).flatMap Node.regions ~ ns.flatMap Node.regions ++ [r] := by
  induction ns generalizing i with
  | nil => cases hn
  | cons m ns ih =>
    cases i with
    | zero =>
      obtain rfl : m = n := by simpa using hn
      simp only [List.modify_zero_cons, List.flatMap_cons, regions_setEndTag hu, List.append_assoc]
      exact List.perm_append_comm.append_left _
    | succ i =>
      simp only [List.modify_succ_cons, List.flatMap_cons, List.append_assoc]
      exact (ih (by simpa using hn)).append_left _

/-- A piece adds the ranges of its parts: to its own nodes, to what it closes, or to nothing. -/
theorem regions_grow (h : g.Sound) (p : Piece) :
    (g.grow p).regions ++ ((g.stray? p).map fun t => strayRange (g.place, t)).toList ~
      g.regions ++ p.regions g.place := by
  simp only [regions, nodes_grow, List.flatMap_append]
  cases p with
  | endTag t =>
    have hclosed := h.unclosed
    have hmem := (g.reopened_sublist t).subset
    simp only [stray?, closes?, added, Piece.regions, Piece.source]
    cases hr : g.reopened t with
    | nil => simp [closeAt, strayRange]
    | cons o rest =>
      obtain ⟨n, hn, hu⟩ := hclosed o (hmem (by simp [hr]))
      simpa [closeAt] using regions_modify hn hu
  | verbatim t content close =>
    have hregions : (g.added (.verbatim t content close)).flatMap Node.regions =
        ⟨g.place, g.inside t⟩ :: (close.elim [] fun e => [⟨(g.inside t).advance content,
          ((g.inside t).advance content).advance e.source⟩]) ++
        (if content.isEmpty then [] else [⟨g.inside t, (g.inside t).advance content⟩]) := by
      cases close <;> by_cases hc : content.isEmpty = true <;>
        simp [added, hc, Node.regions, Node.element?, elementNode, leafNode, contentNode, inside]
    -- the end tag belongs to the element, so its range is listed in front of the content
    simp only [closeAt, closes?, stray?, hregions, Option.map_none, Option.toList_none,
      List.append_nil]
    refine List.Perm.append_left _ (List.Perm.cons _ ?_)
    exact List.perm_append_comm
  | _ =>
    simp [closeAt, closes?, stray?, added, Piece.regions, Node.regions, Node.element?, elementNode,
      leafNode, Piece.source]

@[simp] theorem issues_leaf (kind : NodeKind) (s : List Char) :
    (g.leaf kind s).issues = g.issues := rfl

@[simp] theorem issues_add (kind : NodeKind) (s : List Char) (parent : Option Nat) :
    (g.add kind s parent).issues = g.issues := rfl

@[simp] theorem issues_closeNode (id : Nat) (r : Range) :
    (g.closeNode id r).issues = g.issues := rfl

theorem strays_attributeIssues (f : Flavor) (p : Position) (seen : List String)
    (as : List WrittenAttribute) : (attributeIssues f p seen as).filter Issue.isStray = [] := by
  induction as generalizing p seen with
  | nil => rfl
  | cons a as ih =>
    simp only [attributeIssues, List.filter_append, ih, List.append_nil]
    have hrepeated : ∀ i ∈ (if seen.contains (f.normalize (String.ofList a.name)) then
        [Issue.mk (p.advance a.gap) (.duplicateAttribute (f.normalize (String.ofList a.name)))]
        else []), i.isStray = false := by
      intro i hi
      split at hi
      · obtain rfl := List.mem_singleton.1 hi
        rfl
      · cases hi
    rw [List.append_eq_nil_iff]
    constructor
    · split <;> rfl
    · exact List.filter_eq_nil_iff.2 fun i hi => by simp [hrepeated i hi]

theorem strays_noteUnless (ok : Bool) {fault : Fault}
    (hf : (Issue.mk g.place fault).isStray = false) :
    (noteUnless ok g fault).issues.filter Issue.isStray = g.issues.filter Issue.isStray := by
  unfold noteUnless
  split
  · rfl
  · simp [note, hf]

theorem strays_addStartTag (t : StartTag) :
    (g.addStartTag t).issues.filter Issue.isStray = g.issues.filter Issue.isStray := by
  simp only [addStartTag, issues_leaf]
  rw [strays_noteUnless _ rfl]
  simp [strays_attributeIssues]

theorem strays_passEndTag (t : EndTag) :
    (g.passEndTag t).1.issues.filter Issue.isStray = g.issues.filter Issue.isStray :=
  strays_noteUnless _ rfl

theorem issues_grow (p : Piece) :
    (g.grow p).issues.filter Issue.isStray = g.issues.filter Issue.isStray ++
      ((g.stray? p).map fun t => strayIssue g.flavor (g.place, t)).toList := by
  cases p with
  | startTag t => simpa [grow, addElement, stray?] using strays_addStartTag t
  | verbatim t content close =>
    have htag := strays_addStartTag (g := g) t
    cases close with
    | none =>
      simp only [grow, addVerbatim, stray?]
      split <;> simpa [note, Issue.isStray] using htag
    | some e =>
      simp only [grow, addVerbatim, stray?, issues_closeNode, strays_passEndTag]
      split <;> simpa using htag
  | endTag t =>
    have hpass := strays_passEndTag (g := g) t
    have hre : ((g.passEndTag t).1.opened.dropWhile fun o =>
        o.name != g.flavor.normalize (String.ofList t.name)) = g.reopened t := by
      simp [reopened, nameOf]
    simp only [grow, addEndTag, stray?, hre]
    cases g.reopened t with
    | nil => simp [note, hpass, Issue.isStray, strayIssue]
    | cons o rest =>
      have himplied : ∀ i : OpenElement, (Issue.mk g.place (.closedImplicitly i.name
        (g.flavor.normalize (String.ofList t.name)))).isStray = false := fun _ => rfl
      simp only [issues_closeNode, List.filter_append, hpass]
      split <;> simp [List.filter_map, Function.comp_def, himplied]
  | text s => simp [grow, stray?]
  | comment s closed => simpa [grow, stray?] using strays_noteUnless closed rfl
  | cdata s closed => simpa [grow, stray?] using strays_noteUnless closed rfl
  | declaration s closed => simpa [grow, stray?] using strays_noteUnless closed rfl
  | instruction s closed => simpa [grow, stray?] using strays_noteUnless closed rfl

theorem issues_foldl (g : Growth) (ps : List Piece) :
    (ps.foldl grow g).issues.filter Issue.isStray =
      g.issues.filter Issue.isStray ++ (g.strays ps).map (strayIssue g.flavor) := by
  induction ps generalizing g with
  | nil => simp [strays]
  | cons p ps ih =>
    rw [List.foldl_cons, ih, issues_grow, flavor_grow]
    cases h : g.stray? p <;> simp [strays, h]

theorem tiles_foldl {g : Growth} (h : g.Sound) {ps : List Piece}
    (hps : ∀ p ∈ ps, p.source ≠ []) {i : Position} {rs passed : List Range}
    (hp : g.regions ++ passed ~ rs) (ht : Tiles i g.place rs) :
    ∃ rs', (ps.foldl grow g).regions ++ (passed ++ (g.strays ps).map strayRange) ~ rs' ∧
      Tiles i (ps.foldl grow g).place rs' := by
  induction ps generalizing g rs passed with
  | nil => exact ⟨rs, by simpa [strays] using hp, ht⟩
  | cons p ps ih =>
    have hpiece := tiles_regions (p := g.place) (hps p List.mem_cons_self)
    rw [← place_grow] at hpiece
    have hstep := regions_grow h p
    generalize hs : ((g.stray? p).map fun t => strayRange (g.place, t)).toList = new at hstep
    have hnew : (g.grow p).regions ++ (passed ++ new) ~ rs ++ p.regions g.place :=
      calc (g.grow p).regions ++ (passed ++ new)
        _ ~ (g.grow p).regions ++ new ++ passed := by
          rw [List.append_assoc]
          exact List.perm_append_comm.append_left _
        _ ~ g.regions ++ p.regions g.place ++ passed := hstep.append_right _
        _ ~ g.regions ++ passed ++ p.regions g.place := by
          simp only [List.append_assoc]
          exact List.perm_append_comm.append_left _
        _ ~ rs ++ p.regions g.place := hp.append_right _
    obtain ⟨rs', hperm, htiles⟩ := ih (h.grow p) (fun q hq => hps q (List.mem_cons_of_mem _ hq))
      hnew (tiles_append ht hpiece)
    refine ⟨rs', ?_, htiles⟩
    have hstrays : (g.strays (p :: ps)).map strayRange =
        new ++ ((g.grow p).strays ps).map strayRange := by
      rw [← hs]
      cases h : g.stray? p <;> simp [strays, h]
    rwa [List.foldl_cons, hstrays, ← List.append_assoc passed]

theorem mem_strays {g : Growth} {ps : List Piece} {x : Position × EndTag}
    (hx : x ∈ g.strays ps) :
    ∃ before after, ps = before ++ .endTag x.2 :: after ∧
      x.1 = g.place.advance (before.flatMap Piece.source) ∧
      ∀ o ∈ (before.foldl grow g).opened, o.name ≠ g.nameOf x.2.name := by
  induction ps generalizing g with
  | nil => cases hx
  | cons p ps ih =>
    rcases List.mem_append.1 hx with hx | hx
    · cases p with
      | endTag t =>
        simp only [stray?] at hx
        split at hx
        · rename_i hopen
          obtain rfl := List.mem_singleton.1 hx
          refine ⟨[], ps, rfl, rfl, ?_⟩
          intro o ho
          have hnone := List.dropWhile_eq_nil_iff.1 (List.isEmpty_iff.1 hopen) o ho
          simpa using hnone
        · cases hx
      | _ => cases hx
    · obtain ⟨before, after, rfl, hplace, hnone⟩ := ih hx
      refine ⟨p :: before, after, rfl, ?_, ?_⟩
      · rw [hplace, place_grow, List.flatMap_cons, Position.advance_append]
      · intro o ho
        have hne := hnone o ho
        rwa [nameOf, flavor_grow] at hne

end Growth

theorem source_ne_nil_of_mem {f : Flavor} {s : List Char} {p : Piece} (h : p ∈ pieces f s) :
    p.source ≠ [] := by
  fun_induction pieces f s with
  | case1 => cases h
  | case2 s hs _ ih =>
    rcases List.mem_cons.1 h with rfl | h
    · exact source_ne_nil hs
    · exact ih h

namespace Document

def strayTags (f : Flavor) (text : String) : List (Position × EndTag) :=
  (Growth.start f).strays (pieces f (stripMark text.toList).1)

theorem exists_tiles (f : Flavor) (text : String) :
    ∃ rs, (parse f text).regions ++ (strayTags f text).map Growth.strayRange ~ rs ∧
      Tiles .origin (Position.origin.advance (stripMark text.toList).1) rs := by
  obtain ⟨rs, hperm, htiles⟩ := Growth.tiles_foldl (Growth.sound_start f)
    (fun p hp => source_ne_nil_of_mem hp)
    (show (Growth.start f).regions ++ [] ~ [] from List.Perm.refl _) rfl
  rw [Growth.place_foldl, source_pieces] at htiles
  exact ⟨rs, hperm, htiles⟩

theorem issues_strayTags (f : Flavor) (text : String) :
    (parse f text).issues.filter Issue.isStray =
      (strayTags f text).map (Growth.strayIssue f) := by
  have hunclosed : ∀ g : Growth, g.unclosed.filter Issue.isStray = [] := by
    intro g
    unfold Growth.unclosed
    split
    · exact List.filter_eq_nil_iff.2 (by simp [Issue.isStray])
    · rfl
  have hissues := Growth.issues_foldl (Growth.start f) (pieces f (stripMark text.toList).1)
  simp only [parse, ofPieces, List.filter_append, hunclosed, hissues]
  simp [Growth.start, strayTags]

end Document

/-- No character of a text is lost: each is in the range of one node, of one end tag, or of an
end tag that no element was open for, and that an issue was noted at. -/
theorem tiles_parse (f : Flavor) (text : String) :
    ∃ strays : List (Position × EndTag),
      let s := (Document.stripMark text.toList).1
      let d := Document.parse f text
      let regions := d.regions ++ strays.map Growth.strayRange
      regions.Pairwise Range.Disjoint ∧
      Tiles Position.origin (Position.origin.advance s) (regions.mergeSort Range.startsNoLater) ∧
      (Position.origin.advance s).offset = byteLength s ∧
      (∀ n < byteLength s, ∃ r ∈ regions, r.start.offset ≤ n ∧ n < r.stop.offset) ∧
      d.issues.filter Issue.isStray = strays.map (Growth.strayIssue f) ∧
      ∀ x ∈ strays, ∃ before after, pieces f s = before ++ .endTag x.2 :: after ∧
        x.1 = Position.origin.advance (before.flatMap Piece.source) ∧
        ∀ o ∈ (Growth.ofPieces f before).opened, o.name ≠ f.normalize (String.ofList x.2.name) := by
  obtain ⟨rs, hperm, htiles⟩ := Document.exists_tiles f text
  have hlength := Position.offset_advance_origin (Document.stripMark text.toList).1
  refine ⟨Document.strayTags f text, disjoint_of_tiles htiles hperm, ?_, hlength, ?_,
    Document.issues_strayTags f text, fun x hx => Growth.mem_strays hx⟩
  · rw [mergeSort_of_tiles htiles hperm]
    exact htiles
  · intro n hn
    obtain ⟨r, hr, hin⟩ := covers_of_tiles htiles (Nat.zero_le n) (by rw [hlength]; exact hn)
    exact ⟨r, hperm.symm.subset hr, hin⟩

end MarkupSplice
