import MarkupSplice.Proofs.Markup.Enclosure
import MarkupSplice.Proofs.Markup.Writing

/-!
# What stands between nodes

Between two regions of a document that no other one comes between, a text has
nothing but end tags that closed nothing (`slice_between`). For an element with
an end tag these are the places between its start tag and its first child and
between its last child and its end tag (`slice_gap`).
-/
namespace MarkupSplice
open Markup Text
open scoped List

section Tiles

variable {i k : Position} {rs : List Range} {t u : Range}

def Position.isWithin (a b : Nat) (p : Position) : Bool :=
  decide (a ≤ p.offset) && decide (p.offset < b)

theorem Position.isWithin_iff {a b : Nat} {p : Position} :
    p.isWithin a b = true ↔ a ≤ p.offset ∧ p.offset < b := by
  rw [isWithin, Bool.and_eq_true, decide_eq_true_eq, decide_eq_true_eq]

theorem Position.not_isWithin_iff {a b : Nat} {p : Position} :
    p.isWithin a b = false ↔ p.offset < a ∨ b ≤ p.offset := by
  rw [← Bool.not_eq_true, isWithin_iff]
  omega

theorem tiles_split {as bs : List Range} (h : Tiles i k (as ++ bs)) :
    ∃ j, Tiles i j as ∧ Tiles j k bs := by
  induction as generalizing i with
  | nil => exact ⟨i, rfl, h⟩
  | cons r as ih =>
    obtain ⟨hstart, hlt, hrest⟩ := h
    obtain ⟨j, has, hbs⟩ := ih hrest
    exact ⟨j, ⟨hstart, hlt, has⟩, hbs⟩

theorem tiles_between (h : Tiles i k rs) (ht : t ∈ rs) (hu : u ∈ rs)
    (hle : t.stop.offset ≤ u.start.offset) :
    ∃ bs cs, Tiles t.stop k (bs ++ u :: cs) ∧ Tiles u.start k (u :: cs) ∧
      (bs ++ u :: cs).Sublist rs ∧
      ∀ r, r ∈ bs ↔ r ∈ rs ∧ r.start.isWithin t.stop.offset u.start.offset = true := by
  have hpos := lt_of_mem_tiles h
  obtain ⟨as, rest, rfl⟩ := List.append_of_mem ht
  obtain ⟨j, -, ⟨-, -, hrest⟩⟩ := tiles_split h
  obtain ⟨-, hbehind, hfront⟩ := List.pairwise_append.1 (pairwise_of_tiles h)
  have hut := hpos u hu
  have htpos := hpos t ht
  have hmem : u ∈ rest := by
    rcases List.mem_append.1 hu with hu | hu
    · have hbefore := hfront u hu t List.mem_cons_self
      omega
    · rcases List.mem_cons.1 hu with rfl | hu
      · omega
      · exact hu
  obtain ⟨bs, cs, rfl⟩ := List.append_of_mem hmem
  obtain ⟨j', hbs, hcs⟩ := tiles_split hrest
  obtain rfl : u.start = j' := hcs.1
  obtain ⟨-, hpast, hinner⟩ := List.pairwise_append.1 (List.pairwise_cons.1 hbehind).2
  refine ⟨bs, cs, hrest, hcs, ?_, fun r => ?_⟩
  · exact (List.sublist_cons_self t _).trans (List.sublist_append_right as _)
  · rw [Position.isWithin_iff]
    constructor
    · intro hr
      have hmem : r ∈ as ++ t :: (bs ++ u :: cs) := by simp [hr]
      exact ⟨hmem, start_le_of_tiles hbs r hr, (hinner r hr u List.mem_cons_self).1⟩
    · rintro ⟨hr, hstart, hlt⟩
      have hrpos := hpos r hr
      rcases List.mem_append.1 hr with hr | hr
      · have hbefore := hfront r hr t List.mem_cons_self
        omega
      · rcases List.mem_cons.1 hr with rfl | hr
        · omega
        · rcases List.mem_append.1 hr with hr | hr
          · exact hr
          · have hle := start_le_of_tiles hcs r hr
            omega

end Tiles

namespace Growth

theorem le_of_mem_strays {g : Growth} {ps : List Piece} {x : Position × EndTag}
    (hx : x ∈ g.strays ps) : g.place.offset ≤ x.1.offset := by
  obtain ⟨before, -, -, hplace, -⟩ := mem_strays hx
  rw [hplace, Position.offset_advance]
  exact Nat.le_add_right _ _

theorem strays_sorted {g : Growth} {ps : List Piece} (hps : ∀ p ∈ ps, p.source ≠ []) :
    (g.strays ps).Pairwise fun x y => x.1.offset < y.1.offset := by
  induction ps generalizing g with
  | nil => exact List.Pairwise.nil
  | cons p ps ih =>
    refine List.pairwise_append.2 ⟨?_, ih fun q hq => hps q (List.mem_cons_of_mem _ hq), ?_⟩
    · cases g.stray? p <;> simp
    · intro x hx y hy
      obtain ⟨t, -, rfl⟩ := Option.map_eq_some_iff.1 (Option.mem_toList.1 hx)
      have hpos := byteLength_pos (hps p List.mem_cons_self)
      have hle := le_of_mem_strays hy
      rw [place_grow, Position.offset_advance] at hle
      show g.place.offset < y.1.offset
      omega

end Growth

namespace Document

variable {f : Flavor} {text : String} {i j : Nat} {n m : Node} {t u r : Range}

theorem stray_of_mem {x : Position × EndTag} (hx : x ∈ strayTags f text) :
    ∃ before after, (stripMark text.toList).1 = before ++ x.2.source ++ after ∧
      x.1 = Position.origin.advance before := by
  obtain ⟨before, after, hpieces, hplace, -⟩ := Growth.mem_strays hx
  refine ⟨before.flatMap Piece.source, after.flatMap Piece.source, ?_, hplace⟩
  rw [← source_pieces f (stripMark text.toList).1, hpieces, List.flatMap_append,
    List.flatMap_cons, ← List.append_assoc]
  rfl

theorem sourceIn_stray {x : Position × EndTag} (hx : x ∈ strayTags f text) :
    (Growth.strayRange x).sourceIn (stripMark text.toList).1 = x.2.source := by
  obtain ⟨before, after, hs, hplace⟩ := stray_of_mem hx
  rw [Growth.strayRange, hplace, ← Position.advance_append, hs, sourceIn_advance]

theorem stop_inside_stray {x : Position × EndTag} (hx : x ∈ strayTags f text) :
    (Growth.strayRange x).stop.Inside (stripMark text.toList).1 := by
  obtain ⟨before, after, hs, hplace⟩ := stray_of_mem hx
  rw [Growth.strayRange, hplace, ← Position.advance_append, hs]
  exact Position.inside_advance _ _

theorem flatMap_suffix {s : List Char} {rs : List Range} {p : Position} (hp : p.Inside s)
    (h : Tiles p (Position.origin.advance s) rs) (hinside : ∀ r ∈ rs, r.stop.Inside s) :
    ∃ a, s = a ++ rs.flatMap (Range.sourceIn s) ∧ p = Position.origin.advance a := by
  obtain ⟨a, ⟨b, hs⟩, rfl⟩ := hp
  refine ⟨a, ?_, rfl⟩
  rw [flatMap_sourceIn hs.symm h hinside, hs]

def straysIn (f : Flavor) (text : String) (a b : Nat) : List (Position × EndTag) :=
  (strayTags f text).filter fun x => x.1.isWithin a b

theorem eq_strayRanges {rs bs : List Range} {a b : Nat} {p q : Position}
    (hperm : (parse f text).regions ++ (strayTags f text).map Growth.strayRange ~ rs)
    (htiles : Tiles p q rs) (hsub : bs.Sublist rs)
    (hmem : ∀ r, r ∈ bs ↔ r ∈ rs ∧ r.start.isWithin a b = true)
    (hfree : ∀ r ∈ (parse f text).regions, r.start.isWithin a b = false) :
    bs = (straysIn f text a b).map Growth.strayRange := by
  -- both are sorted by where they begin, so they need only have the same members
  have : Std.Asymm fun a b : Range => a.start.offset < b.start.offset := ⟨fun _ _ => Nat.lt_asymm⟩
  apply List.Pairwise.eq_of_mem_iff (r := fun a b : Range => a.start.offset < b.start.offset)
  · exact ((pairwise_of_tiles htiles).imp fun hab => hab.1).sublist hsub
  · refine List.pairwise_map.2 (List.Pairwise.filter _ ?_)
    exact Growth.strays_sorted fun p hp => source_ne_nil_of_mem hp
  · intro r
    rw [hmem, List.mem_map]
    constructor
    · rintro ⟨hr, hstarts⟩
      rcases List.mem_append.1 (hperm.symm.subset hr) with hr | hr
      · rw [hfree r hr] at hstarts
        cases hstarts
      · obtain ⟨x, hx, rfl⟩ := List.mem_map.1 hr
        exact ⟨x, List.mem_filter.2 ⟨hx, hstarts⟩, rfl⟩
    · rintro ⟨x, hx, rfl⟩
      obtain ⟨hx, hstarts⟩ := List.mem_filter.1 hx
      exact ⟨hperm.subset (List.mem_append_right _ (List.mem_map_of_mem hx)), hstarts⟩

/-- Where no other region comes between two of them, the text has only end tags that closed
nothing. -/
theorem slice_between (ht : t ∈ (parse f text).regions) (hu : u ∈ (parse f text).regions)
    (hle : t.stop.offset ≤ u.start.offset)
    (hfree : ∀ r ∈ (parse f text).regions, r.start.isWithin t.stop.offset u.start.offset = false) :
    slice (stripMark text.toList).1 t.stop.offset u.start.offset =
      (straysIn f text t.stop.offset u.start.offset).flatMap (·.2.source) := by
  obtain ⟨rs, hperm, htiles⟩ := exists_tiles f text
  have hinside : ∀ r ∈ rs, r.stop.Inside (stripMark text.toList).1 := by
    intro r hr
    rcases List.mem_append.1 (hperm.symm.subset hr) with hr | hr
    · exact (inside_region hr).stop
    · obtain ⟨x, hx, rfl⟩ := List.mem_map.1 hr
      exact stop_inside_stray hx
  obtain ⟨bs, cs, hbs, hcs, hsub, hmem⟩ := tiles_between htiles
    (hperm.subset (List.mem_append_left _ ht)) (hperm.subset (List.mem_append_left _ hu)) hle
  obtain ⟨a, ha, hstop⟩ := flatMap_suffix (inside_region ht).stop hbs fun r hr =>
    hinside r (hsub.subset hr)
  obtain ⟨a', ha', hstart⟩ := flatMap_suffix (inside_region hu).start hcs fun r hr =>
    hinside r (hsub.subset (List.mem_append_right _ hr))
  have hsource : bs.flatMap (Range.sourceIn (stripMark text.toList).1) =
      (straysIn f text t.stop.offset u.start.offset).flatMap (·.2.source) := by
    rw [eq_strayRanges hperm htiles ((List.sublist_append_left bs _).trans hsub) hmem hfree,
      List.flatMap_map]
    exact List.flatMap_congr fun x hx => sourceIn_stray (List.mem_filter.1 hx).1
  rw [List.flatMap_append, hsource, ← List.append_assoc] at ha
  have hsplit := List.append_cancel_right (ha'.symm.trans ha)
  have hbetween := slice_eq ha (Position.offset_advance_origin a) (Position.offset_advance_origin _)
  rwa [← hsplit, ← hstart, ← hstop] at hbetween

theorem issues_straysIn (a b : Nat) :
    (parse f text).issues.filter (fun issue => issue.position.isWithin a b && issue.isStray) =
      (straysIn f text a b).map (Growth.strayIssue f) := by
  rw [← List.filter_filter, issues_strayTags, List.filter_map, straysIn]
  rfl

section EndTag

variable {e : Element} {first last : Nat}

theorem exists_node_of_region (hr : r ∈ (parse f text).regions) :
    ∃ (j : Nat) (m : Node), (parse f text).nodes[j]? = some m ∧ (r = m.range ∨
      ∃ e : Element, m.element? = some e ∧ e.endTag = some r) := by
  obtain ⟨m, hm, hr⟩ := List.mem_flatMap.1 hr
  obtain ⟨j, hj⟩ := List.getElem?_of_mem hm
  refine ⟨j, m, by rwa [Array.getElem?_toList] at hj, ?_⟩
  rcases List.mem_cons.1 hr with rfl | hr
  · exact Or.inl rfl
  · exact Or.inr (Option.bind_eq_some_iff.1 (Option.mem_toList.1 hr))

/-- A region ends no later than the start tag of an element, or begins no earlier than its end tag,
or it belongs to what stands in the element. -/
theorem region_cases (hn : (parse f text).nodes[i]? = some n) (he : n.element? = some e)
    (hr : e.endTag = some r) (hu : u ∈ (parse f text).regions) :
    u.stop.offset ≤ n.range.stop.offset ∨ r.start.offset ≤ u.start.offset ∨
      ∃ j, i ∈ (parse f text).ancestors j ∧ (∃ m, (parse f text).nodes[j]? = some m ∧
        m.range.start.offset ≤ u.start.offset) ∧
        u.stop.offset ≤ ((parse f text).outerEnd j).offset := by
  have hlt := lt_of_node hn
  have hend := endTag_le_outerEnd hn he hr
  have hpos := lt_of_endTag hn he hr
  obtain ⟨j, m, hm, hu⟩ := exists_node_of_region hu
  have hown : m.range.start.offset ≤ u.start.offset ∧
      u.stop.offset ≤ ((parse f text).outerEnd j).offset := by
    rcases hu with rfl | ⟨e', he', hu⟩
    · exact ⟨Nat.le_refl _, stop_le_outerEnd hm⟩
    · have hmlt := lt_of_node hm
      have hstop := stop_le_endTag hm he' hu
      exact ⟨by omega, endTag_le_outerEnd hm he' hu⟩
  -- nodes are numbered as they begin, so one in front that is no ancestor has ended
  rcases Nat.lt_trichotomy j i with hji | rfl | hij
  · by_cases hancestor : j ∈ (parse f text).ancestors i
    · rcases hu with rfl | ⟨e', he', hu⟩
      · have hle := stop_le_start hm hn hji
        exact Or.inl (by omega)
      · have hle := outerEnd_le_endTag hm he' hu hancestor
        exact Or.inr (Or.inl (by omega))
    · have hle := outerEnd_le_start hn hji hancestor
      exact Or.inl (by omega)
  · obtain rfl := Option.some.inj (hn.symm.trans hm)
    rcases hu with rfl | ⟨e', he', hu⟩
    · exact Or.inl (Nat.le_refl _)
    · obtain rfl := Option.some.inj (he.symm.trans he')
      obtain rfl := Option.some.inj (hr.symm.trans hu)
      exact Or.inr (Or.inl (Nat.le_refl _))
  · by_cases hancestor : i ∈ (parse f text).ancestors j
    · exact Or.inr (Or.inr ⟨j, hancestor, ⟨m, hm, hown.1⟩, hown.2⟩)
    · have hle := outerEnd_le_start hm hij hancestor
      exact Or.inr (Or.inl (by omega))

/-- The places between two offsets that no child of an element takes up: in front of its first
child and behind its last one. -/
def gaps (d : Document) (id a b : Nat) : List (Nat × Nat) :=
  match (d.children id).head?, (d.children id).getLast? with
  | some first, some last =>
    [(a, (d.extent first).start.offset), ((d.extent last).stop.offset, b)]
  | _, _ => [(a, b)]

theorem children_cases (d : Document) (id : Nat) : d.children id = [] ∨
    ∃ first last, (d.children id).head? = some first ∧ (d.children id).getLast? = some last := by
  by_cases hchildren : d.children id = []
  · exact Or.inl hchildren
  · exact Or.inr ⟨_, _, List.head?_eq_some_head hchildren, List.getLast?_eq_some_getLast hchildren⟩

theorem gaps_of_childless {d : Document} {id a b : Nat} (h : d.children id = []) :
    d.gaps id a b = [(a, b)] := by
  rw [gaps, h]
  rfl

theorem gaps_of_children {d : Document} {id a b : Nat}
    (hfirst : (d.children id).head? = some first) (hlast : (d.children id).getLast? = some last) :
    d.gaps id a b = [(a, (d.extent first).start.offset), ((d.extent last).stop.offset, b)] := by
  rw [gaps, hfirst, hlast]

theorem exists_region_stop (hi : i < (parse f text).size) :
    ∃ t ∈ (parse f text).regions, t.stop = (parse f text).outerEnd i := by
  obtain ⟨n, hn⟩ := exists_node_of_lt hi
  obtain ⟨t, ht, hstop⟩ := exists_stop_eq hn
  obtain ⟨j, -, m, hm, hmem⟩ := mem_regionsIn.1 ht
  exact ⟨t, mem_regions hm hmem, hstop⟩

theorem stop_lt_of_child (hn : (parse f text).nodes[i]? = some n) {c : Nat}
    (hc : c ∈ (parse f text).children i) :
    n.range.stop.offset < ((parse f text).outerEnd c).offset := by
  obtain ⟨m, hm⟩ := exists_node_of_lt (lt_size_of_child hc)
  exact Nat.lt_of_le_of_lt (child_behind hn hm hc)
    (Nat.lt_of_lt_of_le (lt_of_node hm) (stop_le_outerEnd hm))

theorem slice_childless (hn : (parse f text).nodes[i]? = some n) (he : n.element? = some e)
    (hr : e.endTag = some r) (hchildren : (parse f text).children i = []) :
    slice (stripMark text.toList).1 n.range.stop.offset r.start.offset =
      (straysIn f text n.range.stop.offset r.start.offset).flatMap (·.2.source) := by
  refine slice_between (mem_regions hn List.mem_cons_self)
    (mem_regions hn (by simp [Node.regions, he, hr])) (stop_le_endTag hn he hr) fun u hu => ?_
  have hpos := lt_of_mem_regions hu
  rw [Position.not_isWithin_iff]
  rcases region_cases hn he hr hu with hfront | hbehind | ⟨j, hj, -⟩
  · omega
  · exact Or.inr hbehind
  · obtain ⟨c, hc, -⟩ := exists_child_of_mem_ancestors hj
    rw [hchildren] at hc
    cases hc

theorem slice_front (hn : (parse f text).nodes[i]? = some n) (he : n.element? = some e)
    (hr : e.endTag = some r) (hfirst : ((parse f text).children i).head? = some first) :
    let b := ((parse f text).extent first).start.offset
    slice (stripMark text.toList).1 n.range.stop.offset b =
      (straysIn f text n.range.stop.offset b).flatMap (·.2.source) := by
  have hmem := List.mem_of_mem_head? hfirst
  obtain ⟨m, hm⟩ := exists_node_of_lt (lt_size_of_child hmem)
  rw [extent_eq hm]
  refine slice_between (u := m.range) (mem_regions hn List.mem_cons_self)
    (mem_regions hm List.mem_cons_self) (child_behind hn hm hmem) fun u hu => ?_
  have hpos := lt_of_mem_regions hu
  have hinner := child_le_endTag hn he hr hmem
  have hlt := Nat.lt_of_lt_of_le (lt_of_node hm) (stop_le_outerEnd hm)
  rw [Position.not_isWithin_iff]
  rcases region_cases hn he hr hu with hfront | hbehind | ⟨j, hj, ⟨k, hk, hle⟩, -⟩
  · omega
  · omega
  · exact Or.inr (Nat.le_trans (first_le_start hfirst hm hj hk) hle)

theorem slice_behind (hn : (parse f text).nodes[i]? = some n) (he : n.element? = some e)
    (hr : e.endTag = some r) (hlast : ((parse f text).children i).getLast? = some last) :
    let a := ((parse f text).extent last).stop.offset
    slice (stripMark text.toList).1 a r.start.offset =
      (straysIn f text a r.start.offset).flatMap (·.2.source) := by
  have hmem := List.mem_of_getLast? hlast
  obtain ⟨t, ht, hstop⟩ := exists_region_stop (lt_size_of_child hmem)
  have hstop' : ((parse f text).extent last).stop = t.stop := hstop.symm
  rw [hstop']
  refine slice_between ht (mem_regions hn (by simp [Node.regions, he, hr]))
    (hstop ▸ child_le_endTag hn he hr hmem) fun u hu => ?_
  have hpos := lt_of_mem_regions hu
  have hinner := stop_lt_of_child hn hmem
  rw [Position.not_isWithin_iff, hstop]
  rcases region_cases hn he hr hu with hfront | hbehind | ⟨j, hj, -, hle⟩
  · omega
  · exact Or.inr hbehind
  · have hbound := outerEnd_le_last hlast hj
    omega

theorem slice_gap (hn : (parse f text).nodes[i]? = some n) (he : n.element? = some e)
    (hr : e.endTag = some r) {g : Nat × Nat}
    (hg : g ∈ (parse f text).gaps i n.range.stop.offset r.start.offset) :
    slice (stripMark text.toList).1 g.1 g.2 = (straysIn f text g.1 g.2).flatMap (·.2.source) := by
  rcases children_cases (parse f text) i with hchildren | ⟨first, last, hfirst, hlast⟩
  · rw [gaps_of_childless hchildren] at hg
    obtain rfl := List.mem_singleton.1 hg
    exact slice_childless hn he hr hchildren
  · rw [gaps_of_children hfirst hlast, List.mem_pair] at hg
    rcases hg with rfl | rfl
    · exact slice_front hn he hr hfirst
    · exact slice_behind hn he hr hlast

end EndTag

end Document
end MarkupSplice
