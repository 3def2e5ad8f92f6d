import MarkupSplice.Proofs.Markup.Nesting

/-!
# What stands inside an element

Behind the start tag of an open element come end tags that close nothing, then
all that belongs to its children, then again end tags that close nothing, and
then the text ends or an end tag closes the element or one around it
(`exists_interior`). Without its content the element has no children
(`Interior.children_emptied`).
-/
namespace MarkupSplice
open Markup Text

namespace Growth

variable {g : Growth} {p : Piece} {o : OpenElement} {rest inner : List OpenElement}

def Leaves (g : Growth) (ps : List Piece) : Prop :=
  ps = [] ∨ ∃ t qs, ps = .endTag t :: qs ∧ ∃ a ∈ g.opened, a.name = g.nameOf t.name

/-- How it goes on where `inner` is open in `o`: up to an end tag that closes `o` or one around
it, if there is one. -/
def Departs (g : Growth) (inner : List OpenElement) (o : OpenElement) (rest : List OpenElement)
    (ps : List Piece) : Prop :=
  ps = [] ∨ ∃ t qs, ps = .endTag t :: qs ∧ (∀ a ∈ inner, a.name ≠ g.nameOf t.name) ∧
    (∃ a ∈ o :: rest, a.name = g.nameOf t.name) ∧ (g.grow (.endTag t)).opened <:+ rest

theorem Sound.id_ne (h : g.Sound) (hopened : g.opened = o :: rest) : ∀ a ∈ rest, a.id ≠ o.id := by
  have hnodup := h.nodup
  rw [hopened, List.map_cons, List.nodup_cons] at hnodup
  exact fun a ha heq => hnodup.1 (heq ▸ List.mem_map_of_mem ha)

theorem nameOf_foldl (ps : List Piece) (name : List Char) :
    (ps.foldl grow g).nameOf name = g.nameOf name := by
  rw [nameOf, flavor_foldl, nameOf]

theorem reopened_eq_nil {t : EndTag} :
    g.reopened t = [] ↔ ∀ a ∈ g.opened, a.name ≠ g.nameOf t.name := by
  rw [reopened, List.dropWhile_eq_nil_iff]
  simp only [bne_iff_ne]

theorem opened_of_outer {t : EndTag} (h : g.opened = inner ++ o :: rest)
    (hinner : ∀ a ∈ inner, a.name ≠ g.nameOf t.name)
    (houter : ∃ a ∈ o :: rest, a.name = g.nameOf t.name) :
    (g.grow (.endTag t)).opened <:+ rest := by
  have hskip : inner.dropWhile (fun a => a.name != g.nameOf t.name) = [] := by
    simpa only [List.dropWhile_eq_nil_iff, bne_iff_ne] using hinner
  have hreopened : g.reopened t = (o :: rest).dropWhile fun a => a.name != g.nameOf t.name := by
    rw [reopened, h, List.dropWhile_append, hskip]
    rfl
  have hne : g.reopened t ≠ [] := by
    obtain ⟨a, ha, hname⟩ := houter
    rw [ne_eq, reopened_eq_nil, h]
    exact fun hall => hall a (List.mem_append_right _ ha) hname
  have hsuffix : g.reopened t <:+ o :: rest := hreopened ▸ List.dropWhile_suffix _
  rw [opened_grow, openedBy, if_neg (mt List.isEmpty_iff.1 hne)]
  obtain ⟨c, cs, hcs⟩ := List.exists_cons_of_ne_nil hne
  rw [hcs] at hsuffix ⊢
  rcases List.suffix_cons_iff.1 hsuffix with heq | hrest
  · rw [(List.cons.inj heq).2]
    exact List.suffix_refl _
  · exact (List.suffix_cons c cs).trans hrest

theorem opened_cases (h : g.opened = inner ++ o :: rest) (p : Piece) :
    (∃ inner', (g.grow p).opened = inner' ++ o :: rest) ∨
      ∃ t, p = .endTag t ∧ (∀ a ∈ inner, a.name ≠ g.nameOf t.name) ∧
        ∃ a ∈ o :: rest, a.name = g.nameOf t.name := by
  by_cases hp : p.isEndTag = false
  · left
    rcases opened_of_added hp (g := g) with hopened | ⟨t, -, -, hopened⟩
    · exact ⟨inner, hopened.trans h⟩
    · exact ⟨_ :: inner, by rw [hopened, h]; rfl⟩
  · cases p with
    | endTag t =>
      rw [opened_grow, openedBy]
      by_cases hnil : g.reopened t = []
      · exact Or.inl ⟨inner, by rw [if_pos (List.isEmpty_iff.2 hnil), h]⟩
      · rw [if_neg (mt List.isEmpty_iff.1 hnil)]
        by_cases hinner : ∀ a ∈ inner, a.name ≠ g.nameOf t.name
        · right
          refine ⟨t, rfl, hinner, ?_⟩
          by_contra hall
          push Not at hall
          rw [reopened_eq_nil, h] at hnil
          refine hnil fun a ha => ?_
          rcases List.mem_append.1 ha with ha | ha
          · exact hinner a ha
          · exact hall a ha
        · -- the end tag closes one of the inner elements, and the outer ones stay open
          left
          have hskip : inner.dropWhile (fun a => a.name != g.nameOf t.name) ≠ [] := by
            simpa only [ne_eq, List.dropWhile_eq_nil_iff, bne_iff_ne] using hinner
          rw [reopened, h, List.dropWhile_append, if_neg (mt List.isEmpty_iff.1 hskip),
            List.tail_append_of_ne_nil hskip]
          exact ⟨_, rfl⟩
    | _ => exact absurd rfl hp

/-- An element stays open up to an end tag that closes it or one around it. -/
theorem exists_departure (h : g.opened = inner ++ o :: rest) (ps : List Piece) :
    ∃ within behind inner', ps = within ++ behind ∧
      (within.foldl grow g).opened = inner' ++ o :: rest ∧
      (within.foldl grow g).Departs inner' o rest behind := by
  induction ps generalizing g inner with
  | nil => exact ⟨[], [], inner, rfl, h, Or.inl rfl⟩
  | cons p ps ih =>
    rcases opened_cases h p with ⟨inner', h'⟩ | ⟨t, rfl, hinner, houter⟩
    · obtain ⟨within, behind, inner, rfl, hopened, hbehind⟩ := ih h'
      exact ⟨p :: within, behind, inner, rfl, hopened, hbehind⟩
    · exact ⟨[], .endTag t :: ps, inner, rfl, h,
        Or.inr ⟨t, ps, rfl, hinner, houter, opened_of_outer h hinner houter⟩⟩

theorem PassesOver.append {ps qs : List Piece} (hp : g.PassesOver ps) (hq : g.PassesOver qs) :
    g.PassesOver (ps ++ qs) := by
  intro p hmem
  rcases List.mem_append.1 hmem with hmem | hmem
  · exact hp p hmem
  · exact hq p hmem

theorem PassesOver.of_suffix {g' : Growth} {ps : List Piece} (h : g'.PassesOver ps)
    (hf : g'.flavor = g.flavor) (hopened : g.opened <:+ g'.opened) : g.PassesOver ps := by
  intro p hp
  obtain ⟨t, ht⟩ := Option.isSome_iff_exists.1 (h p hp)
  obtain ⟨rfl, hr⟩ := stray?_eq_some.1 ht
  have hname : g'.nameOf t.name = g.nameOf t.name := by rw [nameOf, hf, nameOf]
  rw [reopened_eq_nil, hname] at hr
  have hnil : g.reopened t = [] := reopened_eq_nil.2 fun a ha => hr a (hopened.subset ha)
  exact Option.isSome_iff_exists.2 ⟨t, stray?_eq_some.2 ⟨rfl, hnil⟩⟩

theorem exists_passed (g : Growth) (ps : List Piece) :
    ∃ strays qs, ps = strays ++ qs ∧ g.PassesOver strays ∧
      ∀ q ∈ qs.head?, (g.stray? q).isSome = false := by
  induction ps with
  | nil => exact ⟨[], [], rfl, by simp [PassesOver], by simp⟩
  | cons p ps ih =>
    cases hp : (g.stray? p).isSome with
    | true =>
      obtain ⟨strays, qs, rfl, hpasses, hhead⟩ := ih
      refine ⟨p :: strays, qs, rfl, ?_, hhead⟩
      intro p' hp'
      rcases List.mem_cons.1 hp' with rfl | hp'
      · exact hp
      · exact hpasses p' hp'
    | false =>
      refine ⟨[], p :: ps, rfl, by simp [PassesOver], ?_⟩
      rintro q ⟨⟩
      exact hp

structure Interior (g : Growth) (id : Nat) (ps : List Piece) where
  early : List Piece
  content : List Piece
  late : List Piece
  behind : List Piece
  pieces : ps = early ++ (content ++ (late ++ behind))
  passes : g.PassesOver (early ++ late)
  leaves : g.Leaves behind
  idle : ((early ++ content).foldl grow g).PassesOver late
  stays : ∃ inner, ((early ++ content).foldl grow g).opened = inner ++ g.opened ∧
    ∀ t qs, behind = .endTag t :: qs → ∀ a ∈ inner, a.name ≠ g.nameOf t.name
  childless : content = [] → (ps.foldl grow g).document.children id = []
  children : content ≠ [] → ∃ first last n,
    ((ps.foldl grow g).document.children id).head? = some first ∧
    ((ps.foldl grow g).document.children id).getLast? = some last ∧
    (ps.foldl grow g).nodes[first]? = some n ∧
    n.range.start = g.place.advance (early.flatMap Piece.source) ∧
    (ps.foldl grow g).document.outerEnd last =
      g.place.advance ((early ++ content).flatMap Piece.source)

theorem node_foldl {i : Nat} {n : Node} (hn : g.nodes[i]? = some n) (ps : List Piece) :
    ∃ n', (ps.foldl grow g).nodes[i]? = some n' ∧ n'.range = n.range := by
  have hhead : g.heads[i]? = some n.head := by
    rw [heads, List.getElem?_map, Array.getElem?_toList, hn]
    rfl
  obtain ⟨more, hmore⟩ := heads_prefix g ps
  obtain ⟨hi, -⟩ := List.getElem?_eq_some_iff.1 hhead
  have hget : (ps.foldl grow g).heads[i]? = some n.head := by
    rw [← hmore, List.getElem?_append_left hi, hhead]
  rw [heads, List.getElem?_map, Array.getElem?_toList] at hget
  obtain ⟨n', hn', heq⟩ := Option.map_eq_some_iff.1 hget
  refine ⟨n', hn', ?_⟩
  have hrange := congrArg Node.range heq
  rwa [Node.range_head, Node.range_head] at hrange

theorem node_added (hp : p.isEndTag = false) :
    ∃ n, (g.grow p).nodes[g.nodes.size]? = some n ∧ n.range.start = g.place := by
  rw [getElem_added hp]
  cases p with
  | endTag t => cases hp
  | _ => exact ⟨_, rfl, rfl⟩

/-- Behind an element that is left nothing changes in it but its own end tag. -/
theorem interior_foldl {inner : List OpenElement} (h : g.Sound)
    (hopened : g.opened = inner ++ o :: rest) (hrest : ∀ a ∈ rest, a.id < o.id)
    {ps : List Piece} (hps : g.Departs inner o rest ps) :
    (ps.foldl grow g).document.children o.id = g.document.children o.id ∧
      ∀ i, o.id < i → i < g.nodes.size →
        (ps.foldl grow g).document.outerEnd i = g.document.outerEnd i := by
  rcases hps with rfl | ⟨t, qs, rfl, -, houter, hleft⟩
  · exact ⟨rfl, fun _ _ _ => rfl⟩
  obtain ⟨a, ha, hname⟩ := houter
  have hne : g.reopened t ≠ [] := by
    rw [ne_eq, reopened_eq_nil, hopened]
    exact fun hall => hall a (List.mem_append_right _ ha) hname
  obtain ⟨c, cs, hcs⟩ := List.exists_cons_of_ne_nil hne
  have hopened' : (g.grow (.endTag t)).opened = cs := by
    rw [opened_grow]
    simp [openedBy, hcs]
  rw [hopened'] at hleft
  -- the end tag closes the element or one around it, and so nothing that stands in it
  have hclosed : c.id ≤ o.id := by
    have hsuffix : c :: cs <:+ g.opened := hcs ▸ List.dropWhile_suffix _
    rw [hopened] at hsuffix
    have hle := hleft.length_le
    have hmem := (List.suffix_of_suffix_length_le hsuffix (List.suffix_append inner (o :: rest))
      (by simpa using hle)).subset List.mem_cons_self
    rcases List.mem_cons.1 hmem with rfl | hmem
    · exact Nat.le_refl _
    · exact Nat.le_of_lt (hrest c hmem)
  have hsize := size_grow (g := g) (.endTag t)
  have hstay : ∀ i, o.id ≤ i → i < g.nodes.size →
      ((.endTag t :: qs).foldl grow g).nodes[i]? = (g.grow (.endTag t)).nodes[i]? ∧
      ((.endTag t :: qs).foldl grow g).document.children i = g.document.children i := by
    intro i hle hlt
    obtain ⟨hnodes, hchildren, -⟩ := closed_foldl (h.grow (.endTag t)) (i := i) (by omega)
      (fun b hb => by
        rw [hopened'] at hb
        have hlt' := hrest b (hleft.subset hb)
        omega) qs
    exact ⟨hnodes, hchildren.trans (children_endTag t i)⟩
  have hid : o.id < g.nodes.size := h.id_lt (by rw [hopened]; simp)
  refine ⟨(hstay o.id (Nat.le_refl _) hid).2, ?_⟩
  intro i hlt hi
  refine @Document.outerEnd_congr _ _ _ (o.id + 1) ?_ hlt hi
  intro j hle hj
  obtain ⟨hnodes, hchildren⟩ := hstay j (Nat.le_of_succ_le hle) hj
  refine ⟨?_, hchildren⟩
  rw [nodes_document, hnodes, nodes_grow_left hj]
  · rfl
  · intro b hb
    rw [closes?, hcs, List.head?_cons, Option.mem_some] at hb
    subst hb
    omega

/-- As long as the innermost element stays open, what is not passed over stands in it. -/
theorem added_of_staying (h : g.Sound) (hopened : g.opened = o :: rest)
    (hp : (g.stray? p).isSome = false) {ps : List Piece}
    (hlater : o ∈ (ps.foldl grow (g.grow p)).opened) : p.isEndTag = false := by
  rcases g.piece_cases p with hadds | hstray | ⟨t, a, as, rfl, hr⟩
  · exact hadds
  · rw [hp] at hstray
    cases hstray
  · -- the end tag would close the element, or one around it, for good
    have ha : a ∈ g.opened := (g.reopened_sublist t).subset (by simp [hr])
    have hne : ¬∀ b ∈ g.opened, b.name ≠ g.nameOf t.name := by
      rw [← reopened_eq_nil, hr]
      exact List.cons_ne_nil a as
    push Not at hne
    have hleft : (g.grow (.endTag t)).opened <:+ rest :=
      opened_of_outer (hopened.trans (List.nil_append _).symm) (by simp) (hopened ▸ hne)
    have hout : ∀ b ∈ (g.grow (.endTag t)).opened, b.id ≠ o.id :=
      fun b hb => h.id_ne hopened b (hleft.subset hb)
    have hid : o.id < (g.grow (.endTag t)).nodes.size := by
      rw [size_grow]
      exact Nat.lt_add_right _ (h.id_lt (hopened ▸ List.mem_cons_self))
    exact absurd rfl ((closed_foldl (h.grow _) hid hout ps).2.2 o hlater)

theorem last_child (hn : g.Nested g.place) (ho : g.Ordered) (hopen : o ∈ g.opened)
    (hne : g.document.children o.id ≠ []) :
    ∃ last, (g.document.children o.id).getLast? = some last ∧ o.id < last ∧
      last < g.nodes.size ∧ g.document.outerEnd last = g.place := by
  have hlast := List.getLast?_eq_some_getLast hne
  have hmem := List.mem_of_getLast? hlast
  obtain ⟨n, e, hnode, he, hr⟩ := hn.endless o hopen
  have hlt := ho.parent_lt hmem
  refine ⟨_, hlast, hlt, Document.lt_size_of_child hmem, ?_⟩
  rw [← Document.outerEnd_of_last hnode he hr hlast hlt]
  exact hn.outerEnd_eq ho o hopen

theorem interior_passed (h : g.Sound) (hopened : g.opened = inner ++ o :: rest)
    (hrest : ∀ a ∈ rest, a.id < o.id) {late behind : List Piece} (hlate : g.PassesOver late)
    (hbehind : (late.foldl grow g).Departs inner o rest behind) :
    ((late ++ behind).foldl grow g).document.children o.id = g.document.children o.id ∧
      ∀ i, o.id < i → i < g.nodes.size →
        ((late ++ behind).foldl grow g).document.outerEnd i = g.document.outerEnd i := by
  obtain ⟨hnodes, hopened'⟩ := hlate.foldl
  have hall := interior_foldl (h.foldl late) (hopened'.trans hopened) hrest hbehind
  rw [document_eq (flavor_foldl g late) hnodes, hnodes] at hall
  rwa [List.foldl_append]

theorem first_child (h : g.Sound) (ho : g.Ordered) (hopened : g.opened = o :: rest)
    (hsize : g.nodes.size = o.id + 1) {early qs : List Piece} (hearly : g.PassesOver early)
    (hp : (g.stray? p).isSome = false) (hlater : o ∈ ((early ++ p :: qs).foldl grow g).opened)
    (rs : List Piece) :
    (((early ++ p :: rs).foldl grow g).document.children o.id).head? = some g.nodes.size ∧
      ∃ n, ((early ++ p :: rs).foldl grow g).nodes[g.nodes.size]? = some n ∧
        n.range.start = g.place.advance (early.flatMap Piece.source) := by
  obtain ⟨hnodes, hopened'⟩ := hearly.foldl
  have hadds : p.isEndTag = false := by
    rw [List.foldl_append] at hlater
    refine added_of_staying (h.foldl early) (hopened'.trans hopened) ?_ hlater
    rwa [stray?_congr (flavor_foldl g early) hopened']
  have hchildren : ((early.foldl grow g).grow p).document.children o.id = [g.nodes.size] := by
    have hparent : (early.foldl grow g).parent? = some o.id := by
      rw [parent?, hopened', hopened]
      rfl
    rw [children_grow hadds (by rw [hnodes]; omega), if_pos hparent,
      document_eq (flavor_foldl g early) hnodes, hnodes, children_of_size_le ho (by omega)]
    rfl
  obtain ⟨n, hget, hstart⟩ := node_added (g := early.foldl grow g) hadds
  rw [hnodes] at hget
  obtain ⟨n', hget', hrange⟩ := node_foldl hget rs
  rw [List.foldl_append]
  refine ⟨?_, n', hget', ?_⟩
  · obtain ⟨more, hmore⟩ := prefix_children ((early.foldl grow g).grow p) rs o.id
    rw [List.foldl_cons, ← hmore, hchildren]
    rfl
  · rw [hrange, hstart, place_foldl]

theorem exists_interior (h : g.Sound) (ho : g.Ordered) (hn : g.Nested g.place)
    (hopened : g.opened = o :: rest) (hsize : g.nodes.size = o.id + 1) {ps : List Piece}
    (hb : ∀ p ∈ ps, p.Bracketed) : Nonempty (g.Interior o.id ps) := by
  have hrest : ∀ a ∈ rest, a.id < o.id := by
    intro a ha
    have hlt := h.id_lt (o := a) (by rw [hopened]; exact List.mem_cons_of_mem _ ha)
    have hne := h.id_ne hopened a ha
    omega
  obtain ⟨within, behind, inner, rfl, hinner, hbehind⟩ :=
    exists_departure (hopened.trans (List.nil_append (o :: rest)).symm) ps
  obtain ⟨front, late, rfl, hnested, hlate⟩ := hn.exists_run h ho
    fun p hp => hb p (List.mem_append_left behind hp)
  obtain ⟨early, content, rfl, hearly, hcontent⟩ := g.exists_passed front
  rw [List.foldl_append, hlate.foldl.2] at hinner
  rw [List.foldl_append] at hbehind
  -- what holds where the children end still holds of the whole forest
  obtain ⟨hchildren, hends⟩ := interior_passed (h.foldl _) hinner hrest hlate hbehind
  rw [← List.foldl_append] at hchildren hends
  simp only [Departs, nameOf_foldl] at hbehind
  have hleaves : g.Leaves behind :=
    hbehind.imp_right fun ⟨t, qs, hcons, _, houter, _⟩ => ⟨t, qs, hcons, hopened ▸ houter⟩
  have hstays : ∀ t qs, behind = .endTag t :: qs → ∀ a ∈ inner, a.name ≠ g.nameOf t.name := by
    rintro t qs rfl
    obtain hnil | ⟨t', qs', hcons, hnames, -⟩ := hbehind
    · cases hnil
    · cases hcons
      exact hnames
  have hpasses : g.PassesOver late := by
    refine hlate.of_suffix (flavor_foldl g _) ?_
    rw [hopened, hinner]
    exact List.suffix_append _ _
  refine ⟨⟨early, content, late, behind, by simp, hearly.append hpasses, hleaves, hlate,
    ⟨inner, hinner.trans (congrArg (inner ++ ·) hopened.symm), hstays⟩, ?_, ?_⟩⟩
  · rintro rfl
    rw [List.append_assoc, hchildren, List.append_nil,
      document_eq (flavor_foldl g early) hearly.foldl.1, children_of_size_le ho (by omega)]
  · intro hne
    obtain ⟨p, qs, rfl⟩ := List.exists_cons_of_ne_nil hne
    have hopen : o ∈ ((early ++ p :: qs).foldl grow g).opened := by
      rw [hinner]
      simp
    have hfirst := first_child h ho hopened hsize hearly (hcontent p rfl) hopen
    obtain ⟨last, hlast, hlt, hbelow, hend⟩ := last_child hnested (ho.foldl h _) hopen (by
      intro hnil
      have hhead := (hfirst qs).1
      rw [hnil] at hhead
      cases hhead)
    have hsplit : early ++ p :: qs ++ late ++ behind = early ++ p :: (qs ++ (late ++ behind)) := by
      simp
    obtain ⟨hhead, n, hget, hstart⟩ := hfirst (qs ++ (late ++ behind))
    rw [← hsplit] at hhead hget
    refine ⟨g.nodes.size, last, n, hhead, ?_, hget, hstart, ?_⟩
    · rw [List.append_assoc, hchildren, hlast]
    · rw [List.append_assoc, hends last hlt hbelow, hend, place_foldl]

theorem Leaves.congr {g' : Growth} {ps : List Piece} (h : g.Leaves ps)
    (hf : g'.flavor = g.flavor) (hopened : g'.opened = g.opened) : g'.Leaves ps := by
  rcases h with hnil | ⟨t, qs, hps, hname⟩
  · exact Or.inl hnil
  · refine Or.inr ⟨t, qs, hps, ?_⟩
    rw [hopened, nameOf, hf]
    exact hname

theorem children_emptied (h : g.Sound) (hopened : g.opened = o :: rest) {strays behind : List Piece}
    (hstrays : g.PassesOver strays) (hbehind : g.Leaves behind) :
    ((strays ++ behind).foldl grow g).document.children o.id = g.document.children o.id := by
  obtain ⟨hnodes, hopened'⟩ := hstrays.foldl
  have hdocument := document_eq (flavor_foldl g strays) hnodes
  rw [List.foldl_append, ← hdocument]
  rcases hbehind with rfl | ⟨t, qs, rfl, hname⟩
  · rfl
  · have hleft : ((strays.foldl grow g).grow (.endTag t)).opened <:+ rest := by
      refine opened_of_outer ((hopened'.trans hopened).trans (List.nil_append _).symm) (by simp) ?_
      rw [nameOf_foldl, ← hopened]
      exact hname
    have hid : o.id < ((strays.foldl grow g).grow (.endTag t)).nodes.size := by
      rw [size_grow, hnodes]
      exact Nat.lt_add_right _ (h.id_lt (hopened ▸ List.mem_cons_self))
    have hout : ∀ b ∈ ((strays.foldl grow g).grow (.endTag t)).opened, b.id ≠ o.id :=
      fun b hb => h.id_ne hopened b (hleft.subset hb)
    rw [List.foldl_cons, (closed_foldl ((h.foldl strays).grow _) hid hout qs).2.1, children_endTag]

theorem isOpener_of_endTag {f : Flavor} {s : List Char} {t : EndTag} {ps : List Piece}
    (h : pieces f s = .endTag t :: ps) : isOpener s = true := by
  have hread := isText_readPiece f s
  rw [(pieces_cons h).1] at hread
  simpa [Piece.isText] using hread

/-- What is left when the content is deleted is read as the pieces that are left. -/
theorem Interior.pieces_emptied {f : Flavor} {s : List Char} {id : Nat} {ps : List Piece}
    (x : g.Interior id ps) (hps : Markup.pieces f s = ps) (hne : x.content ≠ []) :
    Markup.pieces f ((x.early ++ (x.late ++ x.behind)).flatMap Piece.source) =
      x.early ++ (x.late ++ x.behind) := by
  have hbehind : Markup.pieces f ((x.late ++ x.behind).flatMap Piece.source) =
      x.late ++ x.behind := by
    apply @pieces_behind _ _ (x.early ++ x.content)
    exact (hps.trans x.pieces).trans (List.append_assoc _ _ _).symm
  rw [List.flatMap_append, pieces_append (hps.trans x.pieces) (by simp [hne]), hbehind]
  cases hrest : x.late ++ x.behind with
  | nil => exact Or.inl rfl
  | cons q qs =>
    right
    rw [hrest] at hbehind
    obtain ⟨t, rfl⟩ : ∃ t, q = .endTag t := by
      cases hlate : x.late with
      | nil =>
        rw [hlate, List.nil_append] at hrest
        rcases x.leaves with hnil | ⟨t, rs, hcons, -⟩
        · rw [hnil] at hrest
          cases hrest
        · rw [hcons] at hrest
          exact ⟨t, (List.cons.inj hrest).1.symm⟩
      | cons p ps =>
        rw [hlate] at hrest
        have hp := x.passes p (by simp [hlate])
        obtain ⟨t, ht⟩ := Option.isSome_iff_exists.1 hp
        exact ⟨t, (List.cons.inj hrest).1 ▸ (stray?_eq_some.1 ht).1⟩
    exact isOpener_of_endTag hbehind

end Growth
end MarkupSplice
