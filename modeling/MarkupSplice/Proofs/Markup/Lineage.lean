import MarkupSplice.Proofs.Markup.Nesting

/-!
# Ancestors

A node stands in all elements that are open where it is added, so as long as an
element is open all nodes behind it stand in it (`Lineage.grow`), and where none
of the open elements is an ancestor nothing is added any more
(`Lineage.outerEnd_grow`).
-/
namespace MarkupSplice
open Markup Text

namespace Document

variable {d d' : Document} {id p a b : Nat}

theorem ancestors_of_parent (h : d.parent? id = some p) (hlt : p < id) :
    d.ancestors id = p :: d.ancestors p := by
  rw [ancestors]
  simp [h, hlt]

theorem ancestors_of_root (h : d.parent? id = none) : d.ancestors id = [] := by
  rw [ancestors]
  simp [h]

theorem lt_of_mem_ancestors (h : a ∈ d.ancestors id) : a < id := by
  fun_induction ancestors d id with
  | case1 => cases h
  | case2 id p hparent hlt ih =>
    rcases List.mem_cons.1 h with rfl | h
    · exact hlt
    · exact Nat.lt_trans (ih h) hlt
  | case3 => cases h

theorem ancestors_congr (h : ∀ i ≤ id, d'.parent? i = d.parent? i) :
    d'.ancestors id = d.ancestors id := by
  fun_induction ancestors d id with
  | case1 id hparent => exact ancestors_of_root ((h id (Nat.le_refl _)).trans hparent)
  | case2 id p hparent hlt ih =>
    rw [ancestors_of_parent ((h id (Nat.le_refl _)).trans hparent) hlt,
      ih fun i hi => h i (Nat.le_trans hi (Nat.le_of_lt hlt))]
  | case3 id p hparent hnot =>
    rw [ancestors]
    simp [h id (Nat.le_refl _), hparent, hnot]

theorem exists_child_of_mem_ancestors (h : a ∈ d.ancestors id) :
    ∃ c ∈ d.children a, c = id ∨ c ∈ d.ancestors id := by
  fun_induction ancestors d id with
  | case1 => cases h
  | case2 id p hparent hlt ih =>
    rcases List.mem_cons.1 h with rfl | h
    · exact ⟨id, mem_children.2 hparent, Or.inl rfl⟩
    · obtain ⟨c, hc, rfl | hmem⟩ := ih h
      · exact ⟨c, hc, Or.inr List.mem_cons_self⟩
      · exact ⟨c, hc, Or.inr (List.mem_cons_of_mem _ hmem)⟩
  | case3 => cases h

theorem children_sorted (d : Document) (id : Nat) : (d.children id).Pairwise (· < ·) :=
  List.pairwise_lt_range.filter _

end Document

namespace Growth

variable {g : Growth} {p : Piece}

theorem parent?_document (g : Growth) (i : Nat) : g.document.parent? i = g.parents[i]?.join := by
  rw [Document.parent?, nodes_document, parents, List.getElem?_map, Array.getElem?_toList]
  cases g.nodes[i]? <;> rfl

theorem parent?_grow {i : Nat} (hi : i < g.nodes.size) (p : Piece) :
    (g.grow p).document.parent? i = g.document.parent? i := by
  rw [parent?_document, parent?_document, parents_grow,
    List.getElem?_append_left (by simpa using hi)]

theorem ancestors_grow {i : Nat} (hi : i < g.nodes.size) (p : Piece) :
    (g.grow p).document.ancestors i = g.document.ancestors i :=
  Document.ancestors_congr fun _ hle => parent?_grow (Nat.lt_of_le_of_lt hle hi) p

theorem opened_endTag_suffix (g : Growth) (t : EndTag) :
    (g.grow (.endTag t)).opened <:+ g.opened := by
  have hsuffix : g.reopened t <:+ g.opened := List.dropWhile_suffix _
  rw [opened_grow, openedBy]
  split
  · exact List.suffix_refl _
  · exact (List.tail_suffix _).trans hsuffix

structure Lineage (g : Growth) : Prop where
  opened : ∀ a rest, a :: rest <:+ g.opened →
    g.document.ancestors a.id = rest.map OpenElement.id
  below : ∀ a ∈ g.opened, ∀ j, a.id < j → j < g.nodes.size → a.id ∈ g.document.ancestors j

theorem lineage_start (f : Flavor) : (start f).Lineage := by
  constructor
  · intro a rest h
    simp [start] at h
  · simp [start]

theorem isEndTag_of_size_lt (h : g.nodes.size < (g.grow p).nodes.size) : p.isEndTag = false := by
  have hlength := size_grow (g := g) p
  cases p with
  | endTag t =>
    simp only [added, List.length_nil] at hlength
    omega
  | _ => rfl

/-- A node is added inside all open elements. -/
theorem Lineage.ancestors_added (h : g.Lineage) (hs : g.Sound) (hp : p.isEndTag = false) :
    (g.grow p).document.ancestors g.nodes.size = g.opened.map OpenElement.id := by
  have hparent : (g.grow p).document.parent? g.nodes.size = g.parent? := by
    rw [parent?_document, parents_grow, List.getElem?_append_right (by simp)]
    rcases parent_added hp (g := g) with hadded | hadded <;> simp [hadded]
  rw [Growth.parent?] at hparent
  cases hopened : g.opened with
  | nil =>
    rw [hopened] at hparent
    exact Document.ancestors_of_root hparent
  | cons a rest =>
    have hlt : a.id < g.nodes.size := hs.id_lt (hopened ▸ List.mem_cons_self)
    rw [hopened] at hparent
    rw [Document.ancestors_of_parent hparent hlt, ancestors_grow hlt,
      h.opened a rest (hopened ▸ List.suffix_refl _)]
    rfl

theorem Lineage.ancestors_content (h : g.Lineage) (hs : g.Sound)
    (hsize : g.nodes.size + 1 < (g.grow p).nodes.size) :
    (g.grow p).document.ancestors (g.nodes.size + 1) =
      g.nodes.size :: g.opened.map OpenElement.id := by
  have hp := isEndTag_of_size_lt (Nat.lt_of_succ_lt hsize)
  have hparent : (g.grow p).document.parent? (g.nodes.size + 1) = some g.nodes.size := by
    rw [parent?_document, parents_grow, List.getElem?_append_right (by simp)]
    rcases parent_added hp (g := g) with hadded | hadded
    · have hlength := size_grow (g := g) p
      have hlen := congrArg List.length hadded
      simp only [List.length_map, List.length_singleton] at hlen
      omega
    · simp [hadded]
  rw [Document.ancestors_of_parent hparent (Nat.lt_succ_self _), h.ancestors_added hs hp]

theorem length_added_le (g : Growth) (p : Piece) : (g.added p).length ≤ 2 := by
  cases p with
  | verbatim t content close =>
    simp only [added, List.length_cons]
    split <;> simp
  | _ => simp [added]

theorem Lineage.mem_ancestors_new (h : g.Lineage) (hs : g.Sound) {i j : Nat}
    (hj : g.nodes.size ≤ j) (hlt : j < (g.grow p).nodes.size) (hi : i < g.nodes.size) :
    i ∈ (g.grow p).document.ancestors j ↔ ∃ a ∈ g.opened, a.id = i := by
  have hlength := size_grow (g := g) p
  have htwo := g.length_added_le p
  have hp := isEndTag_of_size_lt (Nat.lt_of_le_of_lt hj hlt)
  rcases Nat.eq_or_lt_of_le hj with rfl | hj
  · rw [h.ancestors_added hs hp, List.mem_map]
  · obtain rfl : j = g.nodes.size + 1 := by omega
    rw [h.ancestors_content hs hlt, List.mem_cons, List.mem_map, or_iff_right (by omega)]

theorem Lineage.grow (h : g.Lineage) (hs : g.Sound) (p : Piece) : (g.grow p).Lineage := by
  have hstay : ∀ a rest, a :: rest <:+ g.opened →
      (g.grow p).document.ancestors a.id = rest.map OpenElement.id := by
    intro a rest hsuffix
    rw [ancestors_grow (hs.id_lt (hsuffix.subset List.mem_cons_self)), h.opened a rest hsuffix]
  constructor
  · intro a rest hsuffix
    cases hp : p.isEndTag with
    | true =>
      cases p with
      | endTag t => exact hstay a rest (hsuffix.trans (g.opened_endTag_suffix t))
      | _ => cases hp
    | false =>
      rcases opened_of_added hp (g := g) with hopened | ⟨t, -, -, hopened⟩
      · exact hstay a rest (hopened ▸ hsuffix)
      · rw [hopened] at hsuffix
        rcases List.suffix_cons_iff.1 hsuffix with heq | hsuffix
        · obtain ⟨rfl, rfl⟩ := List.cons.inj heq
          exact h.ancestors_added hs hp
        · exact hstay a rest hsuffix
  · intro a ha j hj hlt
    rcases mem_opened_grow hs ha with ⟨hold, -⟩ | ⟨t, rfl, hid⟩
    · by_cases hnew : j < g.nodes.size
      · rw [ancestors_grow hnew]
        exact h.below a hold j hj hnew
      · exact (h.mem_ancestors_new hs (Nat.le_of_not_lt hnew) hlt (hs.id_lt hold)).2
          ⟨a, hold, rfl⟩
    · -- the new element is the last node
      have hlength := size_grow (g := g) (.startTag t)
      simp only [added, List.length_singleton] at hlength
      omega

theorem Lineage.foldl (h : g.Lineage) (hs : g.Sound) (ps : List Piece) :
    (ps.foldl Growth.grow g).Lineage := by
  induction ps generalizing g with
  | nil => exact h
  | cons p ps ih => exact ih (h.grow hs p) (hs.grow p)

theorem lineage_ofPieces (f : Flavor) (ps : List Piece) : (ofPieces f ps).Lineage :=
  (lineage_start f).foldl (sound_start f) ps

theorem Lineage.open_of_child (h : g.Lineage) {i c : Nat} (hc : c ∈ g.document.children i)
    (hlt : i < c) {a : OpenElement} (ha : a ∈ g.opened) (hid : a.id = c) :
    ∃ b ∈ g.opened, b.id = i := by
  obtain ⟨front, rest, hsplit⟩ := List.append_of_mem ha
  have hsuffix : a :: rest <:+ g.opened := hsplit ▸ List.suffix_append _ _
  have hancestors := h.opened a rest hsuffix
  rw [hid, Document.ancestors_of_parent (Document.mem_children.1 hc) hlt] at hancestors
  cases rest with
  | nil => cases hancestors
  | cons b rest =>
    refine ⟨b, hsuffix.subset (by simp), ?_⟩
    exact (List.cons.inj hancestors).1.symm

/-- An element that is not open ends for good where it ends. -/
theorem Lineage.outerEnd_grow (h : g.Lineage) (hs : g.Sound) {i : Nat} (hi : i < g.nodes.size)
    (hopen : ∀ a ∈ g.opened, a.id ≠ i) (p : Piece) :
    (g.grow p).document.outerEnd i = g.document.outerEnd i := by
  refine @Document.outerEnd_congr_within _ _ _ (fun i => ∀ a ∈ g.opened, a.id ≠ i) ?_ hopen hi
  intro j hopen hj
  obtain ⟨hnodes, hchildren, -⟩ := closed_grow hs hj hopen p
  refine ⟨hnodes, hchildren, fun c hc hlt a ha hid => ?_⟩
  obtain ⟨b, hb, rfl⟩ := h.open_of_child hc hlt ha hid
  exact hopen b hb rfl

end Growth

namespace Document

theorem parent?_parse (f : Flavor) (text : String) (id : Nat) :
    (parse f text).parent? id =
      (Growth.ofPieces f (pieces f (stripMark text.toList).1)).document.parent? id := rfl

theorem ancestors_parse (f : Flavor) (text : String) (id : Nat) :
    (parse f text).ancestors id =
      (Growth.ofPieces f (pieces f (stripMark text.toList).1)).document.ancestors id :=
  ancestors_congr fun i _ => parent?_parse f text i

end Document
end MarkupSplice
