import MarkupSplice.Proofs.Markup.Balance
import MarkupSplice.Proofs.Plan.Ranges

/-!
# What a document records

A document records where its nodes and end tags stand, the names and values of
attributes, and what is wrong with the text (`Document.ranges`,
`Document.positions`). All of these are places of the text
(`inside_positions`), and no range ends in front of its start
(`ordered_ranges`).
-/
namespace MarkupSplice
open Markup Text

def Attribute.ranges (a : Attribute) : List Range := [a.nameRange, a.valueRange]

def Node.ranges (n : Node) : List Range :=
  n.regions ++ (n.element?.elim [] Element.attributes).flatMap Attribute.ranges

def Document.ranges (d : Document) : List Range := d.nodes.toList.flatMap Node.ranges

def Document.positions (d : Document) : List Position :=
  (d.ranges.flatMap fun r => [r.start, r.stop]) ++ d.issues.map Issue.position

namespace Growth

variable {g : Growth} {w : List Char}

theorem inside_attributeIssues (f : Flavor) (u : List Char) (seen : List String)
    (as : List WrittenAttribute) : ∀ i ∈ attributeIssues f (.advance .origin u) seen as,
      i.position.Inside (u ++ as.flatMap WrittenAttribute.source) := by
  induction as generalizing u seen with
  | nil => simp [attributeIssues]
  | cons a as ih =>
    have hstart : ((Position.origin.advance u).advance a.gap).Inside
        (u ++ (a :: as).flatMap WrittenAttribute.source) := by
      rw [← Position.advance_append, List.flatMap_cons, WrittenAttribute.source]
      simp only [List.append_assoc]
      rw [← List.append_assoc u]
      exact Position.inside_advance _ _
    intro i hi
    simp only [attributeIssues, List.mem_append] at hi
    rcases hi with (hcut | hrepeated) | hrest
    · split at hcut
      · rw [List.mem_singleton.1 hcut]
        exact hstart
      · cases hcut
    · split at hrepeated
      · rw [List.mem_singleton.1 hrepeated]
        exact hstart
      · cases hrepeated
    · rw [← Position.advance_append] at hrest
      rw [List.flatMap_cons, ← List.append_assoc]
      exact ih (u ++ a.source) _ i hrest

theorem inside_notesUnless {ok : Bool} {p : Position} {fault : Fault} {s : List Char}
    (hp : p.Inside s) : ∀ i ∈ notesUnless ok p fault, i.position.Inside s := by
  intro i hi
  rw [notesUnless] at hi
  split at hi
  · cases hi
  · rw [List.mem_singleton.1 hi]
    exact hp

theorem inside_tagNotes (hplace : g.place = .advance .origin w) (t : StartTag) :
    ∀ i ∈ g.tagNotes t, i.position.Inside (w ++ t.source) := by
  intro i hi
  rcases List.mem_append.1 hi with hi | hi
  · rw [hplace, ← Position.advance_append] at hi
    have hinside := inside_attributeIssues _ _ _ _ i hi
    have hsource : w ++ t.source = w ++ '<' :: t.name ++
        t.attributes.flatMap WrittenAttribute.source ++ (t.gap ++ t.closing.source) := by
      simp only [StartTag.source, List.append_assoc, List.cons_append]
    rw [hsource]
    exact Position.inside_append hinside
  · exact inside_notesUnless (hplace ▸ Position.inside_advance w _) i hi

theorem inside_notes (hplace : g.place = .advance .origin w) (p : Piece) :
    ∀ i ∈ g.notes p, i.position.Inside (w ++ p.source) := by
  have hstart : g.place.Inside (w ++ p.source) := hplace ▸ Position.inside_advance w _
  cases p with
  | text s => simp [notes]
  | startTag t => exact inside_tagNotes hplace t
  | verbatim t content close =>
    intro i hi
    rcases List.mem_append.1 hi with hi | hi
    · simp only [Piece.source, ← List.append_assoc]
      exact Position.inside_append (Position.inside_append (inside_tagNotes hplace t i hi))
    · cases close with
      | none =>
        rw [List.mem_singleton.1 hi, inside, hplace, ← Position.advance_append]
        simp only [Piece.source, ← List.append_assoc]
        exact Position.inside_append (Position.inside_advance _ _)
      | some e =>
        refine inside_notesUnless ?_ i hi
        rw [inside, hplace, ← Position.advance_append, ← Position.advance_append]
        simp only [Piece.source, ← List.append_assoc]
        exact Position.inside_advance _ _
  | endTag t =>
    intro i hi
    rcases List.mem_append.1 hi with hi | hi
    · exact inside_notesUnless hstart i hi
    · rw [closingNotes] at hi
      split at hi
      · rw [List.mem_singleton.1 hi]
        exact hstart
      · split at hi
        · obtain ⟨o, -, rfl⟩ := List.mem_map.1 hi
          exact hstart
        · cases hi
  | _ => exact inside_notesUnless hstart

structure Recorded (s : List Char) (g : Growth) : Prop where
  issues : ∀ i ∈ g.issues, i.position.Inside s
  opened : ∀ o ∈ g.opened, o.start.Inside s

theorem Recorded.grow (h : g.Recorded w) (hplace : g.place = .advance .origin w) (p : Piece) :
    (g.grow p).Recorded (w ++ p.source) := by
  constructor
  · intro i hi
    rw [issues_grow_eq] at hi
    rcases List.mem_append.1 hi with hi | hi
    · exact Position.inside_append (h.issues i hi)
    · exact inside_notes hplace p i hi
  · intro o ho
    rw [opened_grow] at ho
    have hold : ∀ o ∈ g.opened, o.start.Inside (w ++ p.source) :=
      fun o ho => Position.inside_append (h.opened o ho)
    cases p with
    | startTag t =>
      simp only [openedBy] at ho
      split at ho
      · rcases List.mem_cons.1 ho with rfl | ho
        · exact hplace ▸ Position.inside_advance w _
        · exact hold o ho
      · exact hold o ho
    | endTag t =>
      simp only [openedBy] at ho
      split at ho
      · exact hold o ho
      · exact hold o ((g.reopened_sublist t).subset (List.mem_of_mem_tail ho))
    | _ => exact hold o ho

theorem Recorded.foldl (h : g.Recorded w) (hplace : g.place = .advance .origin w)
    (ps : List Piece) : (ps.foldl Growth.grow g).Recorded (w ++ ps.flatMap Piece.source) := by
  induction ps generalizing g w with
  | nil => simpa using h
  | cons p ps ih =>
    rw [List.foldl_cons, List.flatMap_cons, ← List.append_assoc]
    apply ih (h.grow hplace p)
    rw [place_grow, hplace, Position.advance_append]

theorem recorded_ofPieces (f : Flavor) (ps : List Piece) :
    (ofPieces f ps).Recorded (ps.flatMap Piece.source) := by
  have hstart : (start f).Recorded [] := ⟨by simp [start], by simp [start]⟩
  exact hstart.foldl rfl ps

theorem mem_unclosed {i : Issue} (hi : i ∈ g.unclosed) : ∃ o ∈ g.opened, i.position = o.start := by
  rw [unclosed] at hi
  split at hi
  · obtain ⟨o, ho, rfl⟩ := List.mem_map.1 hi
    exact ⟨o, List.mem_reverse.1 ho, rfl⟩
  · cases hi

theorem mem_attributesOf {f : Flavor} {p : Position} {as : List WrittenAttribute} {a : Attribute}
    (h : a ∈ attributesOf f p as) : ∃ q w, a = attributeOf f q w := by
  induction as generalizing p with
  | nil => cases h
  | cons w as ih =>
    rcases List.mem_cons.1 h with rfl | h
    · exact ⟨_, _, rfl⟩
    · exact ih h

theorem ordered_attributeOf (f : Flavor) (p : Position) (w : WrittenAttribute) :
    ∀ r ∈ (attributeOf f p w).ranges, r.start.offset ≤ r.stop.offset := by
  intro r hr
  simp only [Attribute.ranges, List.mem_cons, List.not_mem_nil, or_false] at hr
  rcases hr with rfl | rfl
  · simp [attributeOf]
  · -- a value that is missing or empty stands at the end of the name
    simp only [attributeOf]
    split
    · exact Nat.le_refl _
    · split
      · exact Nat.le_refl _
      · simp

end Growth

namespace Document

variable {f : Flavor} {text : String}

theorem inside_issues {i : Issue} (hi : i ∈ (parse f text).issues) :
    i.position.Inside (stripMark text.toList).1 := by
  have hrecorded := Growth.recorded_ofPieces f (pieces f (stripMark text.toList).1)
  rw [source_pieces] at hrecorded
  rw [issues_parse] at hi
  rcases List.mem_append.1 hi with hi | hi
  · exact hrecorded.issues i hi
  · obtain ⟨o, ho, hposition⟩ := Growth.mem_unclosed hi
    exact hposition ▸ hrecorded.opened o ho

theorem ranges_cases {r : Range} (hr : r ∈ (parse f text).ranges) :
    r ∈ (parse f text).regions ∨ ∃ (i : Nat) (n : Node) (e : Element) (a : Attribute),
      (parse f text).nodes[i]? = some n ∧ n.element? = some e ∧ a ∈ e.attributes ∧
        r ∈ a.ranges := by
  obtain ⟨n, hn, hr⟩ := List.mem_flatMap.1 hr
  rcases List.mem_append.1 hr with hr | hr
  · exact Or.inl (List.mem_flatMap.2 ⟨n, hn, hr⟩)
  · obtain ⟨a, ha, hr⟩ := List.mem_flatMap.1 hr
    obtain ⟨i, hi⟩ := List.getElem?_of_mem hn
    rw [Array.getElem?_toList] at hi
    cases he : n.element? with
    | none =>
      rw [he] at ha
      cases ha
    | some e =>
      rw [he] at ha
      exact Or.inr ⟨i, n, e, a, hi, he, ha, hr⟩

theorem inside_ranges {r : Range} (hr : r ∈ (parse f text).ranges) :
    r.Inside (stripMark text.toList).1 := by
  rcases ranges_cases hr with hr | ⟨i, n, e, a, hn, he, ha, hr⟩
  · exact inside_region hr
  · obtain ⟨-, ⟨stops, hstops, -, hstands⟩, -⟩ := attribute_ranges_exact hn he
    rw [← hstops] at ha
    obtain ⟨p, hp, rfl⟩ := List.mem_map.1 ha
    simp only [Attribute.ranges, List.mem_cons, List.not_mem_nil, or_false] at hr
    rcases hr with rfl | rfl
    · exact (hstands p hp).1.nameInside
    · exact (hstands p hp).1.valueInside

theorem ordered_ranges {r : Range} (hr : r ∈ (parse f text).ranges) :
    r.start.offset ≤ r.stop.offset := by
  rcases ranges_cases hr with hr | ⟨i, n, e, a, hn, he, ha, hr⟩
  · obtain ⟨strays, -, htiles, -⟩ := tiles_parse f text
    refine Nat.le_of_lt (lt_of_mem_tiles htiles r ?_)
    rw [(List.mergeSort_perm _ _).mem_iff]
    exact List.mem_append_left _ hr
  · obtain ⟨x, -, hhead⟩ := exists_site_parse hn he
    rw [(x.attributes_of_head hhead rfl he).1] at ha
    obtain ⟨q, w, rfl⟩ := Growth.mem_attributesOf ha
    exact Growth.ordered_attributeOf f q w r hr

theorem inside_positions {p : Position} (hp : p ∈ (parse f text).positions) :
    p.Inside (stripMark text.toList).1 := by
  rcases List.mem_append.1 hp with hp | hp
  · obtain ⟨r, hr, hp⟩ := List.mem_flatMap.1 hp
    simp only [List.mem_cons, List.not_mem_nil, or_false] at hp
    rcases hp with rfl | rfl
    · exact (inside_ranges hr).start
    · exact (inside_ranges hr).stop
  · obtain ⟨i, hi, rfl⟩ := List.mem_map.1 hp
    exact inside_issues hi

end Document
end MarkupSplice
