import MarkupSplice.Proofs.Edit.Copying
import MarkupSplice.Proofs.Markup.Placement
import MarkupSplice.Proofs.Plan.Element

/-!
# Deleting what stands inside an element

What is deleted is a stretch of the text behind the start tag
(`edits_clearContent`), so that it never meets the edits of the tag.
-/
namespace MarkupSplice
open Markup Text

theorem exists_cut {a u : List Char} {p q : Position} (hp : p.Inside (a ++ u))
    (hq : q.Inside (a ++ u)) (hle : byteLength a ≤ p.offset) (hpq : p.offset ≤ q.offset) :
    ∃ front middle back, u = front ++ (middle ++ back) ∧
      p.offset = byteLength a + byteLength front ∧ q.offset = p.offset + byteLength middle := by
  obtain ⟨b, hb, rfl⟩ := hp
  obtain ⟨c, hc, rfl⟩ := hq
  simp only [Position.offset_advance_origin] at *
  obtain ⟨front, rfl⟩ := prefix_of_byteLength_le (List.prefix_append a u) hb hle
  obtain ⟨middle, rfl⟩ := prefix_of_byteLength_le hb hc hpq
  obtain ⟨back, hback⟩ := hc
  refine ⟨front, middle, back, ?_, byteLength_append _ _, byteLength_append _ _⟩
  simpa using hback.symm

namespace Plan

theorem clearContent_eq_some {d : Document} {id : Nat} {edit : Edit}
    (h : clearContent d id = some edit) :
    ∃ first last n, (d.children id).head? = some first ∧ (d.children id).getLast? = some last ∧
      d.nodes[first]? = some n ∧ n.range.start.offset < (d.outerEnd last).offset ∧
      edit = .delete n.range.start.offset (d.outerEnd last).offset := by
  obtain ⟨e, -, h⟩ := Option.bind_eq_some_iff.1 h
  split at h
  · cases h
  · obtain ⟨first, hfirst, h⟩ := Option.bind_eq_some_iff.1 h
    obtain ⟨last, hlast, h⟩ := Option.bind_eq_some_iff.1 h
    obtain ⟨n, hn, h⟩ := Option.bind_eq_some_iff.1 h
    dsimp only at h
    split at h
    · rename_i hlt
      exact ⟨first, last, n, hfirst, hlast, hn, hlt, (Option.some.inj h).symm⟩
    · cases h

end Plan

namespace Site

variable {f : Flavor} {text : String} (x : Site f (Document.stripMark text.toList).1) {n : Node}
  {e : Element}

theorem edits_clearContent (hn : (Document.parse f text).nodes[x.id]? = some n)
    (h : n.head = x.head) (he : n.element? = some e) :
    ∃ tail, Stretch.oldText tail = x.rest ∧
      Stretch.edits (x.delimiter + byteLength x.tag.closing.source) tail =
        (Plan.clearContent (Document.parse f text) x.id).toList := by
  cases hclear : Plan.clearContent (Document.parse f text) x.id with
  | none => exact ⟨[.keep x.rest], by simp [Stretch.keep], rfl⟩
  | some edit =>
    obtain ⟨first, last, m, hfirst, -, hm, hlt, rfl⟩ := Plan.clearContent_eq_some hclear
    have hstop := x.stop_of_head h he
    have hbehind := Document.child_behind hn hm (List.mem_of_mem_head? hfirst)
    have hstart := (Document.inside_region (Document.mem_regions hm List.mem_cons_self)).start
    have hend := Document.inside_outerEnd f text last
    have htext : (Document.stripMark text.toList).1 = x.front ++ x.tag.source ++ x.rest := by
      rw [List.append_assoc]
      exact x.source
    have hfront : byteLength (x.front ++ x.tag.source) =
        x.delimiter + byteLength x.tag.closing.source := by
      simp [delimiter, lead, StartTag.source, Nat.add_assoc]
    rw [htext] at hstart hend
    obtain ⟨front, middle, back, hrest, h1, h2⟩ :=
      exists_cut hstart hend (by omega) (Nat.le_of_lt hlt)
    rw [hfront] at h1
    refine ⟨[.keep front, .replace middle [], .keep back], ?_, ?_⟩
    · simp [Stretch.keep, Stretch.replace, hrest]
    · simp [h1, h2, Edit.delete]

theorem delimiter_lt_of_clearContent {tail : List Stretch} (hold : Stretch.oldText tail = x.rest)
    (hedits : Stretch.edits (x.delimiter + byteLength x.tag.closing.source) tail =
      (Plan.clearContent (Document.parse f text) x.id).toList) :
    ∀ edit ∈ Stretch.edits (x.delimiter + byteLength x.tag.closing.source) tail,
      x.delimiter < edit.start := by
  intro edit hedit
  have hbounds := Stretch.start_le_of_mem hedit
  rw [hold] at hbounds
  by_cases hclosing : x.tag.closing = .cutOff
  · -- the text ends with the tag, and so there is nothing to delete
    have hends := x.sound.ends
    rw [hclosing] at hends
    rw [hends.2, byteLength_nil] at hbounds
    rw [hedits, Option.mem_toList] at hedit
    obtain ⟨first, last, m, -, -, -, hlt, rfl⟩ := Plan.clearContent_eq_some hedit
    simp only [Edit.delete] at hbounds
    omega
  · have hpos := byteLength_pos (List.ne_nil_of_mem (mem_source_of_ne hclosing))
    omega

end Site
end MarkupSplice
