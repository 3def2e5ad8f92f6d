import MarkupSplice.Proofs.Edit.Acceptance

/-!
# What is left of a text

Applying edits replaces their stretches one after another in a text that
changes meanwhile. What comes out is a copy of the old text, from the front to
the end, in which the stretch of each scheduled edit is left out and its text
stands instead (`apply_of_schedule`).
-/
namespace MarkupSplice
open Text

namespace Text

def upTo (s : List Char) (n : Nat) : List Char := (cutBytes s n).elim [] Prod.fst

def slice (s : List Char) (a b : Nat) : List Char := (cutBytes (upTo s b) a).elim [] Prod.snd

variable {s : List Char} {a b : Nat}

theorem prefix_of_byteLength_le {x y : List Char} (hx : x <+: s) (hy : y <+: s)
    (hle : byteLength x ≤ byteLength y) : x <+: y := by
  rcases List.prefix_or_prefix_of_prefix hx hy with hxy | ⟨z, rfl⟩
  · exact hxy
  · cases z with
    | nil => simp
    | cons c z =>
      have hpos := c.utf8Size_pos
      simp only [byteLength_append, byteLength_cons] at hle
      omega

theorem isBoundary_iff : isBoundary s a = true ↔ ∃ x y, s = x ++ y ∧ a = byteLength x := by
  constructor
  · intro h
    obtain ⟨⟨x, y⟩, hcut⟩ := Option.isSome_iff_exists.1 h
    obtain ⟨hs, ha⟩ := append_of_cutBytes hcut
    exact ⟨x, y, hs.symm, ha.symm⟩
  · rintro ⟨x, y, rfl, rfl⟩
    rw [isBoundary, cutBytes_byteLength]
    rfl

theorem upTo_byteLength (x y : List Char) : upTo (x ++ y) (byteLength x) = x := by
  rw [upTo, cutBytes_byteLength]
  rfl

theorem slice_byteLength (x y z : List Char) :
    slice (x ++ y ++ z) (byteLength x) (byteLength (x ++ y)) = y := by
  rw [slice, upTo_byteLength, cutBytes_byteLength]
  rfl

theorem slice_eq {x y z : List Char} (hs : s = x ++ y ++ z) (ha : a = byteLength x)
    (hb : b = byteLength (x ++ y)) : slice s a b = y := by
  rw [hs, ha, hb, slice_byteLength]

theorem upTo_zero (s : List Char) : upTo s 0 = [] := upTo_byteLength [] s

theorem upTo_length (s : List Char) : upTo s (byteLength s) = s := by
  simpa using upTo_byteLength s []

theorem byteLength_upTo (h : isBoundary s a = true) : byteLength (upTo s a) = a := by
  obtain ⟨x, y, rfl, rfl⟩ := isBoundary_iff.1 h
  rw [upTo_byteLength]

theorem isBoundary_length (s : List Char) : isBoundary s (byteLength s) = true :=
  isBoundary_iff.2 ⟨s, [], (List.append_nil s).symm, rfl⟩

theorem le_of_isBoundary (h : isBoundary s a = true) : a ≤ byteLength s := by
  obtain ⟨x, y, rfl, rfl⟩ := isBoundary_iff.1 h
  rw [byteLength_append]
  exact Nat.le_add_right _ _

theorem cutBytes_upTo (h : isBoundary s a = true) (u : List Char) :
    cutBytes (upTo s a ++ u) a = some (upTo s a, u) := by
  obtain ⟨x, y, rfl, rfl⟩ := isBoundary_iff.1 h
  rw [upTo_byteLength, cutBytes_byteLength]

theorem upTo_append_slice (ha : isBoundary s a = true) (hb : isBoundary s b = true)
    (hle : a ≤ b) : upTo s a ++ slice s a b = upTo s b := by
  obtain ⟨x, y, rfl, rfl⟩ := isBoundary_iff.1 hb
  have hprefix : isBoundary x a = true := by
    -- what ends at `a` is a prefix of what ends at `b`, since it is not longer
    obtain ⟨x', y', hs, rfl⟩ := isBoundary_iff.1 ha
    obtain ⟨z, rfl⟩ := prefix_of_byteLength_le ⟨y', hs.symm⟩ (List.prefix_append x y) hle
    exact isBoundary_iff.2 ⟨x', z, rfl, rfl⟩
  obtain ⟨x', z, rfl, rfl⟩ := isBoundary_iff.1 hprefix
  rw [upTo_byteLength, slice_byteLength, List.append_assoc, upTo_byteLength]

theorem slice_append_slice {c : Nat} (ha : isBoundary s a = true) (hb : isBoundary s b = true)
    (hc : isBoundary s c = true) (hab : a ≤ b) (hbc : b ≤ c) :
    slice s a b ++ slice s b c = slice s a c := by
  apply (List.append_right_inj (upTo s a)).1
  rw [← List.append_assoc, upTo_append_slice ha hb hab, upTo_append_slice hb hc hbc,
    upTo_append_slice ha hc (Nat.le_trans hab hbc)]

end Text

namespace Edit

/-- The text from an offset on, copied but for the stretches of the edits, which lie in order. -/
def copied (s : List Char) (n : Nat) : List Edit → List Char
  | [] => slice s n (byteLength s)
  | e :: es => slice s n e.start ++ e.text.toList ++ copied s e.stop es

theorem splice_upTo {s : List Char} {e : Edit} (he : e.Fits s) (u : List Char) :
    splice (upTo s e.stop ++ u) e = upTo s e.start ++ e.text.toList ++ u := by
  have hsplit := upTo_append_slice he.start he.stop he.ordered
  have hstart : cutBytes (upTo s e.stop ++ u) e.start =
      some (upTo s e.start, slice s e.start e.stop ++ u) := by
    rw [← hsplit, List.append_assoc, cutBytes_upTo he.start]
  have hstop : cutBytes (upTo s e.stop ++ u) e.stop = some (upTo s e.stop, u) :=
    cutBytes_upTo he.stop u
  simp only [splice, hstart, hstop]

theorem foldr_splice {s : List Char} {es : List Edit} (hfits : ∀ e ∈ es, e.Fits s)
    (hes : es.Pairwise fun a b => a.start < b.start ∧ a.stop ≤ b.start) {n : Nat}
    (hn : isBoundary s n = true) (hle : ∀ e ∈ es.head?, n ≤ e.start) :
    es.foldr (fun e t => splice t e) s = upTo s n ++ copied s n es := by
  induction es generalizing n with
  | nil =>
    rw [List.foldr_nil, copied,
      upTo_append_slice hn (isBoundary_length s) (le_of_isBoundary hn), upTo_length]
  | cons e es ih =>
    obtain ⟨hbehind, hes⟩ := List.pairwise_cons.1 hes
    have he := hfits e List.mem_cons_self
    have hrest := ih (fun e' he' => hfits e' (List.mem_cons_of_mem _ he')) hes he.stop
      fun e' he' => (hbehind e' (List.mem_of_mem_head? he')).2
    rw [List.foldr_cons, hrest, splice_upTo he, copied,
      ← upTo_append_slice hn he.start (hle e rfl)]
    simp only [List.append_assoc]

theorem fits_of_schedule {s : List Char} {es scheduled : List Edit}
    (h : schedule s es = .ok scheduled) : ∀ e ∈ scheduled, e.Fits s := by
  intro e he
  obtain ⟨-, e', he', hinterval⟩ := (taken_of_schedule h).mem (List.mem_reverse.2 he)
  obtain ⟨hordered, hinside, hstart, hstop⟩ := (schedule_eq_ok.1 h).1 e' he'
  obtain ⟨h1, h2⟩ := Prod.mk.inj hinterval
  exact ⟨by omega, by omega, by rwa [h1], by rwa [h2]⟩

/-- Scheduled edits lie apart, each in front of the one scheduled before it, and the text with
them applied is the old one copied around them. -/
theorem apply_of_schedule {s : List Char} {es scheduled : List Edit}
    (h : schedule s es = .ok scheduled) :
    (∀ e ∈ scheduled, e.Fits s) ∧
      (scheduled.Pairwise fun a b => b.start < a.start ∧ b.stop ≤ a.start) ∧
      apply s es = .ok (copied s 0 scheduled.reverse) := by
  have htaken := taken_of_schedule h
  have hfits := fits_of_schedule h
  have hcopied := foldr_splice (fun e he => hfits e (List.mem_reverse.1 he)) htaken.ordered
    (n := 0) (isBoundary_iff.2 ⟨[], s, rfl, rfl⟩) (fun e _ => Nat.zero_le _)
  rw [List.foldr_reverse, upTo_zero, List.nil_append] at hcopied
  refine ⟨hfits, List.pairwise_reverse.1 htaken.ordered, ?_⟩
  simp only [apply, h]
  exact congrArg Except.ok hcopied

theorem apply_of_schedule_adjacent :
    (∀ e ∈ [(⟨1, 3, "x"⟩ : Edit), ⟨0, 1, ""⟩], e.Fits "abcd".toList) ∧
      ([(⟨1, 3, "x"⟩ : Edit), ⟨0, 1, ""⟩].Pairwise fun a b => b.start < a.start ∧ b.stop ≤ a.start) ∧
      apply "abcd".toList [⟨0, 1, ""⟩, ⟨1, 3, "x"⟩, ⟨0, 1, ""⟩] = .ok "xd".toList :=
  @apply_of_schedule _ _ [⟨1, 3, "x"⟩, ⟨0, 1, ""⟩] (by rfl)

end Edit
end MarkupSplice
