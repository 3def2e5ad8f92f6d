import MarkupSplice.Proofs.Edit.Shift

/-!
# Edits moved with their text

With a part put in front of a text and all edits moved behind it, every step of
their application does what it did before: an edit is refused, joined or spliced
in as it was, further on by the length of that part (`apply_shift`). A
byte-order mark is such a part (`applyEdits_mark`).
-/
namespace MarkupSplice
open Text

def EditError.shift (n : Nat) : EditError → EditError
  | .invalidRange start stop length => .invalidRange (start + n) (stop + n) (length + n)
  | .notBoundary offset => .notBoundary (offset + n)
  | .conflict (a, b) (c, d) => .conflict (a + n, b + n) (c + n, d + n)
  | .crossesStartTag start stop boundary => .crossesStartTag (start + n) (stop + n) (boundary + n)

namespace Edit

variable {s w : List Char} {n : Nat} {e : Edit} {es taken : List Edit}

theorem cutBytes_append (w s : List Char) (n : Nat) :
    cutBytes (w ++ s) (n + byteLength w) = (cutBytes s n).map fun (a, b) => (w ++ a, b) := by
  induction w with
  | nil => cases h : cutBytes s n <;> simp [h]
  | cons c w ih =>
    have hc := c.utf8Size_pos
    obtain ⟨m, hm⟩ : ∃ m, n + byteLength (c :: w) = m + 1 :=
      ⟨n + byteLength (c :: w) - 1, by simp only [byteLength_cons]; omega⟩
    have hrest : m + 1 - c.utf8Size = n + byteLength w := by
      simp only [byteLength_cons] at hm
      omega
    have hfits : c.utf8Size ≤ m + 1 := by
      simp only [byteLength_cons] at hm
      omega
    rw [hm, List.cons_append, cutBytes, if_pos hfits, hrest, ih, Option.map_map]
    rfl

theorem validate_shift (w s : List Char) (e : Edit) :
    validate (w ++ s) (e.shift (byteLength w)) =
      (validate s e).mapError (EditError.shift (byteLength w)) := by
  have hrange : (e.start + byteLength w > e.stop + byteLength w ∨
      e.stop + byteLength w > byteLength w + byteLength s) ↔
        (e.start > e.stop ∨ e.stop > byteLength s) := by omega
  simp only [validate, start_shift, stop_shift, byteLength_append, isBoundary_append, hrange]
  split_ifs
  · rw [Except.mapError, EditError.shift, Nat.add_comm (byteLength w)]
  all_goals rfl

theorem forM_validate_shift (w s : List Char) (es : List Edit) :
    (es.map (shift (byteLength w))).forM (validate (w ++ s)) =
      (es.forM (validate s)).mapError (EditError.shift (byteLength w)) := by
  induction es with
  | nil => rfl
  | cons e es ih =>
    change (do
        validate (w ++ s) (e.shift (byteLength w))
        (es.map (shift (byteLength w))).forM (validate (w ++ s))) =
      (do validate s e; es.forM (validate s)).mapError (EditError.shift (byteLength w))
    rw [validate_shift, ih]
    cases validate s e with
    | error err => rfl
    | ok _ => rfl

theorem place_shift (n : Nat) (e : Edit) (es : List Edit) :
    place (e.shift n) (es.map (shift n)) = (place e es).map (shift n) := by
  induction es with
  | nil => rfl
  | cons e' es ih =>
    rw [List.map_cons, place, place, ih]
    simp only [start_shift, Nat.add_le_add_iff_right]
    split_ifs with h
    · rfl
    · rfl

theorem descending_shift (n : Nat) (es : List Edit) :
    descending (es.map (shift n)) = (descending es).map (shift n) := by
  induction es with
  | nil => rfl
  | cons e es ih => exact (congrArg (place (e.shift n)) ih).trans (place_shift n e _)

theorem take_shift (n : Nat) (taken : List Edit) (e : Edit) :
    take (taken.map (shift n)) (e.shift n) =
      ((take taken e).map (List.map (shift n))).mapError (EditError.shift n) := by
  cases taken with
  | nil => rfl
  | cons last rest =>
    simp only [take, List.map_cons, start_shift, stop_shift, isInsertion_shift, shift_inj,
      Nat.add_right_cancel_iff, gt_iff_lt, Nat.add_lt_add_iff_right]
    split_ifs
    all_goals rfl

theorem foldlM_take_shift (n : Nat) (es taken : List Edit) :
    (es.map (shift n)).foldlM take (taken.map (shift n)) =
      ((es.foldlM take taken).map (List.map (shift n))).mapError (EditError.shift n) := by
  induction es generalizing taken with
  | nil => rfl
  | cons e es ih =>
    rw [List.map_cons, List.foldlM_cons, List.foldlM_cons, take_shift]
    cases take taken e with
    | error err => rfl
    | ok taken' => exact ih taken'

theorem schedule_shift (w s : List Char) (es : List Edit) :
    schedule (w ++ s) (es.map (shift (byteLength w))) =
      ((schedule s es).map (List.map (shift (byteLength w)))).mapError
        (EditError.shift (byteLength w)) := by
  have htake := foldlM_take_shift (byteLength w) (descending es) []
  rw [schedule, schedule, forM_validate_shift, descending_shift]
  rw [List.map_nil] at htake
  cases es.forM (validate s) with
  | error err => rfl
  | ok _ =>
    cases hfold : (descending es).foldlM take [] with
    | error err =>
      rw [hfold] at htake
      exact congrArg (·.map List.reverse) htake
    | ok taken =>
      rw [hfold] at htake
      refine (congrArg (·.map List.reverse) htake).trans ?_
      exact congrArg Except.ok List.map_reverse.symm

theorem splice_shift (w s : List Char) (e : Edit) :
    splice (w ++ s) (e.shift (byteLength w)) = w ++ splice s e := by
  simp only [splice, start_shift, stop_shift, cutBytes_append]
  cases cutBytes s e.start with
  | none => rfl
  | some before =>
    cases cutBytes s e.stop with
    | none => rfl
    | some behind => simp [shift]

theorem foldl_splice_shift (w s : List Char) (es : List Edit) :
    (es.map (shift (byteLength w))).foldl splice (w ++ s) = w ++ es.foldl splice s := by
  induction es generalizing s with
  | nil => rfl
  | cons e es ih =>
    rw [List.map_cons, List.foldl_cons, List.foldl_cons, splice_shift]
    exact ih (splice s e)

theorem apply_shift (w s : List Char) (es : List Edit) :
    apply (w ++ s) (es.map (shift (byteLength w))) =
      ((apply s es).map (w ++ ·)).mapError (EditError.shift (byteLength w)) := by
  rw [apply, apply, schedule_shift]
  cases schedule s es with
  | error err => rfl
  | ok scheduled => exact congrArg Except.ok (foldl_splice_shift w s scheduled)

end Edit

def marked (text : String) : String := "\ufeff" ++ text

theorem toList_marked (text : String) : (marked text).toList = '\ufeff' :: text.toList := by
  rw [marked, String.toList_append]
  rfl

theorem applyEdits_mark {text : String} (h : text.toList.head? ≠ some '\ufeff') (es : List Edit) :
    applyEdits (marked text) (Edit.shiftPastMark (marked text).toList es) =
      ((applyEdits text (Edit.shiftPastMark text.toList es)).map marked).mapError
        (EditError.shift Edit.markLength) := by
  have hplain : Edit.shiftPastMark text.toList es = es := if_neg h
  have hmarked : Edit.shiftPastMark (marked text).toList es = es.map (Edit.shift Edit.markLength) := by
    rw [toList_marked]
    exact if_pos rfl
  rw [hplain, hmarked, applyEdits, applyEdits, toList_marked]
  have happly := Edit.apply_shift ['\ufeff'] text.toList es
  rw [show byteLength ['\ufeff'] = Edit.markLength from rfl] at happly
  rw [show '\ufeff' :: text.toList = ['\ufeff'] ++ text.toList from rfl, happly]
  cases Edit.apply text.toList es with
  | error err => rfl
  | ok out =>
    refine congrArg Except.ok ?_
    rw [← String.toList_inj, toList_marked, String.toList_ofList, String.toList_ofList]
    rfl

end MarkupSplice
