import MarkupSplice.Proofs.Edit.Copying
import MarkupSplice.Proofs.Edit.Stretch

/-!
# Edits behind a mark

Edits that are moved behind a part in front of a text fit there, and go
together, as they did before. Whatever edits are applied, the text is cut into
stretches by the planned ones, and all that is not in one of these is kept
(`exists_stretches_of_applyEdits`). Edits that fit are refused only because two
of them are in conflict (`conflict_iff`).
-/
namespace MarkupSplice
open Text

namespace Edit

variable {s w : List Char} {n : Nat} {a b e : Edit} {es : List Edit}

@[simp] theorem start_shift (n : Nat) (e : Edit) : (e.shift n).start = e.start + n := rfl

@[simp] theorem stop_shift (n : Nat) (e : Edit) : (e.shift n).stop = e.stop + n := rfl

@[simp] theorem isInsertion_shift (n : Nat) (e : Edit) :
    (e.shift n).isInsertion = e.isInsertion := by
  simp [isInsertion]

theorem shift_inj : a.shift n = b.shift n ↔ a = b := by
  obtain ⟨start, stop, text⟩ := a
  obtain ⟨start', stop', text'⟩ := b
  simp [shift]

theorem isBoundary_append : isBoundary (w ++ s) (n + byteLength w) = isBoundary s n := by
  rw [Bool.eq_iff_iff, isBoundary_iff, isBoundary_iff]
  constructor
  · rintro ⟨x, y, hs, hn⟩
    obtain ⟨z, rfl⟩ : w <+: x :=
      prefix_of_byteLength_le (List.prefix_append w s) ⟨y, hs.symm⟩ (by omega)
    rw [List.append_assoc] at hs
    rw [byteLength_append] at hn
    exact ⟨z, y, List.append_cancel_left hs, by omega⟩
  · rintro ⟨x, y, rfl, rfl⟩
    exact ⟨w ++ x, y, (List.append_assoc w x y).symm, by rw [byteLength_append, Nat.add_comm]⟩

theorem fits_shift : (e.shift (byteLength w)).Fits (w ++ s) ↔ e.Fits s := by
  constructor
  · rintro ⟨hordered, hinside, hstart, hstop⟩
    simp only [start_shift, stop_shift, byteLength_append, isBoundary_append] at *
    exact ⟨by omega, by omega, hstart, hstop⟩
  · rintro ⟨hordered, hinside, hstart, hstop⟩
    constructor
    · simpa using hordered
    · simp only [stop_shift, byteLength_append]
      omega
    · simpa [isBoundary_append] using hstart
    · simpa [isBoundary_append] using hstop

theorem compatible_shift : Compatible (a.shift n) (b.shift n) ↔ Compatible a b := by
  simp [Compatible, shift_inj]

theorem take_error {taken : List Edit} {err : EditError} (h : take taken e = .error err) :
    ∃ p q, err = .conflict p q := by
  cases taken with
  | nil => cases h
  | cons last rest =>
    simp only [take] at h
    split at h
    · split at h
      · cases h
      · split at h
        · cases h
        · exact ⟨_, _, (Except.error.inj h).symm⟩
    · split at h
      · exact ⟨_, _, (Except.error.inj h).symm⟩
      · cases h

theorem foldlM_take_error {taken : List Edit} {err : EditError}
    (h : es.foldlM take taken = Except.error err) : ∃ p q, err = .conflict p q := by
  induction es generalizing taken with
  | nil => cases h
  | cons e es ih =>
    rw [List.foldlM_cons] at h
    cases htake : take taken e with
    | error err' =>
      rw [htake] at h
      obtain rfl := Except.error.inj h
      exact take_error htake
    | ok next =>
      rw [htake] at h
      exact ih h

theorem schedule_error {err : EditError} (hfits : ∀ e ∈ es, e.Fits s)
    (h : schedule s es = .error err) : ∃ p q, err = .conflict p q := by
  simp only [schedule, forM_validate_iff.2 hfits] at h
  cases hfold : (descending es).foldlM take [] with
  | ok taken =>
    rw [hfold] at h
    cases h
  | error err' =>
    rw [hfold] at h
    obtain rfl := Except.error.inj h
    exact foldlM_take_error hfold

theorem conflict_iff (hfits : ∀ e ∈ es, e.Fits s) :
    (∃ p q, schedule s es = .error (.conflict p q)) ↔ ∃ a ∈ es, ∃ b ∈ es, ¬Compatible a b := by
  have hiff : (∃ scheduled, schedule s es = .ok scheduled) ↔ ∀ a ∈ es, ∀ b ∈ es, Compatible a b :=
    exists_schedule_iff.trans (and_iff_right hfits)
  constructor
  · rintro ⟨p, q, h⟩
    by_contra hall
    push Not at hall
    obtain ⟨scheduled, hok⟩ := hiff.2 hall
    rw [h] at hok
    cases hok
  · rintro ⟨a, ha, b, hb, hnot⟩
    cases h : schedule s es with
    | ok scheduled => exact absurd (hiff.1 ⟨scheduled, h⟩ a ha b hb) hnot
    | error err =>
      obtain ⟨p, q, rfl⟩ := schedule_error hfits h
      exact ⟨p, q, rfl⟩

section Mark

variable {text : String}

theorem fits_shiftPastMark (h : ∀ e ∈ es, e.Fits (Document.stripMark text.toList).1) :
    ∀ e ∈ shiftPastMark text.toList es, e.Fits text.toList := by
  rw [Stretch.shiftPastMark_eq]
  intro e he
  obtain ⟨e', he', rfl⟩ := List.mem_map.1 he
  have hfits := fits_shift (w := Stretch.mark text.toList).2 (h e' he')
  rwa [Stretch.mark_append] at hfits

theorem compatible_shiftPastMark_iff :
    (∀ a ∈ shiftPastMark text.toList es, ∀ b ∈ shiftPastMark text.toList es, Compatible a b) ↔
      ∀ a ∈ es, ∀ b ∈ es, Compatible a b := by
  rw [Stretch.shiftPastMark_eq]
  simp only [List.forall_mem_map, compatible_shift]

theorem exists_schedule_shiftPastMark (hfits : ∀ e ∈ es, e.Fits (Document.stripMark text.toList).1)
    (h : ∀ a ∈ es, ∀ b ∈ es, Compatible a b) :
    ∃ scheduled, schedule text.toList (shiftPastMark text.toList es) = .ok scheduled :=
  exists_schedule_iff.2 ⟨fits_shiftPastMark hfits, compatible_shiftPastMark_iff.2 h⟩

theorem conflict_shiftPastMark_iff
    (hfits : ∀ e ∈ es, e.Fits (Document.stripMark text.toList).1) :
    (∃ p q, schedule text.toList (shiftPastMark text.toList es) = .error (.conflict p q)) ↔
      ∃ a ∈ es, ∃ b ∈ es, ¬Compatible a b := by
  have hnot := not_congr (@compatible_shiftPastMark_iff es text)
  push Not at hnot
  rw [conflict_iff (fits_shiftPastMark hfits), hnot]

end Mark

theorem exists_stretches {pre : List Char} (hfits : ∀ e ∈ es, e.Fits (pre ++ s))
    (hes : es.Pairwise fun a b => a.stop ≤ b.start) (hle : ∀ e ∈ es, byteLength pre ≤ e.start) :
    ∃ xs, Stretch.oldText xs = s ∧ Stretch.edits (byteLength pre) xs = es := by
  induction es generalizing pre s with
  | nil => exact ⟨[.keep s], by simp [Stretch.keep], rfl⟩
  | cons e es ih =>
    obtain ⟨hbehind, hes⟩ := List.pairwise_cons.1 hes
    obtain ⟨hordered, hinside, hstart, hstop⟩ := hfits e List.mem_cons_self
    have hpre := hle e List.mem_cons_self
    obtain ⟨x, y, hx, hxlen⟩ := isBoundary_iff.1 hstart
    obtain ⟨front, rfl⟩ := prefix_of_byteLength_le (List.prefix_append pre s) ⟨y, hx.symm⟩
      (hxlen ▸ hpre)
    obtain ⟨z, u, hz, hzlen⟩ := isBoundary_iff.1 hstop
    obtain ⟨middle, rfl⟩ := prefix_of_byteLength_le ⟨y, hx.symm⟩ ⟨u, hz.symm⟩
      (hxlen ▸ hzlen ▸ hordered)
    have hs : s = front ++ (middle ++ u) := by simpa using hz
    obtain ⟨xs, hold, hedits⟩ := @ih u (pre ++ front ++ middle)
      (fun e' he' => hz ▸ hfits e' (List.mem_cons_of_mem _ he')) hes
      (fun e' he' => hzlen ▸ hbehind e' he')
    refine ⟨.keep front :: .replace middle e.text.toList :: xs, ?_, ?_⟩
    · simp [Stretch.keep, Stretch.replace, hold, hs]
    · obtain ⟨start, stop, text⟩ := e
      simp only [byteLength_append] at hxlen hzlen hedits
      simp [hedits, hxlen, hzlen]

theorem schedule_of_applyEdits {text out : String} (h : applyEdits text es = .ok out) :
    ∃ scheduled, schedule text.toList es = .ok scheduled ∧
      out.toList = scheduled.foldl splice text.toList := by
  simp only [applyEdits, apply] at h
  cases hschedule : schedule text.toList es with
  | error err =>
    rw [hschedule] at h
    cases h
  | ok scheduled =>
    rw [hschedule] at h
    obtain rfl := Except.ok.inj h
    exact ⟨scheduled, rfl, String.toList_ofList⟩

theorem exists_stretches_of_applyEdits {text out : String}
    (h : applyEdits text (shiftPastMark text.toList es) = .ok out) :
    ∃ xs, (Document.stripMark text.toList).1 = Stretch.oldText xs ∧
      out.toList = Stretch.mark text.toList ++ Stretch.newText xs ∧
      ∀ e ∈ Stretch.edits 0 xs, ∃ e' ∈ es, e.interval = e'.interval := by
  obtain ⟨scheduled, hschedule, hout⟩ := schedule_of_applyEdits h
  have hmark := Stretch.mark_append text.toList
  have htaken := taken_of_schedule hschedule
  have hmem : ∀ e ∈ scheduled.reverse, ∃ e' ∈ es,
      e.interval = (e'.shift (byteLength (Stretch.mark text.toList))).interval := by
    intro e he
    obtain ⟨-, e', he', hinterval⟩ := htaken.mem he
    rw [Stretch.shiftPastMark_eq] at he'
    obtain ⟨e'', he'', rfl⟩ := List.mem_map.1 he'
    exact ⟨e'', he'', hinterval⟩
  obtain ⟨xs, hold, hedits⟩ := exists_stretches (s := (Document.stripMark text.toList).1)
    (fun e he => hmark.symm ▸ fits_of_schedule hschedule e (List.mem_reverse.1 he))
    (htaken.ordered.imp fun hab => hab.2) (fun e he => by
      obtain ⟨e', -, hinterval⟩ := hmem e he
      have hstart : e.start = e'.start + _ := congrArg Prod.fst hinterval
      omega)
  have hsplice := Stretch.foldl_splice (Stretch.mark text.toList) xs
  rw [hedits, List.reverse_reverse, hold, hmark] at hsplice
  refine ⟨xs, hold.symm, hout.trans hsplice, fun e he => ?_⟩
  have hshift := Stretch.edits_shift 0 (byteLength (Stretch.mark text.toList)) xs
  rw [Nat.zero_add, hedits] at hshift
  obtain ⟨e', he', hinterval⟩ := hmem (e.shift _) (hshift ▸ List.mem_map_of_mem he)
  refine ⟨e', he', ?_⟩
  simpa [interval] using hinterval

end Edit
end MarkupSplice
