import Mathlib.Data.List.Induction
import Mathlib.Data.List.TakeWhile
import MarkupSplice.Edit

/-!
# Schedules of separate edits

Sorting edits by start is stable, so the order of edits with different starts
does not matter (`descending_congr`). Edits that lie one behind another,
insertions at one place among them, are never in conflict: the schedule does
to a text what the edits do one by one, the last one first (`apply_of_before`).
-/
namespace MarkupSplice.Edit
open Text

def startingAt (o : Nat) (es : List Edit) : List Edit := es.filter fun e => e.start == o

structure Before (a b : Edit) : Prop where
  stop : a.stop ≤ b.start
  distinct : a.start = b.start → b.stop = b.start ∧ ¬a.text.toList <+: b.text.toList

theorem place_perm (e : Edit) (es : List Edit) : (place e es).Perm (e :: es) := by
  induction es with
  | nil => exact List.Perm.refl _
  | cons e' es ih =>
    simp only [place]
    split
    · exact List.Perm.refl _
    · exact (ih.cons e').trans (List.Perm.swap e e' es)

theorem sorted_place {e : Edit} {es : List Edit} (h : es.Pairwise fun a b => b.start ≤ a.start) :
    (place e es).Pairwise fun a b => b.start ≤ a.start := by
  induction es with
  | nil => simp [place]
  | cons e' es ih =>
    obtain ⟨hhead, htail⟩ := List.pairwise_cons.1 h
    simp only [place]
    split
    · rename_i hle
      refine List.pairwise_cons.2 ⟨?_, h⟩
      intro b hb
      rcases List.mem_cons.1 hb with rfl | hb
      · exact hle
      · exact Nat.le_trans (hhead b hb) hle
    · rename_i hgt
      refine List.pairwise_cons.2 ⟨?_, ih htail⟩
      intro b hb
      rcases List.mem_cons.1 ((place_perm e es).subset hb) with rfl | hb
      · omega
      · exact hhead b hb

theorem sorted_descending (es : List Edit) :
    (descending es).Pairwise fun a b => b.start ≤ a.start := by
  induction es with
  | nil => exact List.Pairwise.nil
  | cons e es ih => exact sorted_place ih

theorem startingAt_place (o : Nat) (e : Edit) (es : List Edit) :
    startingAt o (place e es) = startingAt o (e :: es) := by
  induction es with
  | nil => rfl
  | cons e' es ih =>
    simp only [place]
    split
    · rfl
    · rename_i hgt
      simp only [startingAt, List.filter_cons] at ih ⊢
      rw [ih]
      by_cases he : e.start = o
      · have he' : e'.start ≠ o := by omega
        simp [he, he']
      · simp [he]

theorem startingAt_descending (o : Nat) (es : List Edit) :
    startingAt o (descending es) = startingAt o es := by
  induction es with
  | nil => rfl
  | cons e es ih =>
    rw [descending, List.foldr_cons, startingAt_place]
    simp only [startingAt, List.filter_cons]
    exact congrArg (fun l => if (e.start == o) = true then e :: l else l) ih

theorem startingAt_append (o : Nat) (as bs : List Edit) :
    startingAt o (as ++ bs) = startingAt o as ++ startingAt o bs := List.filter_append as bs

theorem startingAt_eq_nil {o : Nat} {es : List Edit} (h : ∀ e ∈ es, e.start ≠ o) :
    startingAt o es = [] :=
  List.filter_eq_nil_iff.2 fun e he => by simpa using h e he

theorem startingAt_eq_self {o : Nat} {es : List Edit} (h : ∀ e ∈ es, e.start = o) :
    startingAt o es = es :=
  List.filter_eq_self.2 fun e he => by simpa using h e he

theorem eq_of_pairwise_false {α : Type} {as bs : List α} (ha : as.Pairwise fun _ _ => False)
    (hb : bs.Pairwise fun _ _ => False) (h : ∀ a, a ∈ as ↔ a ∈ bs) : as = bs := by
  cases as with
  | nil =>
    cases bs with
    | nil => rfl
    | cons b bs => exact absurd ((h b).2 List.mem_cons_self) List.not_mem_nil
  | cons a as =>
    cases as with
    | cons a' as => exact ((List.pairwise_cons.1 ha).1 a' List.mem_cons_self).elim
    | nil =>
      have hmem := (h a).1 List.mem_cons_self
      cases bs with
      | nil => cases hmem
      | cons b bs =>
        cases bs with
        | cons b' bs => exact ((List.pairwise_cons.1 hb).1 b' List.mem_cons_self).elim
        | nil => rw [List.mem_singleton.1 hmem]

theorem startingAt_congr {o : Nat} {as bs : List Edit}
    (ha : as.Pairwise fun p q => p.start = q.start → p.start ≠ o)
    (hb : bs.Pairwise fun p q => p.start = q.start → p.start ≠ o)
    (h : ∀ e : Edit, e.start = o → (e ∈ as ↔ e ∈ bs)) : startingAt o as = startingAt o bs := by
  have hpairwise : ∀ {es : List Edit}, (es.Pairwise fun p q => p.start = q.start → p.start ≠ o) →
      (startingAt o es).Pairwise fun _ _ => False := by
    intro es hes
    refine List.pairwise_filter.2 (hes.imp fun {p q} hpq hp hq => ?_)
    rw [beq_iff_eq] at hp hq
    exact hpq (hp.trans hq.symm) hp
  apply eq_of_pairwise_false (hpairwise ha) (hpairwise hb)
  intro e
  simp only [startingAt, List.mem_filter, beq_iff_eq]
  constructor
  · rintro ⟨hmem, hstart⟩
    exact ⟨(h e hstart).1 hmem, hstart⟩
  · rintro ⟨hmem, hstart⟩
    exact ⟨(h e hstart).2 hmem, hstart⟩

theorem mem_startingAt {e : Edit} {es : List Edit} : e ∈ startingAt e.start es ↔ e ∈ es := by
  simp [startingAt]

theorem eq_of_sorted {as bs : List Edit} (ha : as.Pairwise fun a b => b.start ≤ a.start)
    (hb : bs.Pairwise fun a b => b.start ≤ a.start)
    (h : ∀ o, startingAt o as = startingAt o bs) : as = bs := by
  induction as generalizing bs with
  | nil =>
    cases bs with
    | nil => rfl
    | cons b bs =>
      have hmem := mem_startingAt.2 (List.mem_cons_self (a := b) (l := bs))
      rw [← h] at hmem
      cases hmem
  | cons a as ih =>
    obtain ⟨ha', hamem⟩ := List.pairwise_cons.1 ha
    have hin : a ∈ bs := mem_startingAt.1 (h a.start ▸ mem_startingAt.2 List.mem_cons_self)
    cases bs with
    | nil => cases hin
    | cons b bs =>
      obtain ⟨hb', hbmem⟩ := List.pairwise_cons.1 hb
      have hin' : b ∈ a :: as := mem_startingAt.1 (h b.start ▸ mem_startingAt.2 List.mem_cons_self)
      have hstart : a.start = b.start := by
        apply Nat.le_antisymm
        · rcases List.mem_cons.1 hin with rfl | hin
          · exact Nat.le_refl _
          · exact hb' a hin
        · rcases List.mem_cons.1 hin' with rfl | hin'
          · exact Nat.le_refl _
          · exact ha' b hin'
      obtain ⟨rfl, -⟩ : a = b ∧ _ := by
        have hhead := h a.start
        simpa [startingAt, hstart] using hhead
      congr 1
      apply ih hamem hbmem
      intro o
      have htail := h o
      by_cases ho : a.start = o
      · simpa [startingAt, ho] using htail
      · simpa [startingAt, ho] using htail

theorem descending_congr {es es' : List Edit} (h : ∀ o, startingAt o es = startingAt o es') :
    descending es = descending es' := by
  apply eq_of_sorted (sorted_descending es) (sorted_descending es')
  intro o
  rw [startingAt_descending, startingAt_descending, h]

theorem descending_append {o : Nat} (as : List Edit) {bs : List Edit} (ha : ∀ a ∈ as, a.start = o)
    (hb : ∀ b ∈ bs, o < b.start) : descending (as ++ bs) = descending bs ++ as := by
  have hmem : ∀ b ∈ descending bs, o < b.start := by
    intro b hmem
    rw [← mem_startingAt, startingAt_descending, mem_startingAt] at hmem
    exact hb b hmem
  refine eq_of_sorted (sorted_descending _) (List.pairwise_append.2 ⟨sorted_descending bs, ?_, ?_⟩)
    fun o' => ?_
  · exact List.pairwise_of_forall_mem_list fun a h b h' =>
      Nat.le_of_eq ((ha b h').trans (ha a h).symm)
  · intro b hb' a ha'
    rw [ha a ha']
    exact Nat.le_of_lt (hmem b hb')
  · rw [startingAt_descending, startingAt_append, startingAt_append, startingAt_descending]
    by_cases ho : o' = o
    · have hnone : startingAt o' bs = [] :=
        startingAt_eq_nil fun b h => ho ▸ Nat.ne_of_gt (hb b h)
      rw [hnone, List.append_nil, List.nil_append]
    · have hnone : startingAt o' as = [] :=
        startingAt_eq_nil fun a h => (ha a h).symm ▸ Ne.symm ho
      rw [hnone, List.append_nil, List.nil_append]

theorem take_behind {taken : List Edit} {e : Edit}
    (h : ∀ last ∈ taken.head?, e.start < last.start ∧ e.stop ≤ last.start) :
    take taken e = .ok (e :: taken) := by
  cases taken with
  | nil => rfl
  | cons last taken =>
    obtain ⟨hstart, hstop⟩ := h last rfl
    simp only [take]
    rw [if_neg (Nat.ne_of_gt hstart), if_neg (Nat.not_lt.2 hstop)]

def joined (e : Edit) (es : List Edit) : Edit :=
  { e with text := es.foldl (fun text e => text ++ e.text) e.text }

theorem take_insertions {m : Edit} {es taken : List Edit}
    (hes : ∀ e ∈ es, e.start = m.start ∧ e.stop = m.start ∧ ¬m.text.toList <+: e.text.toList)
    (last : Edit) (hstart : last.start = m.start) (hstop : last.stop = m.start)
    (htext : m.text.toList <+: last.text.toList) :
    es.foldlM take (last :: taken) = Except.ok (joined last es :: taken) := by
  induction es generalizing last with
  | nil => rfl
  | cons e es ih =>
    obtain ⟨h1, h2, h3⟩ := hes e List.mem_cons_self
    have hne : last ≠ e := by
      rintro rfl
      exact h3 htext
    have htake : take (last :: taken) e =
        .ok ({ last with text := last.text ++ e.text } :: taken) := by
      have hstarts : last.start = e.start := by rw [hstart, h1]
      have hinsert : last.isInsertion = true ∧ e.isInsertion = true := by
        simp [isInsertion, hstart, hstop, h1, h2]
      simp only [take]
      rw [if_pos hstarts, if_neg hne, hinsert.1, hinsert.2]
      rfl
    rw [List.foldlM_cons, htake]
    refine ih (fun e' he' => hes e' (List.mem_cons_of_mem _ he')) _ hstart hstop ?_
    rw [String.toList_append]
    exact htext.trans (List.prefix_append _ _)

theorem splice_insertion {s : List Char} {o : Nat} {x y : String} :
    splice s ⟨o, o, x ++ y⟩ = splice (splice s ⟨o, o, y⟩) ⟨o, o, x⟩ := by
  cases h : cutBytes s o with
  | none => simp [splice, h]
  | some ab =>
    obtain ⟨a, b⟩ := ab
    obtain ⟨-, ha⟩ := append_of_cutBytes h
    have hagain : cutBytes (a ++ (y.toList ++ b)) o = some (a, y.toList ++ b) := by
      rw [← ha]
      exact cutBytes_byteLength a _
    simp [splice, h, hagain]

theorem splice_joined {m : Edit} (hm : m.stop = m.start) (es : List Edit)
    (hes : ∀ e ∈ es, e.start = m.start ∧ e.stop = m.start) (s : List Char) :
    splice s (joined m es) = (m :: es).reverse.foldl splice s := by
  induction es using List.reverseRecOn generalizing s with
  | nil => rfl
  | append_singleton es e ih =>
    obtain ⟨h1, h2⟩ := hes e (by simp)
    obtain ⟨start, stop, text⟩ := m
    obtain ⟨start', stop', text'⟩ := e
    obtain rfl : stop = start := hm
    obtain rfl : start' = stop := h1
    obtain rfl : stop' = start' := h2
    have hstep := ih (fun e' he' => hes e' (by simp [he'])) (splice s ⟨stop', stop', text'⟩)
    simp only [joined, List.foldl_append, List.foldl_cons, List.foldl_nil, List.reverse_cons,
      List.reverse_append] at hstep ⊢
    rw [splice_insertion, hstep]
    simp

theorem later_of_before {m : Edit} {ms : List Edit} (hle : ∀ e ∈ m :: ms, e.start ≤ e.stop)
    (h : (m :: ms).Pairwise Before) :
    ∀ e ∈ ms.dropWhile fun e => e.start == m.start, m.start < e.start := by
  obtain ⟨hm, hms⟩ := List.pairwise_cons.1 h
  have hsub := List.dropWhile_sublist (l := ms) fun e : Edit => e.start == m.start
  have hstop := List.head?_dropWhile_not (fun e : Edit => e.start == m.start) ms
  cases hd : ms.dropWhile fun e => e.start == m.start with
  | nil => simp
  | cons e later =>
    rw [hd] at hsub hstop
    have hmem : e ∈ ms := hsub.subset List.mem_cons_self
    have hfirst : m.start < e.start := by
      have hge := Nat.le_trans (hle m List.mem_cons_self) (hm e hmem).stop
      have hne : e.start ≠ m.start := by simpa using hstop
      omega
    intro e' he'
    rcases List.mem_cons.1 he' with rfl | he'
    · exact hfirst
    · have hbefore := (List.pairwise_cons.1 (hms.sublist hsub)).1 e' he'
      have hge := hle e (List.mem_cons_of_mem _ hmem)
      exact Nat.lt_of_lt_of_le hfirst (Nat.le_trans hge hbefore.stop)

theorem take_together {m : Edit} {same taken : List Edit} (hle : m.start ≤ m.stop)
    (hsame : ∀ e ∈ same, e.start = m.start) (hm : ∀ e ∈ same, Before m e)
    (hbehind : ∀ last ∈ taken.head?, m.start < last.start ∧ m.stop ≤ last.start) :
    (m :: same).foldlM take taken = Except.ok (joined m same :: taken) ∧
      ∀ s, splice s (joined m same) = (m :: same).reverse.foldl splice s := by
  have hfirst : (m :: same).foldlM take taken =
      (same.foldlM take (m :: taken) : Except EditError (List Edit)) := by
    rw [List.foldlM_cons, take_behind hbehind]
    rfl
  rw [hfirst]
  cases same with
  | nil => exact ⟨rfl, fun _ => rfl⟩
  | cons e same =>
    -- an edit that others start together with is an insertion, and so are they
    have hinsert : m.stop = m.start := by
      have hstop := (hm e List.mem_cons_self).stop
      rw [hsame e List.mem_cons_self] at hstop
      exact Nat.le_antisymm hstop hle
    have hsame' : ∀ e' ∈ e :: same, e'.start = m.start ∧ e'.stop = m.start ∧
        ¬m.text.toList <+: e'.text.toList := by
      intro e' he'
      obtain ⟨hstop, hprefix⟩ := (hm e' he').distinct (hsame e' he').symm
      exact ⟨hsame e' he', hstop.trans (hsame e' he'), hprefix⟩
    exact ⟨take_insertions hsame' m rfl hinsert (List.prefix_refl _),
      splice_joined hinsert (e :: same) fun e' he' => ⟨(hsame' e' he').1, (hsame' e' he').2.1⟩⟩

/-- Taking separate edits, the last one first, makes one edit of those that start together. -/
theorem take_of_before {ms : List Edit} (hle : ∀ m ∈ ms, m.start ≤ m.stop)
    (h : ms.Pairwise Before) :
    ∃ taken, (descending ms).foldlM take [] = Except.ok taken ∧
      (∀ s, taken.reverse.foldl splice s = ms.reverse.foldl splice s) ∧
      ∀ last ∈ taken.head?, ∃ m ∈ ms.head?, last.start = m.start := by
  -- the edits that start with the first one are taken last, those behind them by induction
  induction hlen : ms.length using Nat.strongRecOn generalizing ms with
  | ind n ih =>
    cases ms with
    | nil => exact ⟨[], rfl, fun _ => rfl, by simp⟩
    | cons m ms =>
      obtain ⟨hm, hms⟩ := List.pairwise_cons.1 h
      have hlater := later_of_before hle h
      have hsame : ∀ e ∈ ms.takeWhile fun e => e.start == m.start, e.start = m.start :=
        fun e he => by simpa using List.mem_takeWhile_imp he
      have hsplit := List.takeWhile_append_dropWhile (p := fun e : Edit => e.start == m.start)
        (l := ms)
      generalize ms.takeWhile (fun e => e.start == m.start) = same at hsame hsplit
      generalize ms.dropWhile (fun e => e.start == m.start) = later at hlater hsplit
      subst hsplit
      obtain ⟨taken, hfold, hsplice, hfirst⟩ := ih later.length
        (by simp only [List.length_cons, List.length_append] at hlen; omega)
        (fun e he => hle e (List.mem_cons_of_mem _ (List.mem_append_right _ he)))
        (List.pairwise_append.1 hms).2.1 rfl
      have hbehind : ∀ last ∈ taken.head?, m.start < last.start ∧ m.stop ≤ last.start := by
        intro last hlast
        obtain ⟨e, he, hstart⟩ := hfirst last hlast
        have hmem : e ∈ later := List.mem_of_mem_head? he
        rw [hstart]
        exact ⟨hlater e hmem, (hm e (List.mem_append_right _ hmem)).stop⟩
      have hdesc : descending (m :: (same ++ later)) = descending later ++ m :: same := by
        refine descending_append (m :: same) ?_ hlater
        intro e he
        rcases List.mem_cons.1 he with rfl | he
        · rfl
        · exact hsame e he
      obtain ⟨htake, hjoined⟩ := take_together (hle m List.mem_cons_self) hsame
        (fun e he => hm e (List.mem_append_left _ he)) hbehind
      refine ⟨joined m same :: taken, ?_, ?_, ?_⟩
      · rw [hdesc, List.foldlM_append, hfold]
        exact htake
      · intro s
        simp only [List.reverse_cons, List.foldl_append, List.foldl_cons, List.foldl_nil,
          hsplice, hjoined, List.reverse_append]
      · intro last hlast
        cases hlast
        exact ⟨m, rfl, rfl⟩

theorem forM_validate {s : List Char} {es : List Edit} (h : ∀ e ∈ es, validate s e = .ok ()) :
    es.forM (validate s) = .ok () := by
  induction es with
  | nil => rfl
  | cons e es ih =>
    change (do validate s e; es.forM (validate s)) = _
    rw [h e List.mem_cons_self]
    exact ih fun e' he' => h e' (List.mem_cons_of_mem _ he')

/-- Edits whose order at each place is that of `ms` do what `ms` does from behind. -/
theorem apply_of_before {s : List Char} {es ms : List Edit}
    (hvalid : ∀ m ∈ ms, validate s m = .ok ()) (hbefore : ms.Pairwise Before)
    (hes : ∀ o, startingAt o es = startingAt o ms) :
    apply s es = .ok (ms.reverse.foldl splice s) := by
  have hvalid' : ∀ e ∈ es, validate s e = .ok () := by
    intro e he
    apply hvalid e
    rw [← mem_startingAt, hes, mem_startingAt] at he
    exact he
  have hle : ∀ m ∈ ms, m.start ≤ m.stop := by
    intro m hm
    have hok := hvalid m hm
    unfold validate at hok
    split at hok
    · cases hok
    · omega
  obtain ⟨taken, htake, hsplice, -⟩ := take_of_before hle hbefore
  simp only [apply, schedule, forM_validate hvalid', descending_congr hes, htake]
  exact congrArg Except.ok (hsplice s)

end MarkupSplice.Edit
