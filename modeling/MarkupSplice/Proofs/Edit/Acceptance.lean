import Mathlib.Data.List.Pairwise
import MarkupSplice.Proofs.Edit.Schedule

/-!
# Which edits are accepted

Each edit is compared with the last one taken only, which may be made of
several insertions. In the order in which edits are taken this is enough: a
list is accepted when any two of its edits are compatible, and only then
(`exists_schedule_iff`). What is taken of the edits that start at one place
depends on these alone (`Taken`), so the order of the others never matters.
-/
namespace MarkupSplice.Edit
open Text

structure Fits (s : List Char) (e : Edit) : Prop where
  ordered : e.start ≤ e.stop
  inside : e.stop ≤ byteLength s
  start : isBoundary s e.start = true
  stop : isBoundary s e.stop = true

/-- Whether both edits can be made, in either order. -/
def Compatible (a b : Edit) : Prop :=
  a = b ∨ (a.isInsertion = true ∧ b.isInsertion = true ∧ a.start = b.start) ∨
    (a.start < b.start ∧ a.stop ≤ b.start) ∨ (b.start < a.start ∧ b.stop ≤ a.start)

instance (a b : Edit) : Decidable (Compatible a b) := inferInstanceAs (Decidable (_ ∨ _))

theorem validate_eq_ok {s : List Char} {e : Edit} : validate s e = .ok () ↔ e.Fits s := by
  unfold validate
  constructor
  · intro h
    split at h
    · cases h
    · rename_i hrange
      split at h
      · cases h
      · rename_i hstart
        split at h
        · cases h
        · rename_i hstop
          exact ⟨by omega, by omega, by simpa using hstart, by simpa using hstop⟩
  · rintro ⟨hordered, hinside, hstart, hstop⟩
    rw [if_neg (by omega)]
    simp [hstart, hstop]

theorem forM_validate_iff {s : List Char} {es : List Edit} :
    es.forM (validate s) = .ok () ↔ ∀ e ∈ es, e.Fits s := by
  constructor
  · intro h
    induction es with
    | nil => simp
    | cons e es ih =>
      change (do validate s e; es.forM (validate s)) = _ at h
      cases hv : validate s e with
      | error err =>
        rw [hv] at h
        cases h
      | ok u =>
        rw [hv] at h
        intro e' he'
        rcases List.mem_cons.1 he' with rfl | he'
        · exact validate_eq_ok.1 hv
        · exact ih h e' he'
  · exact fun h => forM_validate fun e he => validate_eq_ok.2 (h e he)

theorem compatible_refl (a : Edit) : Compatible a a := Or.inl rfl

theorem Compatible.symm {a b : Edit} (h : Compatible a b) : Compatible b a := by
  rcases h with rfl | ⟨ha, hb, hstart⟩ | hbefore | hbehind
  · exact compatible_refl _
  · exact Or.inr (Or.inl ⟨hb, ha, hstart.symm⟩)
  · exact Or.inr (Or.inr (Or.inr hbefore))
  · exact Or.inr (Or.inr (Or.inl hbehind))

instance : Std.Symm Compatible := ⟨fun _ _ h => h.symm⟩

theorem pairwise_compatible_iff {es : List Edit} :
    es.Pairwise Compatible ↔ ∀ a ∈ es, ∀ b ∈ es, Compatible a b := by
  constructor
  · exact fun h => h.forall_of_forall fun a _ => compatible_refl a
  · exact List.pairwise_of_forall_mem_list

theorem compatible_of_insertions {a b c : Edit} (ha : a.isInsertion = true)
    (hb : b.isInsertion = true) (hstart : a.start = b.start) (h : Compatible a c) :
    Compatible b c := by
  have hstops : a.stop = a.start ∧ b.stop = b.start := by
    simp only [isInsertion, beq_iff_eq] at ha hb
    exact ⟨ha.symm, hb.symm⟩
  rcases h with rfl | ⟨-, hc, hac⟩ | ⟨hlt, hle⟩ | ⟨hlt, hle⟩
  · exact Or.inr (Or.inl ⟨hb, ha, hstart.symm⟩)
  · exact Or.inr (Or.inl ⟨hb, hc, hstart.symm.trans hac⟩)
  · exact Or.inr (Or.inr (Or.inl ⟨by omega, by omega⟩))
  · exact Or.inr (Or.inr (Or.inr ⟨by omega, by omega⟩))

theorem compatible_of_behind {a b c : Edit} (hlt : b.start < a.start) (hle : b.stop ≤ a.start)
    (hcb : c.start ≤ b.start) (h : Compatible b c) : Compatible a c := by
  have hstop : c.stop ≤ a.start := by
    rcases h with rfl | ⟨-, hc, hstart⟩ | ⟨hbc, -⟩ | ⟨-, hbehind⟩
    · exact hle
    · simp only [isInsertion, beq_iff_eq] at hc
      omega
    · omega
    · omega
  exact Or.inr (Or.inr (Or.inr ⟨by omega, hstop⟩))

def join (last e : Edit) : Edit := if last = e then last else { last with text := last.text ++ e.text }

@[simp] theorem interval_join (last e : Edit) : (last.join e).interval = last.interval := by
  unfold join
  split <;> rfl

@[simp] theorem start_join (last e : Edit) : (last.join e).start = last.start :=
  congrArg Prod.fst (interval_join last e)

@[simp] theorem stop_join (last e : Edit) : (last.join e).stop = last.stop :=
  congrArg Prod.snd (interval_join last e)

theorem take_join {last e : Edit} (rest : List Edit) (hstart : last.start = e.start)
    (h : last = e ∨ last.isInsertion = true ∧ e.isInsertion = true) :
    take (last :: rest) e = .ok (last.join e :: rest) := by
  simp only [take, join, if_pos hstart]
  by_cases heq : last = e
  · simp [heq]
  · have hinsert := h.resolve_left heq
    simp [heq, hinsert]

theorem take_cases {taken taken' : List Edit} {e : Edit} (h : take taken e = .ok taken') :
    (taken' = e :: taken ∧
      ∀ last ∈ taken.head?, last.start ≠ e.start ∧ e.stop ≤ last.start) ∨
    ∃ last rest, taken = last :: rest ∧ last.start = e.start ∧ taken' = last.join e :: rest ∧
      (last = e ∨ last.isInsertion = true ∧ e.isInsertion = true) := by
  cases taken with
  | nil =>
    left
    cases h
    exact ⟨rfl, by simp⟩
  | cons last rest =>
    by_cases hstart : last.start = e.start
    · right
      by_cases hjoin : last = e ∨ last.isInsertion = true ∧ e.isInsertion = true
      · rw [take_join rest hstart hjoin] at h
        exact ⟨last, rest, rfl, hstart, (Except.ok.inj h).symm, hjoin⟩
      · obtain ⟨hne, hinsert⟩ := not_or.1 hjoin
        rw [← Bool.and_eq_true] at hinsert
        simp [take, hstart, hne, hinsert] at h
    · left
      simp only [take, if_neg hstart] at h
      split at h
      · cases h
      · rename_i hstop
        cases h
        refine ⟨rfl, ?_⟩
        rintro _ ⟨⟩
        exact ⟨hstart, Nat.not_lt.1 hstop⟩

theorem exists_take_iff {last e : Edit} (rest : List Edit) (hle : e.start ≤ last.start) :
    (∃ taken, take (last :: rest) e = .ok taken) ↔ Compatible last e := by
  constructor
  · rintro ⟨taken, htake⟩
    rcases take_cases htake with ⟨-, hbehind⟩ | ⟨_, _, hcons, hstart, -, hjoin⟩
    · obtain ⟨hne, hstop⟩ := hbehind last rfl
      exact Or.inr (Or.inr (Or.inr ⟨by omega, hstop⟩))
    · obtain ⟨rfl, rfl⟩ := List.cons.inj hcons
      exact hjoin.imp id fun h => Or.inl ⟨h.1, h.2, hstart⟩
  · rintro (heq | ⟨hlast, he, hstart⟩ | ⟨hlt, -⟩ | ⟨hlt, hstop⟩)
    · exact ⟨_, take_join rest (congrArg start heq) (Or.inl heq)⟩
    · exact ⟨_, take_join rest hstart (Or.inr ⟨hlast, he⟩)⟩
    · omega
    · refine ⟨_, take_behind ?_⟩
      rintro _ ⟨⟩
      exact ⟨hlt, hstop⟩

/-- What is compatible with both edits is compatible with what they make together. -/
theorem compatible_join_iff {last e c : Edit} (hstart : last.start = e.start)
    (h : last = e ∨ last.isInsertion = true ∧ e.isInsertion = true) :
    Compatible (last.join e) c ↔ Compatible last c ∧ Compatible e c := by
  rcases h with rfl | ⟨hlast, he⟩
  · simp [join]
  · have hjoin : (last.join e).isInsertion = true := by simpa [isInsertion] using hlast
    constructor
    · intro h
      exact ⟨compatible_of_insertions hjoin hlast (start_join last e) h,
        compatible_of_insertions hjoin he ((start_join last e).trans hstart) h⟩
    · exact fun h => compatible_of_insertions hlast hjoin (start_join last e).symm h.1

theorem exists_foldlM_take {last : Edit} {es : List Edit} (rest : List Edit)
    (hes : (last :: es).Pairwise fun a b => b.start ≤ a.start) :
    (∃ taken, es.foldlM take (last :: rest) = Except.ok taken) ↔
      (last :: es).Pairwise Compatible := by
  induction es generalizing last rest with
  | nil => exact ⟨fun _ => List.pairwise_singleton _ _, fun _ => ⟨_, rfl⟩⟩
  | cons e es ih =>
    obtain ⟨hlast, hsorted⟩ := List.pairwise_cons.1 hes
    have htaken := exists_take_iff rest (hlast e List.mem_cons_self)
    rw [List.foldlM_cons]
    cases htake : take (last :: rest) e with
    | error err =>
      have hnot : ¬Compatible last e := by simp [← htaken, htake]
      refine ⟨?_, fun h => absurd ((List.pairwise_cons.1 h).1 e List.mem_cons_self) hnot⟩
      rintro ⟨_, ⟨⟩⟩
    | ok taken =>
      have hpair := htaken.1 ⟨taken, htake⟩
      change (∃ taken', es.foldlM take taken = Except.ok taken') ↔ _
      rcases take_cases htake with ⟨rfl, hbehind⟩ | ⟨_, _, hcons, hstart, rfl, hjoin⟩
      · obtain ⟨hne, hstop⟩ := hbehind last rfl
        have hlt := lt_of_le_of_ne (hlast e List.mem_cons_self) (Ne.symm hne)
        rw [ih (last :: rest) hsorted, List.pairwise_cons (a := last)]
        refine ⟨fun h => ⟨?_, h⟩, fun h => h.2⟩
        intro c hc
        rcases List.mem_cons.1 hc with rfl | hc'
        · exact hpair
        · exact compatible_of_behind hlt hstop ((List.pairwise_cons.1 hsorted).1 c hc')
            ((List.pairwise_cons.1 h).1 c hc')
      · -- what comes later meets the joined edit as it would meet both
        obtain ⟨rfl, rfl⟩ := List.cons.inj hcons
        have hsorted' : (last.join e :: es).Pairwise fun a b => b.start ≤ a.start := by
          rw [List.pairwise_cons, start_join]
          exact ⟨fun c hc => hlast c (List.mem_cons_of_mem _ hc), (List.pairwise_cons.1 hsorted).2⟩
        rw [ih rest hsorted']
        simp only [List.pairwise_cons, List.forall_mem_cons, compatible_join_iff hstart hjoin,
          hpair, true_and]
        constructor
        · rintro ⟨hall, hes⟩
          exact ⟨fun c hc => (hall c hc).1, fun c hc => (hall c hc).2, hes⟩
        · rintro ⟨hlast, he, hes⟩
          exact ⟨fun c hc => ⟨hlast c hc, he c hc⟩, hes⟩

theorem descending_perm (es : List Edit) : (descending es).Perm es := by
  induction es with
  | nil => exact List.Perm.refl _
  | cons e es ih => exact (place_perm e _).trans (ih.cons e)

theorem exists_taken_iff {es : List Edit} :
    (∃ taken, (descending es).foldlM take [] = Except.ok taken) ↔ es.Pairwise Compatible := by
  have hsorted := sorted_descending es
  rw [← (descending_perm es).pairwise_iff Compatible.symm]
  cases hd : descending es with
  | nil => exact ⟨fun _ => List.Pairwise.nil, fun _ => ⟨[], rfl⟩⟩
  | cons e ds =>
    rw [hd] at hsorted
    exact exists_foldlM_take [] hsorted

theorem schedule_eq_ok {s : List Char} {es scheduled : List Edit} :
    schedule s es = .ok scheduled ↔ (∀ e ∈ es, e.Fits s) ∧
      ∃ taken, (descending es).foldlM take [] = Except.ok taken ∧ scheduled = taken.reverse := by
  have hbind : schedule s es = (es.forM (validate s)).bind fun _ =>
      ((descending es).foldlM take []).map List.reverse := by
    unfold schedule
    cases es.forM (validate s) with
    | error err => rfl
    | ok u => cases (descending es).foldlM take [] <;> rfl
  rw [hbind, ← forM_validate_iff]
  cases es.forM (validate s) with
  | error err => simp [Except.bind]
  | ok u =>
    cases (descending es).foldlM take [] with
    | error err => simp [Except.bind, Except.map]
    | ok taken => simp [Except.bind, Except.map, eq_comm]

theorem exists_schedule_iff {s : List Char} {es : List Edit} :
    (∃ scheduled, schedule s es = .ok scheduled) ↔
      (∀ e ∈ es, e.Fits s) ∧ ∀ a ∈ es, ∀ b ∈ es, Compatible a b := by
  rw [← pairwise_compatible_iff, ← exists_taken_iff]
  simp only [schedule_eq_ok]
  constructor
  · rintro ⟨_, hfits, taken, htaken, -⟩
    exact ⟨hfits, taken, htaken⟩
  · rintro ⟨hfits, taken, htaken⟩
    exact ⟨_, hfits, taken, htaken, rfl⟩

def merged : List Edit → Option Edit
  | [] => none
  | e :: es => some (es.foldl join e)

theorem merged_concat (es : List Edit) (e : Edit) :
    merged (es ++ [e]) = some ((merged es).elim e fun m => m.join e) := by
  cases es with
  | nil => rfl
  | cons e' es => simp [merged]

theorem merged_eq_none {es : List Edit} : merged es = none ↔ es = [] := by
  cases es <;> simp [merged]

theorem interval_merged {es : List Edit} {m : Edit} (h : merged es = some m) :
    ∃ e ∈ es, m.interval = e.interval := by
  cases es with
  | nil => cases h
  | cons e es =>
    obtain rfl := Option.some.inj h
    refine ⟨e, List.mem_cons_self, ?_⟩
    induction es using List.reverseRecOn with
    | nil => rfl
    | append_singleton es e' ih => rw [List.foldl_append, List.foldl_cons, List.foldl_nil, interval_join, ih rfl]

/-- Whether `taken` lies in order and holds at each place what `es` make there together. -/
structure Taken (es taken : List Edit) : Prop where
  ordered : taken.Pairwise fun a b => a.start < b.start ∧ a.stop ≤ b.start
  places : ∀ o, startingAt o taken = (merged (startingAt o es)).toList

theorem startingAt_singleton (o : Nat) (e : Edit) :
    startingAt o [e] = if e.start = o then [e] else [] := by
  simp [startingAt, List.filter_cons]

theorem startingAt_cons (o : Nat) (e : Edit) (es : List Edit) :
    startingAt o (e :: es) = if e.start = o then e :: startingAt o es else startingAt o es := by
  simp [startingAt, List.filter_cons]

theorem Taken.mem {es taken : List Edit} (h : Taken es taken) {m : Edit} (hm : m ∈ taken) :
    merged (startingAt m.start es) = some m ∧ ∃ e ∈ es, m.interval = e.interval := by
  have hmem := mem_startingAt.2 hm
  rw [h.places, Option.mem_toList] at hmem
  obtain ⟨e, he, hinterval⟩ := interval_merged hmem
  exact ⟨hmem, e, (List.mem_filter.1 he).1, hinterval⟩

theorem Taken.step {es taken taken' : List Edit} {e : Edit} (h : Taken es taken)
    (hes : ∀ a ∈ es, e.start ≤ a.start) (htake : take taken e = .ok taken') :
    Taken (es ++ [e]) taken' := by
  have hle : ∀ m ∈ taken, e.start ≤ m.start := by
    intro m hm
    obtain ⟨-, a, ha, hinterval⟩ := h.mem hm
    have hstart : m.start = a.start := congrArg Prod.fst hinterval
    rw [hstart]
    exact hes a ha
  rcases take_cases htake with ⟨rfl, hbehind⟩ | ⟨last, rest, rfl, hstart, rfl, -⟩
  · -- all that is taken lies behind the last edit, and so behind the new one
    have hall : ∀ m ∈ taken, e.start < m.start ∧ e.stop ≤ m.start := by
      cases taken with
      | nil => simp
      | cons last rest =>
        obtain ⟨hne, hstop⟩ := hbehind last rfl
        have hlast := hle last List.mem_cons_self
        intro m hm
        rcases List.mem_cons.1 hm with rfl | hm
        · exact ⟨by omega, hstop⟩
        · have hlt := (List.pairwise_cons.1 h.ordered).1 m hm
          exact ⟨by omega, by omega⟩
    refine ⟨List.pairwise_cons.2 ⟨hall, h.ordered⟩, ?_⟩
    intro o
    rw [startingAt_append, startingAt_singleton, startingAt_cons]
    by_cases ho : e.start = o
    · have hnone : startingAt o taken = [] :=
        startingAt_eq_nil fun m hm => ho ▸ Nat.ne_of_gt (hall m hm).1
      have hes' : startingAt o es = [] := by
        have hmerged := h.places o
        rw [hnone, eq_comm, Option.toList_eq_nil_iff] at hmerged
        exact merged_eq_none.1 hmerged
      simp [ho, hnone, hes', merged]
    · simp [ho, h.places]
  · have hordered := List.pairwise_cons.1 h.ordered
    refine ⟨List.pairwise_cons.2 ⟨by simpa using hordered.1, hordered.2⟩, ?_⟩
    intro o
    have hmerged := h.places o
    rw [startingAt_cons] at hmerged
    rw [startingAt_append, startingAt_singleton, startingAt_cons, start_join, ← hstart]
    by_cases ho : last.start = o
    · rw [if_pos ho] at hmerged
      cases hm : merged (startingAt o es) with
      | none => simp [hm] at hmerged
      | some m =>
        rw [hm] at hmerged
        obtain ⟨rfl, hrest⟩ := List.cons.inj hmerged
        simp [ho, hrest, merged_concat, hm]
    · rw [if_neg ho] at hmerged
      simp [ho, hmerged]

theorem Taken.run {es taken taken' more : List Edit} (h : Taken es taken)
    (hsorted : (es ++ more).Pairwise fun a b => b.start ≤ a.start)
    (htake : more.foldlM take taken = Except.ok taken') : Taken (es ++ more) taken' := by
  induction more generalizing es taken with
  | nil =>
    cases htake
    simpa using h
  | cons e more ih =>
    rw [List.foldlM_cons] at htake
    cases hstep : take taken e with
    | error err =>
      rw [hstep] at htake
      cases htake
    | ok next =>
      rw [hstep] at htake
      have hes : ∀ a ∈ es, e.start ≤ a.start := fun a ha =>
        (List.pairwise_append.1 hsorted).2.2 a ha e List.mem_cons_self
      have hrest := ih (h.step hes hstep) (by simpa using hsorted) htake
      simpa using hrest

theorem taken_nil : Taken [] [] := ⟨List.Pairwise.nil, fun _ => rfl⟩

theorem taken_of_schedule {s : List Char} {es scheduled : List Edit}
    (h : schedule s es = .ok scheduled) : Taken es scheduled.reverse := by
  obtain ⟨-, taken, htake, rfl⟩ := schedule_eq_ok.1 h
  have hsorted := sorted_descending es
  have hrun : Taken (descending es) taken := taken_nil.run hsorted htake
  rw [List.reverse_reverse]
  refine ⟨hrun.ordered, ?_⟩
  intro o
  rw [hrun.places, startingAt_descending]

theorem startingAt_perm {o : Nat} {as bs : List Edit} (h : as.Perm bs)
    (hsame : ∀ a ∈ as, ∀ b ∈ as, a.start = o → b.start = o → a = b) :
    startingAt o as = startingAt o bs := by
  have hperm : (startingAt o as).Perm (startingAt o bs) := h.filter _
  cases has : startingAt o as with
  | nil =>
    rw [has] at hperm
    exact hperm.nil_eq
  | cons a as' =>
    have hall : ∀ b ∈ startingAt o as, b = a := by
      have ha : a ∈ startingAt o as := by simp [has]
      obtain ⟨ha, hstart⟩ := List.mem_filter.1 ha
      intro b hb
      obtain ⟨hb, hstart'⟩ := List.mem_filter.1 hb
      exact hsame b hb a ha (beq_iff_eq.1 hstart') (beq_iff_eq.1 hstart)
    have hreplicate : startingAt o as = List.replicate (startingAt o as).length a :=
      List.eq_replicate_iff.2 ⟨rfl, hall⟩
    rw [hreplicate] at hperm
    rw [← has, hreplicate]
    exact (List.perm_replicate.1 hperm.symm).symm

/-- Accepted are the lists of valid edits of which any two are compatible, in whatever order, and
the order tells only how different insertions at one place are joined. -/
theorem schedule_isOk_iff (s : List Char) (es : List Edit) :
    ((∃ scheduled, schedule s es = .ok scheduled) ↔
      (∀ e ∈ es, e.Fits s) ∧ ∀ a ∈ es, ∀ b ∈ es, Compatible a b) ∧
    ∀ es' : List Edit, es.Perm es' →
      ((∃ scheduled, schedule s es' = .ok scheduled) ↔
        ∃ scheduled, schedule s es = .ok scheduled) ∧
      ((∀ a ∈ es, ∀ b ∈ es, a.isInsertion = true → b.isInsertion = true → a.start = b.start →
          a = b) →
        ∀ scheduled, schedule s es = .ok scheduled →
          schedule s es' = .ok scheduled ∧ apply s es' = apply s es) := by
  refine ⟨exists_schedule_iff, fun es' hperm => ⟨?_, fun hsame scheduled h => ?_⟩⟩
  · simp only [exists_schedule_iff, hperm.mem_iff]
  · have hcompatible := (exists_schedule_iff.1 ⟨scheduled, h⟩).2
    obtain ⟨hfits, taken, htake, rfl⟩ := schedule_eq_ok.1 h
    have hstarts : ∀ o, startingAt o es = startingAt o es' := by
      intro o
      apply startingAt_perm hperm
      rintro a ha b hb rfl hstart
      rcases hcompatible a ha b hb with heq | ⟨hinsa, hinsb, -⟩ | ⟨hlt, -⟩ | ⟨hlt, -⟩
      · exact heq
      · exact hsame a ha b hb hinsa hinsb hstart.symm
      · omega
      · omega
    rw [descending_congr hstarts] at htake
    have h' : schedule s es' = .ok taken.reverse :=
      schedule_eq_ok.2 ⟨fun e he => hfits e (hperm.mem_iff.2 he), taken, htake, rfl⟩
    exact ⟨h', by simp only [apply, h, h']⟩

theorem schedule_isOk_iff_swapped :
    schedule "ab".toList [.insert 1 "x", .delete 0 1] = .ok [.insert 1 "x", .delete 0 1] ∧
      apply "ab".toList [.insert 1 "x", .delete 0 1] =
        apply "ab".toList [.delete 0 1, .insert 1 "x"] :=
  ((schedule_isOk_iff "ab".toList [.delete 0 1, .insert 1 "x"]).2 _ (List.Perm.swap _ _ [])).2
    (by decide) _ (by rfl)

end MarkupSplice.Edit
