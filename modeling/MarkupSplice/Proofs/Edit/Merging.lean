import MarkupSplice.Proofs.Edit.Acceptance

/-!
# Insertions at one place

Insertions at one place are joined in the order in which they are planned. Only
one that repeats all that has been joined in front of it is dropped, which is
not the same as one that repeats an insertion in front of it: it can be the
text of several, and a repeated one can have others in between. Where the two
are the same the schedule has each insertion once (`insertions_of_schedule`).
-/
namespace MarkupSplice.Edit
open Text

def insertionsAt (o : Nat) (es : List Edit) : List String :=
  (es.filter fun e => e.isInsertion && e.start == o).map text

def keptBehind (front : String) : List String → List String
  | [] => []
  | t :: ts => if t = front then keptBehind front ts else t :: keptBehind (front ++ t) ts

def kept : List String → List String
  | [] => []
  | t :: ts => t :: keptBehind t ts

theorem foldl_join_insert {o : Nat} {es : List Edit}
    (hes : ∀ e ∈ es, e.start = o ∧ e.isInsertion = true) (t : String) :
    es.foldl join (insert o t) = insert o (t ++ String.join (keptBehind t (es.map text))) := by
  induction es generalizing t with
  | nil => simp [keptBehind]
  | cons e es ih =>
    obtain ⟨start, stop, u⟩ := e
    obtain ⟨hstart, hinsert⟩ := hes _ List.mem_cons_self
    obtain rfl : start = o := hstart
    obtain rfl : start = stop := beq_iff_eq.1 hinsert
    have hrest := ih fun e he => hes e (List.mem_cons_of_mem _ he)
    rw [List.foldl_cons, List.map_cons, keptBehind]
    by_cases hu : u = t
    · subst hu
      have hjoin : (insert start u).join ⟨start, start, u⟩ = insert start u := if_pos rfl
      rw [hjoin, hrest, if_pos rfl]
    · have hjoin : (insert start t).join ⟨start, start, u⟩ = insert start (t ++ u) := by
        have hne : insert start t ≠ ⟨start, start, u⟩ := fun h => hu (congrArg text h).symm
        exact if_neg hne
      rw [hjoin, hrest, if_neg hu, String.join_cons, String.append_assoc]

theorem merged_insertions {o : Nat} {es : List Edit} (hne : es ≠ [])
    (hes : ∀ e ∈ es, e.start = o ∧ e.isInsertion = true) :
    merged es = some (insert o (String.join (kept (es.map text)))) := by
  cases es with
  | nil => exact absurd rfl hne
  | cons e es =>
    obtain ⟨start, stop, t⟩ := e
    obtain ⟨hstart, hinsert⟩ := hes _ List.mem_cons_self
    obtain rfl : start = o := hstart
    obtain rfl : start = stop := beq_iff_eq.1 hinsert
    rw [List.map_cons, kept, String.join_cons]
    exact congrArg some (foldl_join_insert (fun e he => hes e (List.mem_cons_of_mem _ he)) t)

theorem head_keptBehind {front t : String} {ts rest : List String}
    (h : keptBehind front ts = t :: rest) : t ≠ front := by
  induction ts with
  | nil => cases h
  | cons u ts ih =>
    rw [keptBehind] at h
    split at h
    · exact ih h
    · rename_i hne
      obtain ⟨rfl, -⟩ := List.cons.inj h
      exact hne

theorem removeAll_cons_of_mem {t : String} {ts joined : List String} (h : t ∈ joined) :
    (t :: ts).removeAll joined = ts.removeAll joined := by
  simp [List.removeAll, h]

theorem removeAll_cons_of_not_mem {t : String} {ts joined : List String} (h : t ∉ joined) :
    (t :: ts).removeAll joined = t :: ts.removeAll joined := by
  simp [List.removeAll, h]

theorem eraseDups_removeAll_cons {t : String} {ts joined : List String} (h : t ∉ joined) :
    ((t :: ts).removeAll joined).eraseDups = t :: (ts.removeAll (joined ++ [t])).eraseDups := by
  have hfilter : (ts.removeAll joined).filter (fun u => !u == t) =
      ts.removeAll (joined ++ [t]) := by
    rw [List.removeAll, List.removeAll, List.filter_filter]
    apply List.filter_congr
    intro u _
    simp only [List.elem_eq_mem, List.mem_append, List.mem_singleton]
    by_cases hu : u = t <;> simp [hu]
  rw [removeAll_cons_of_not_mem h, List.eraseDups_cons, hfilter]

theorem forall_split_cons {t : String} {ts : List String} {P : List String → String → Prop} :
    (∀ front u back, t :: ts = front ++ u :: back → P front u) ↔
      P [] t ∧ ∀ front u back, ts = front ++ u :: back → P (t :: front) u := by
  constructor
  · intro h
    exact ⟨h [] t ts rfl, fun front u back hts => h (t :: front) u back (by rw [hts]; rfl)⟩
  · rintro ⟨hfirst, hrest⟩ front u back hts
    cases front with
    | nil =>
      obtain ⟨rfl, -⟩ := List.cons.inj hts
      exact hfirst
    | cons v front =>
      rw [List.cons_append, List.cons.injEq] at hts
      obtain ⟨rfl, hts⟩ := hts
      exact hrest front u back hts

/-- Behind some distinct insertions the others are joined once each, if and only if to repeat all
that is joined is the same as to repeat an insertion. -/
theorem keptBehind_eq_iff (joined ts : List String) :
    keptBehind (String.join joined) ts = (ts.removeAll joined).eraseDups ↔
      ∀ front t back, ts = front ++ t :: back →
        (t = String.join (joined ++ (front.removeAll joined).eraseDups) ↔
          t ∈ joined ∨ t ∈ front) := by
  induction ts generalizing joined with
  | nil => simp [keptBehind, List.removeAll]
  | cons t ts ih =>
    rw [forall_split_cons (P := fun front u =>
      u = String.join (joined ++ (front.removeAll joined).eraseDups) ↔ u ∈ joined ∨ u ∈ front)]
    have hnil : ([] : List String).removeAll joined = [] := rfl
    simp only [hnil, List.eraseDups_nil, List.append_nil, List.not_mem_nil, or_false, keptBehind]
    -- where the two tests differ, so do the lists from here on
    by_cases hjoin : t = String.join joined
    · by_cases hmem : t ∈ joined
      · have hor : ∀ (front : List String) u, u ∈ joined ∨ u ∈ t :: front ↔
            u ∈ joined ∨ u ∈ front := by
          intro front u
          rw [List.mem_cons]
          constructor
          · rintro (h | rfl | h)
            exacts [Or.inl h, Or.inl hmem, Or.inr h]
          · exact Or.imp id Or.inr
        rw [if_pos hjoin, removeAll_cons_of_mem hmem, ih]
        simp only [removeAll_cons_of_mem hmem, hor, hmem, iff_true_intro hjoin, true_and]
      · rw [if_pos hjoin, eraseDups_removeAll_cons hmem]
        refine iff_of_false ?_ fun h => hmem (h.1.1 hjoin)
        exact fun h => head_keptBehind h hjoin
    · by_cases hmem : t ∈ joined
      · rw [if_neg hjoin, removeAll_cons_of_mem hmem]
        refine iff_of_false ?_ fun h => hjoin (h.1.2 hmem)
        intro h
        have ht : t ∈ ts.removeAll joined := by
          rw [← List.mem_eraseDups, ← h]
          exact List.mem_cons_self
        simp [List.removeAll, hmem] at ht
      · have hnext := ih (joined ++ [t])
        have hjoined : String.join (joined ++ [t]) = String.join joined ++ t := by
          simp [String.join_append, String.join_cons]
        rw [hjoined] at hnext
        rw [if_neg hjoin, eraseDups_removeAll_cons hmem, List.cons.injEq, and_iff_right rfl, hnext]
        simp only [eraseDups_removeAll_cons hmem, hmem, hjoin, true_and, List.mem_append,
          List.mem_cons, List.not_mem_nil, or_false, List.append_assoc, List.singleton_append,
          or_assoc]

theorem kept_eq_iff (ts : List String) :
    kept ts = ts.eraseDups ↔ ∀ front t back, ts = front ++ t :: back → front ≠ [] →
      (t = String.join front.eraseDups ↔ t ∈ front) := by
  cases ts with
  | nil => simp [kept]
  | cons t ts =>
    have hjoin : String.join [t] = t := by simp [String.join_cons]
    have hbehind := keptBehind_eq_iff [t] ts
    have hdups : ∀ us : List String, (t :: us).eraseDups = t :: (us.removeAll [t]).eraseDups := by
      intro us
      rw [List.eraseDups_cons, List.removeAll_cons, List.removeAll_nil]
    rw [hjoin] at hbehind
    rw [kept, hdups, List.cons.injEq, and_iff_right rfl, hbehind,
      forall_split_cons (P := fun front u => front ≠ [] → (u = String.join front.eraseDups ↔
        u ∈ front))]
    simp [hdups]

theorem startingAt_schedule {s : List Char} {es scheduled : List Edit}
    (h : schedule s es = .ok scheduled) (o : Nat) :
    startingAt o scheduled = (merged (startingAt o es)).toList := by
  have hplaces := (taken_of_schedule h).places o
  rw [startingAt, List.filter_reverse] at hplaces
  have hreverse := congrArg List.reverse hplaces
  rw [List.reverse_reverse] at hreverse
  rw [startingAt, hreverse]
  cases merged (startingAt o es) <;> rfl

theorem schedule_congr {s : List Char} {as bs scheduled scheduled' : List Edit}
    (ha : schedule s as = .ok scheduled) (hb : schedule s bs = .ok scheduled')
    (h : ∀ o, merged (startingAt o as) = merged (startingAt o bs)) : scheduled = scheduled' := by
  have hsorted : ∀ {es scheduled : List Edit}, schedule s es = .ok scheduled →
      scheduled.Pairwise fun a b => b.start ≤ a.start := by
    intro es scheduled h
    exact (List.pairwise_reverse.1 (taken_of_schedule h).ordered).imp fun hab => Nat.le_of_lt hab.1
  apply eq_of_sorted (hsorted ha) (hsorted hb)
  intro o
  rw [startingAt_schedule ha, startingAt_schedule hb, h]

theorem insertion_of_compatible {s : List Char} {es scheduled : List Edit}
    (h : schedule s es = .ok scheduled) {o : Nat} (ho : insertionsAt o es ≠ []) :
    ∀ e ∈ startingAt o es, e.start = o ∧ e.isInsertion = true := by
  obtain ⟨-, hcompatible⟩ := exists_schedule_iff.1 ⟨_, h⟩
  obtain ⟨t, ht⟩ := List.exists_mem_of_ne_nil _ ho
  obtain ⟨m, hm, -⟩ := List.mem_map.1 ht
  obtain ⟨hm, hinsert⟩ := List.mem_filter.1 hm
  rw [Bool.and_eq_true, beq_iff_eq] at hinsert
  intro e he
  obtain ⟨he, hstart⟩ := List.mem_filter.1 he
  rw [beq_iff_eq] at hstart
  refine ⟨hstart, ?_⟩
  rcases hcompatible m hm e he with rfl | ⟨-, hinsert', -⟩ | ⟨hlt, -⟩ | ⟨hlt, -⟩
  · exact hinsert.1
  · exact hinsert'
  · omega
  · omega

theorem schedule_insertions {s : List Char} {es scheduled : List Edit}
    (h : schedule s es = .ok scheduled) {o : Nat} (ho : insertionsAt o es ≠ []) :
    startingAt o scheduled = [insert o (String.join (kept (insertionsAt o es)))] := by
  have hall := insertion_of_compatible h ho
  have hfilter : (es.filter fun e => e.isInsertion && e.start == o) = startingAt o es := by
    rw [← List.filter_filter]
    exact List.filter_eq_self.2 fun e he => (hall e he).2
  have hne : startingAt o es ≠ [] := by
    intro hnil
    rw [insertionsAt, hfilter, hnil] at ho
    exact ho rfl
  rw [startingAt_schedule h, merged_insertions hne hall, insertionsAt, hfilter]
  rfl

theorem schedule_append_iff {s : List Char} {es scheduled : List Edit} {e : Edit}
    (h : schedule s es = .ok scheduled) (he : e ∈ es) :
    schedule s (es ++ [e]) = .ok scheduled ↔ e ∈ scheduled ∨ e.text = "" := by
  obtain ⟨scheduled', h'⟩ : ∃ scheduled', schedule s (es ++ [e]) = .ok scheduled' := by
    obtain ⟨hfits, hcompatible⟩ := exists_schedule_iff.1 ⟨_, h⟩
    have hmem : ∀ a ∈ es ++ [e], a ∈ es := by
      intro a ha
      rcases List.mem_append.1 ha with ha | ha
      · exact ha
      · rwa [List.mem_singleton.1 ha]
    exact exists_schedule_iff.2
      ⟨fun a ha => hfits a (hmem a ha), fun a ha b hb => hcompatible a (hmem a ha) b (hmem b hb)⟩
  obtain ⟨m, hm⟩ : ∃ m, merged (startingAt e.start es) = some m :=
    Option.ne_none_iff_exists'.1 (mt merged_eq_none.1 (List.ne_nil_of_mem (mem_startingAt.2 he)))
  have hmerged : ∀ o, merged (startingAt o (es ++ [e])) =
      if e.start = o then some (m.join e) else merged (startingAt o es) := by
    intro o
    rw [startingAt_append, startingAt_singleton]
    by_cases ho : e.start = o
    · subst ho
      simp [merged_concat, hm]
    · simp [ho]
  have hplace := startingAt_schedule h e.start
  rw [hm] at hplace
  have hmem : e ∈ scheduled ↔ m = e := by
    rw [← mem_startingAt, hplace, Option.toList_some, List.mem_singleton, eq_comm]
  have hjoin : m.join e = m ↔ m = e ∨ e.text = "" := by
    unfold join
    by_cases hme : m = e
    · simp [hme]
    · rw [if_neg hme]
      obtain ⟨start, stop, t⟩ := m
      simp [hme]
  rw [hmem, ← hjoin]
  constructor
  · intro heq
    have hplace' := startingAt_schedule heq e.start
    rw [hplace, hmerged, if_pos rfl] at hplace'
    exact (List.cons.inj hplace').1.symm
  · intro heq
    rw [schedule_congr h h' fun o => ?_, h']
    rw [hmerged]
    split
    · rename_i ho
      rw [heq, ← ho, hm]
    · rfl

/-- At each place the insertions that are kept are joined. These are the distinct ones, each once,
if and only if to repeat the distinct ones in front is the same as to repeat one of them. -/
theorem insertions_of_schedule {s : List Char} {es scheduled : List Edit}
    (h : schedule s es = .ok scheduled) :
    (∀ o, insertionsAt o es ≠ [] →
      startingAt o scheduled = [insert o (String.join (kept (insertionsAt o es)))] ∧
      (kept (insertionsAt o es) = (insertionsAt o es).eraseDups ↔
        ∀ front t back, insertionsAt o es = front ++ t :: back → front ≠ [] →
          (t = String.join front.eraseDups ↔ t ∈ front))) ∧
    ∀ e ∈ es, schedule s (es ++ [e]) = .ok scheduled ↔ e ∈ scheduled ∨ e.text = "" :=
  ⟨fun _ ho => ⟨schedule_insertions h ho, kept_eq_iff _⟩, fun _ he => schedule_append_iff h he⟩

theorem insertions_of_schedule_repeated :
    schedule "x".toList ([insert 0 "a", insert 0 "b"] ++ [insert 0 "a"]) ≠
      .ok [insert 0 "ab"] := by
  have h : schedule "x".toList [insert 0 "a", insert 0 "b"] = .ok [insert 0 "ab"] := by rfl
  rw [ne_eq, (insertions_of_schedule h).2 (insert 0 "a") List.mem_cons_self]
  decide

end MarkupSplice.Edit
