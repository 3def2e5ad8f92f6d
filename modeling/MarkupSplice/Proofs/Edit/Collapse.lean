import MarkupSplice.Proofs.Edit.Merging
import MarkupSplice.Proofs.Edit.Shift

/-!
# Insertions none of which begins with another

When no insertion at a place begins with another one, nothing that is planned
there repeats all that has been joined but the first one, again and again: all
others are joined as they come (`kept_eq_collapse`). Edits that make the same
together at every place do the same to a text (`applyEdits_of_merged`).
-/
namespace MarkupSplice.Edit
open Text

/-- A list without what repeats its first element right behind it. -/
def collapse {α : Type} [DecidableEq α] : List α → List α
  | [] => []
  | a :: as => a :: as.dropWhile (· == a)

theorem pairwise_iff_split {α : Type} {S : α → α → Prop} {as : List α} :
    as.Pairwise S ↔ ∀ front b back, as = front ++ b :: back → ∀ a ∈ front, S a b := by
  constructor
  · rintro h front b back rfl a ha
    exact (List.pairwise_append.1 h).2.2 a ha b List.mem_cons_self
  · intro h
    induction as with
    | nil => exact List.Pairwise.nil
    | cons a as ih =>
      refine List.pairwise_cons.2 ⟨fun b hb => ?_, ih fun front b back hsplit c hc => ?_⟩
      · obtain ⟨front, back, rfl⟩ := List.append_of_mem hb
        exact h (a :: front) b back rfl a List.mem_cons_self
      · exact h (a :: front) b back (congrArg (a :: ·) hsplit) c (List.mem_cons_of_mem _ hc)

section Collapse

variable {α β : Type} [DecidableEq α] [DecidableEq β]

theorem collapse_map {g : α → β} (hg : Function.Injective g) (as : List α) :
    collapse (as.map g) = (collapse as).map g := by
  cases as with
  | nil => rfl
  | cons a as =>
    have hbeq : ((· == g a) ∘ g) = (· == a) := funext fun b => by simp [hg.eq_iff]
    rw [List.map_cons, collapse, collapse, List.map_cons, List.dropWhile_map, hbeq]

theorem collapse_subset (as : List α) : collapse as ⊆ as := by
  cases as with
  | nil => exact List.Subset.refl _
  | cons a as => exact List.cons_subset_cons a (List.dropWhile_suffix _).subset

theorem dropWhile_split (a : α) (as : List α) :
    ∃ k, as = List.replicate k a ++ as.dropWhile (· == a) := by
  refine ⟨(as.takeWhile (· == a)).length, ?_⟩
  have hsame : as.takeWhile (· == a) = List.replicate (as.takeWhile (· == a)).length a :=
    List.eq_replicate_of_mem fun b hb => by simpa using List.mem_takeWhile_imp hb
  rw [← hsame, List.takeWhile_append_dropWhile]

theorem collapse_replicate_append {a : α} {as : List α} (h : ∀ b ∈ as.head?, b ≠ a) (k : Nat) :
    collapse (List.replicate (k + 1) a ++ as) = a :: as := by
  have hdrop : as.dropWhile (· == a) = as := by
    cases as with
    | nil => rfl
    | cons b as => exact List.dropWhile_cons_of_neg (by simpa using h b rfl)
  rw [List.replicate_succ, List.cons_append, collapse, List.dropWhile_append_of_pos (by simp),
    hdrop]

/-- What is left of a list has no related pair if and only if an element that one in front of it
is related to has only itself in front of it. -/
theorem pairwise_collapse_iff {R : α → α → Prop} (as : List α) :
    (collapse as).Pairwise (fun a b => ¬R a b) ↔
      ¬∃ front b back, as = front ++ b :: back ∧ (∃ a ∈ front, R a b) ∧ ∃ t ∈ front, t ≠ b := by
  cases as with
  | nil => simp [collapse]
  | cons a as =>
    obtain ⟨k, hsplit⟩ := dropWhile_split a as
    have hhead := List.head?_dropWhile_not (· == a) as
    rw [collapse, pairwise_iff_split]
    generalize as.dropWhile (· == a) = rest at hsplit hhead ⊢
    have hall : a :: as = List.replicate (k + 1) a ++ rest := congrArg (a :: ·) hsplit
    rw [hall]
    constructor
    · rintro hpair ⟨front, b, back, hfront, ⟨c, hc, hR⟩, t, ht, hne⟩
      rcases List.append_eq_append_iff.1 hfront with ⟨more, rfl, hrest⟩ | ⟨more, hfirst, hrest⟩
      · -- behind the repetitions everything is left
        refine hpair (a :: more) b back (congrArg (a :: ·) hrest) c ?_ hR
        rcases List.mem_append.1 hc with hc | hc
        · rw [List.eq_of_mem_replicate hc]
          exact List.mem_cons_self
        · exact List.mem_cons_of_mem _ hc
      · have hsame : ∀ d ∈ front ++ more, d = a := fun d hd =>
          List.eq_of_mem_replicate (hfirst ▸ hd)
        cases more with
        | nil =>
          refine hpair [a] b back (congrArg (a :: ·) hrest.symm) c ?_ hR
          rw [hsame c (List.mem_append_left _ hc)]
          exact List.mem_cons_self
        | cons d more =>
          obtain ⟨rfl, -⟩ := List.cons.inj hrest
          exact hne ((hsame t (List.mem_append_left _ ht)).trans (hsame b (by simp)).symm)
    · intro hnone front b back hfront c hc hR
      cases front with
      | nil => cases hc
      | cons d more =>
        obtain ⟨rfl, rfl⟩ := List.cons.inj hfront
        refine hnone ⟨List.replicate (k + 1) a ++ more, b, back, by simp, ⟨c, ?_, hR⟩, ?_⟩
        · rcases List.mem_cons.1 hc with rfl | hc
          · exact List.mem_append_left _ (by simp)
          · exact List.mem_append_right _ hc
        · by_cases hba : b = a
          · subst hba
            cases more with
            | nil => simp at hhead
            | cons d more => exact ⟨d, by simp, by simpa using hhead⟩
          · exact ⟨a, by simp, Ne.symm hba⟩

end Collapse

theorem keptBehind_eq_self {t front : String} {ts : List String}
    (hfront : t.toList <+: front.toList) (hne : t ≠ front)
    (h : ∀ u ∈ ts, t.toList <+: u.toList → t = u) : keptBehind front ts = ts := by
  induction ts generalizing front with
  | nil => rfl
  | cons u ts ih =>
    have hu : u ≠ front := by
      rintro rfl
      exact hne (h u List.mem_cons_self hfront)
    have hlonger : t ≠ front ++ u := by
      rintro rfl
      have hle := hfront.length_le
      rw [String.toList_append, List.length_append] at hle
      have hempty : u = "" := by
        rw [← String.toList_eq_nil_iff, ← List.length_eq_zero_iff]
        omega
      exact hne (by rw [hempty, String.append_empty])
    rw [keptBehind, if_neg hu, ih ?_ hlonger fun v hv => h v (List.mem_cons_of_mem _ hv)]
    rw [String.toList_append]
    exact hfront.trans (List.prefix_append _ _)

theorem keptBehind_eq_dropWhile {t : String} {ts : List String}
    (hfront : ∀ u ∈ ts, t.toList <+: u.toList → t = u)
    (hback : ∀ u ∈ ts, u.toList <+: t.toList → u = t) :
    keptBehind t ts = ts.dropWhile (· == t) := by
  induction ts with
  | nil => rfl
  | cons u ts ih =>
    have hfront' : ∀ v ∈ ts, t.toList <+: v.toList → t = v := fun v hv =>
      hfront v (List.mem_cons_of_mem _ hv)
    rw [keptBehind]
    by_cases hu : u = t
    · rw [if_pos hu, List.dropWhile_cons_of_pos (by simpa using hu)]
      exact ih hfront' fun v hv => hback v (List.mem_cons_of_mem _ hv)
    · rw [if_neg hu, List.dropWhile_cons_of_neg (by simpa using hu)]
      congr 1
      refine keptBehind_eq_self ?_ ?_ hfront'
      · rw [String.toList_append]
        exact List.prefix_append _ _
      · intro heq
        have hempty : u.toList = [] := by
          have hlist := congrArg String.toList heq
          rwa [String.toList_append, List.self_eq_append_right] at hlist
        exact hu (hback u List.mem_cons_self (hempty ▸ List.nil_prefix))

/-- An insertion is dropped only when it repeats the first one at once. -/
theorem kept_eq_collapse {ts : List String}
    (h : ∀ t ∈ ts, ∀ u ∈ ts, t.toList <+: u.toList → t = u) : kept ts = collapse ts := by
  cases ts with
  | nil => rfl
  | cons t ts =>
    rw [kept, collapse, keptBehind_eq_dropWhile]
    · exact fun u hu => h t List.mem_cons_self u (List.mem_cons_of_mem _ hu)
    · exact fun u hu => h u (List.mem_cons_of_mem _ hu) t List.mem_cons_self

section Merged

variable {n o : Nat} {as bs : List Edit}

theorem merged_of_same {e : Edit} (he : e ∈ as) (h : ∀ a ∈ as, a = e) : merged as = some e := by
  induction as using List.reverseRecOn with
  | nil => cases he
  | append_singleton as a ih =>
    obtain rfl := h a (by simp)
    rw [merged_concat]
    cases as with
    | nil => rfl
    | cons b as =>
      obtain rfl := h b (by simp)
      rw [ih List.mem_cons_self fun c hc => h c (List.mem_append_left _ hc), Option.elim_some,
        join, if_pos rfl]

theorem merged_startingAt_congr (h : ∀ e : Edit, e.start = o → (e ∈ as ↔ e ∈ bs))
    (hone : ∀ a ∈ as, ∀ b ∈ as, a.start = o → b.start = o → a = b) :
    merged (startingAt o as) = merged (startingAt o bs) := by
  have hmem : ∀ {es : List Edit} {e : Edit}, e ∈ startingAt o es ↔ e ∈ es ∧ e.start = o := by
    simp [startingAt]
  cases has : startingAt o as with
  | nil =>
    have hbs : startingAt o bs = [] := by
      apply List.eq_nil_iff_forall_not_mem.2
      intro e he
      obtain ⟨he, hstart⟩ := hmem.1 he
      exact List.ne_nil_of_mem (hmem.2 ⟨(h e hstart).2 he, hstart⟩) has
    rw [hbs]
  | cons e es =>
    obtain ⟨he, hstart⟩ := hmem.1 (has ▸ List.mem_cons_self : e ∈ startingAt o as)
    rw [← has, merged_of_same (hmem.2 ⟨he, hstart⟩),
      merged_of_same (hmem.2 ⟨(h e hstart).1 he, hstart⟩)]
    · intro b hb
      obtain ⟨hb, hb'⟩ := hmem.1 hb
      exact hone b ((h b hb').2 hb) e he hb' hstart
    · intro a ha
      obtain ⟨ha, ha'⟩ := hmem.1 ha
      exact hone a ha e he ha' hstart

theorem merged_parts {as cs is ts : List Edit} {d : Nat} (has : ∀ e ∈ as, e.start ≤ d)
    (hcs : ∀ e ∈ cs, e.start < d) (his : ∀ e ∈ is, e.start = d) (hts : ∀ e ∈ ts, d < e.start)
    (hfront : ∀ o, o ≠ d → merged (startingAt o as) = merged (startingAt o cs))
    (hat : merged (startingAt d as) = merged is) (o : Nat) :
    merged (startingAt o (as ++ ts)) = merged (startingAt o (cs ++ (is ++ ts))) := by
  rw [startingAt_append, startingAt_append, startingAt_append]
  by_cases ho : o = d
  · have hnone : startingAt o cs = [] := startingAt_eq_nil fun e he => ho ▸ Nat.ne_of_lt (hcs e he)
    have hbehind : startingAt o ts = [] :=
      startingAt_eq_nil fun e he => ho ▸ Nat.ne_of_gt (hts e he)
    have hall : startingAt o is = is := startingAt_eq_self fun e he => (his e he).trans ho.symm
    rw [hnone, hbehind, hall, List.append_nil, List.append_nil, List.nil_append, ho, hat]
  · have hnone : startingAt o is = [] := startingAt_eq_nil fun e he => his e he ▸ Ne.symm ho
    rw [hnone, List.nil_append]
    rcases Nat.lt_or_gt_of_ne ho with hlt | hgt
    · have hbehind : startingAt o ts = [] :=
        startingAt_eq_nil fun e he => Nat.ne_of_gt (Nat.lt_trans hlt (hts e he))
      rw [hbehind, List.append_nil, List.append_nil, hfront o ho]
    · have hplanned : startingAt o as = [] :=
        startingAt_eq_nil fun e he => Nat.ne_of_lt (Nat.lt_of_le_of_lt (has e he) hgt)
      have hchanged : startingAt o cs = [] :=
        startingAt_eq_nil fun e he => Nat.ne_of_lt (Nat.lt_trans (hcs e he) hgt)
      rw [hplanned, hchanged]

theorem join_shift (a b : Edit) : (a.shift n).join (b.shift n) = (a.join b).shift n := by
  unfold join
  by_cases hab : a = b
  · rw [if_pos hab, if_pos (congrArg _ hab)]
  · rw [if_neg hab, if_neg fun h => hab (shift_inj.1 h)]
    rfl

theorem merged_shift (n : Nat) (es : List Edit) :
    merged (es.map (shift n)) = (merged es).map (shift n) := by
  induction es using List.reverseRecOn with
  | nil => rfl
  | append_singleton es e ih =>
    rw [List.map_append, List.map_singleton, merged_concat, merged_concat, ih]
    cases merged es with
    | none => rfl
    | some m => exact congrArg some (join_shift m e)

theorem applyEdits_of_merged {text out : String}
    (ha : ∃ scheduled, schedule text.toList (shiftPastMark text.toList as) = .ok scheduled)
    (hb : applyEdits text (shiftPastMark text.toList bs) = .ok out)
    (h : ∀ o, merged (startingAt o as) = merged (startingAt o bs)) :
    applyEdits text (shiftPastMark text.toList as) = .ok out := by
  obtain ⟨scheduled, has⟩ := ha
  obtain ⟨scheduled', hbs, hout⟩ := schedule_of_applyEdits hb
  have hmerged : ∀ o, merged (startingAt o (shiftPastMark text.toList as)) =
      merged (startingAt o (shiftPastMark text.toList bs)) := by
    intro o
    rw [Stretch.shiftPastMark_eq, Stretch.shiftPastMark_eq, Stretch.startingAt_shift,
      Stretch.startingAt_shift]
    split
    · rw [merged_shift, merged_shift, h]
    · rfl
  obtain rfl := schedule_congr has hbs hmerged
  rw [← hb, applyEdits, applyEdits, apply, apply, has, hbs]

end Merged

end MarkupSplice.Edit
