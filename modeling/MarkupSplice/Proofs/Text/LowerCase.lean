import MarkupSplice.Text.LetterCase
import MarkupSplice.Proofs.Text.Cutting

/-!
# Parts of a text in lower case

A part of a text is written in lower case as it would be alone, but for its capital
sigmas: whether one of them is final depends on what stands around the part
(`lowerWithin_eq_iff`). White space keeps the two sides of it from each other, so the
words of a text in lower case are its words in lower case (`lower_mem_words`).
-/
namespace MarkupSplice.Text

variable {a b front back r s t u w : List Char} {c : Char}

/-- Whether a capital sigma between these texts is a final one; `front` comes nearest first. -/
def isFinal (front back : List Char) : Bool := meetsCased front && !meetsCased back

def smallSigma (final : Bool) : Char := if final then 'ς' else 'σ'

theorem smallSigma_inj : ∀ {f f' : Bool}, smallSigma f = smallSigma f' → f = f' := by decide

def lowerWithin (front : List Char) : List Char → List Char → List Char
  | [], _ => []
  | c :: s, back =>
    (if c = 'Σ' then [smallSigma (isFinal front (s ++ back))] else lowerChar c) ++
      lowerWithin (c :: front) s back

theorem lowerFrom_eq (front s : List Char) : lowerFrom front s = lowerWithin front s [] := by
  induction s generalizing front with
  | nil => rfl
  | cons c s ih =>
    rw [lowerFrom, lowerWithin, List.append_nil, ih]
    split <;> rfl

theorem lowerWithin_append (front s t back : List Char) :
    lowerWithin front (s ++ t) back =
      lowerWithin front s (t ++ back) ++ lowerWithin (s.reverse ++ front) t back := by
  induction s generalizing front with
  | nil => rfl
  | cons c s ih =>
    rw [List.cons_append, lowerWithin, lowerWithin, ih, List.append_assoc, List.append_assoc,
      List.reverse_cons, List.append_assoc, List.singleton_append]

theorem lower_append (a s b : List Char) :
    lower (a ++ s ++ b) = lowerWithin [] a (s ++ b) ++ lowerWithin a.reverse s b ++
      lowerWithin (s.reverse ++ a.reverse) b [] := by
  rw [lower, lowerFrom_eq, lowerWithin_append, lowerWithin_append, List.append_nil,
    List.append_nil, List.reverse_append, List.append_nil]

theorem lower_eq (s : List Char) : lower s = lowerWithin [] s [] := lowerFrom_eq [] s

theorem length_lowerWithin (front back front' back' s : List Char) :
    (lowerWithin front s back).length = (lowerWithin front' s back').length := by
  induction s generalizing front front' with
  | nil => rfl
  | cons c s ih =>
    rw [lowerWithin, lowerWithin, List.length_append, List.length_append, ih (c :: front) (c :: front')]
    split <;> rfl

theorem lowerWithin_eq_iff {front' back' : List Char} :
    lowerWithin front s back = lowerWithin front' s back' ↔
      ∀ u v, s = u ++ 'Σ' :: v →
        isFinal (u.reverse ++ front) (v ++ back) = isFinal (u.reverse ++ front') (v ++ back') := by
  induction s generalizing front front' with
  | nil => simp [lowerWithin]
  | cons c s ih =>
    have hrest : lowerWithin (c :: front) s back = lowerWithin (c :: front') s back' ↔
        ∀ u v, s = u ++ 'Σ' :: v → isFinal ((c :: u).reverse ++ front) (v ++ back) =
          isFinal ((c :: u).reverse ++ front') (v ++ back') := by
      simp only [ih, List.reverse_cons, List.append_assoc, List.singleton_append]
    rw [lowerWithin, lowerWithin]
    constructor
    · intro h u v huv
      obtain ⟨hhead, htail⟩ := List.append_inj h (by split <;> rfl)
      cases u with
      | nil =>
        obtain ⟨rfl, rfl⟩ := List.cons.inj huv
        rw [if_pos rfl, if_pos rfl] at hhead
        exact smallSigma_inj (List.cons.inj hhead).1
      | cons d u =>
        obtain ⟨rfl, huv'⟩ := List.cons.inj huv
        exact hrest.1 htail u v huv'
    · intro h
      have hhead : c = 'Σ' → isFinal front (s ++ back) = isFinal front' (s ++ back') := by
        rintro rfl
        exact h [] s rfl
      have htail := hrest.2 fun u v huv => h (c :: u) v (by rw [huv, List.cons_append])
      rw [htail]
      split
      · rename_i hc
        rw [hhead hc]
      · rfl

def KeepsSigmas (a s b : List Char) : Prop :=
  ∀ u v, s = u ++ 'Σ' :: v → isFinal (u.reverse ++ a.reverse) (v ++ b) = isFinal u.reverse v

theorem lowerWithin_eq_lower_iff : lowerWithin a.reverse s b = lower s ↔ KeepsSigmas a s b := by
  rw [lower_eq, lowerWithin_eq_iff]
  simp only [List.append_nil, KeepsSigmas]

def isCaseless (c : Char) : Bool := !inRanges caseIgnorable c.toNat && !inRanges cased c.toNat

theorem meetsCased_append (h : StartsWith isCaseless t) :
    meetsCased (s ++ t) = meetsCased s := by
  induction s with
  | nil =>
    cases t with
    | nil => rfl
    | cons c t =>
      have hc := h c rfl
      rw [isCaseless, Bool.and_eq_true, Bool.not_eq_true', Bool.not_eq_true'] at hc
      simp [meetsCased, hc.1, hc.2]
  | cons c s ih =>
    rw [List.cons_append, meetsCased, meetsCased, ih]

/-- Between characters without a case a part of a text is written as it would be alone. -/
theorem keepsSigmas_of_caseless (ha : EndsWith isCaseless a) (hb : StartsWith isCaseless b)
    (s : List Char) : KeepsSigmas a s b := by
  intro u v _
  have hfront : StartsWith isCaseless a.reverse := by
    rwa [StartsWith, List.head?_reverse]
  rw [isFinal, isFinal, meetsCased_append hfront, meetsCased_append hb]

def apart (as bs : List (Nat × Nat)) : Bool :=
  as.all fun (m, n) => bs.all fun (m', n') => n < m' || n' < m

theorem inRanges_eq_false {as bs : List (Nat × Nat)} (h : apart as bs = true) {n : Nat}
    (hn : inRanges as n = true) : inRanges bs n = false := by
  obtain ⟨⟨m, m'⟩, hmem, hm⟩ := List.any_eq_true.1 hn
  rw [Bool.and_eq_true, decide_eq_true_eq, decide_eq_true_eq] at hm
  rw [inRanges, List.any_eq_false]
  rintro ⟨k, k'⟩ hk
  have hclear := List.all_eq_true.1 (List.all_eq_true.1 h _ hmem) _ hk
  simp only [Bool.or_eq_true, decide_eq_true_eq, Bool.and_eq_true] at hclear ⊢
  omega

theorem isCaseless_of_isBlank (hc : isBlank c = true) : isCaseless c = true := by
  have hignorable : apart blankRanges caseIgnorable = true := by decide +kernel
  have hcased : apart blankRanges cased = true := by decide +kernel
  rw [isCaseless, inRanges_eq_false hignorable hc, inRanges_eq_false hcased hc]
  rfl

theorem lowerPoint_blank {n : Nat} (hn : inRanges blankRanges n = true) : lowerPoint n = n := by
  have hapart : apart blankRanges (lowercaseRuns.map fun run => (run.1, run.2.1)) = true := by
    decide +kernel
  have hclear := inRanges_eq_false hapart hn
  rw [inRanges, List.any_map, List.any_eq_false] at hclear
  rw [lowerPoint, List.find?_eq_none.2]
  intro run hrun hin
  rw [Bool.and_eq_true] at hin
  exact hclear run hrun hin.1

theorem blank_of_lowerPoint {n : Nat} (h : inRanges blankRanges (lowerPoint n) = true) :
    inRanges blankRanges n = true := by
  have hapart : (lowercaseRuns.all fun run => blankRanges.all fun range =>
      decide (0 < range.1 ∧ (run.2.1 + run.2.2.2 < range.1 ∨ range.2 < run.1 + run.2.2.2))) =
        true := by
    decide +kernel
  rw [lowerPoint] at h
  split at h
  · rename_i first last gap distance hrun
    have hclear := List.all_eq_true.1 (List.all_eq_true.1 hapart _ (List.mem_of_find?_eq_some hrun))
    have hin := List.find?_some hrun
    obtain ⟨⟨a, b⟩, hmem, hab⟩ := List.any_eq_true.1 h
    have hfar := hclear _ hmem
    simp only [Bool.and_eq_true, decide_eq_true_eq] at hin hab hfar
    omega
  · exact h

theorem lowerChar_of_isBlank (hc : isBlank c = true) : lowerChar c = [c] := by
  have hdotted : c.toNat ≠ 0x130 := by
    intro heq
    rw [isBlank, heq] at hc
    revert hc
    decide
  rw [lowerChar, if_neg hdotted, lowerPoint_blank hc, Char.ofNat_toNat]

theorem isBlank_of_mem_lowerChar {c' : Char} (hc' : c' ∈ lowerChar c) (hblank : isBlank c' = true) :
    isBlank c = true := by
  rw [lowerChar] at hc'
  split at hc'
  · have hclear : ∀ d ∈ ['i', '\u0307'], isBlank d = false :=
      List.forall_mem_cons.2 ⟨by decide, List.forall_mem_singleton.2 (by decide)⟩
    cases (hclear c' hc').symm.trans hblank
  · obtain rfl := List.mem_singleton.1 hc'
    apply blank_of_lowerPoint
    by_cases hvalid : (lowerPoint c.toNat).isValidChar
    · have hvalue : (Char.ofNat (lowerPoint c.toNat)).toNat = lowerPoint c.toNat := by
        rw [Char.ofNat, dif_pos hvalid]
        rfl
      rwa [isBlank, hvalue] at hblank
    · rw [Char.ofNat, dif_neg hvalid] at hblank
      exact absurd hblank (by decide)

theorem lowerWithin_blank (hc : isBlank c = true) (front s back : List Char) :
    lowerWithin front (c :: s) back = c :: lowerWithin (c :: front) s back := by
  have hsigma : c ≠ 'Σ' := by
    rintro rfl
    exact absurd hc (by decide)
  rw [lowerWithin, if_neg hsigma, lowerChar_of_isBlank hc, List.singleton_append]

theorem lowerWithin_startsWith (hs : StartsWith isBlank s) :
    StartsWith isBlank (lowerWithin front s back) := by
  cases s with
  | nil => exact hs
  | cons c s =>
    rw [lowerWithin_blank (hs c rfl)]
    exact hs

theorem lowerWithin_endsWith (hs : EndsWith isBlank s) :
    EndsWith isBlank (lowerWithin front s back) := by
  cases List.eq_nil_or_concat s with
  | inl hnil =>
    subst hnil
    exact hs
  | inr hsnoc =>
    obtain ⟨s, c, rfl⟩ := hsnoc
    have hc : isBlank c = true := hs c (by simp)
    rw [List.concat_eq_append, lowerWithin_append, lowerWithin_blank hc]
    exact (endsWith_nil isBlank).append_cons hc _

theorem isBlank_of_mem_lowerWithin (hc : c ∈ lowerWithin front s back) (hblank : isBlank c = true) :
    ∃ d ∈ s, isBlank d = true := by
  induction s generalizing front with
  | nil => cases hc
  | cons d s ih =>
    rw [lowerWithin, List.mem_append] at hc
    rcases hc with hc | hc
    · refine ⟨d, List.mem_cons_self, ?_⟩
      split at hc
      · have hsigma : ∀ f, isBlank (smallSigma f) = false := by decide
        rw [List.mem_singleton.1 hc, hsigma] at hblank
        cases hblank
      · exact isBlank_of_mem_lowerChar hc hblank
    · obtain ⟨d', hd', hblank'⟩ := ih hc
      exact ⟨d', List.mem_cons_of_mem d hd', hblank'⟩

theorem lower_ne_nil (hs : s ≠ []) : lower s ≠ [] := by
  obtain ⟨c, s, rfl⟩ := List.exists_cons_of_ne_nil hs
  rw [lower_eq, lowerWithin, lowerChar]
  split
  · nofun
  · split <;> nofun

theorem lower_mem_words (h : w ∈ words s) : lower w ∈ words (lower s) := by
  obtain ⟨hne, hw, a, b, rfl, ha, hb⟩ := mem_wordsBy_iff.1 h
  have hkeeps : KeepsSigmas a w b :=
    keepsSigmas_of_caseless (fun c hc => isCaseless_of_isBlank (ha c hc))
      (fun c hc => isCaseless_of_isBlank (hb c hc)) w
  rw [lower_append, lowerWithin_eq_lower_iff.2 hkeeps]
  refine mem_wordsBy_iff.2 ⟨lower_ne_nil hne, fun c hc => ?_, _, _, rfl, lowerWithin_endsWith ha,
    lowerWithin_startsWith hb⟩
  refine Bool.eq_false_iff.2 fun hblank => ?_
  obtain ⟨d, hd, hd'⟩ := isBlank_of_mem_lowerWithin (lower_eq w ▸ hc) hblank
  cases (hw d hd).symm.trans hd'

end MarkupSplice.Text
