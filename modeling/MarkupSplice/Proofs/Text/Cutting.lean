import MarkupSplice.Text.Blank
import MarkupSplice.Text.Search

/-!
# Texts cut in pieces

A text is cut at the first of the characters that end a piece (`cutAt_skip`), and
words are cut at each of the characters between them (`wordsBy_append`). Words
joined by such a character are cut into the same words again (`wordsBy_intercalate`).
-/
namespace MarkupSplice.Text

section Cut

variable {q : Char} {s a b : List Char}

theorem after?_cons_ne {c : Char} (h : c ≠ q) (s : List Char) : after? [q] (c :: s) = none := by
  simp [after?, List.isPrefixOf, Ne.symm h]

theorem cutAt_skip (hs : q ∉ s) (t : List Char) :
    cutAt [q] (s ++ t) = (cutAt [q] t).map fun p => (s ++ p.1, p.2) := by
  induction s with
  | nil => simp
  | cons c s ih =>
    obtain ⟨h1, h2⟩ := not_or.1 (mt List.mem_cons.2 hs)
    simp [cutAt, after?_cons_ne (Ne.symm h1), ih h2, Function.comp_def]

theorem cutAt_char (hs : q ∉ s) (t : List Char) : cutAt [q] (s ++ q :: t) = some (s, t) := by
  rw [cutAt_skip hs]
  simp [cutAt, after?, List.isPrefixOf]

theorem cutAt_char_eq_none (hs : q ∉ s) : cutAt [q] s = none := by
  rw [← List.append_nil s, cutAt_skip hs]
  rfl

theorem not_mem_of_cutAt_char (h : cutAt [q] s = some (a, b)) : q ∉ a := by
  induction s generalizing a with
  | nil => cases h
  | cons c s ih =>
    simp only [cutAt] at h
    split at h
    · cases h
      simp
    · rename_i hc
      obtain ⟨⟨a', b'⟩, hs, he⟩ := Option.map_eq_some_iff.1 h
      obtain ⟨rfl, rfl⟩ := Prod.mk.inj he
      have hne : q ≠ c := by
        rintro rfl
        simp [after?, List.isPrefixOf] at hc
      simp [hne, ih hs]

theorem not_mem_of_cutAt_char_eq_none (h : cutAt [q] s = none) : q ∉ s := by
  induction s with
  | nil => simp
  | cons c s ih =>
    simp only [cutAt] at h
    split at h
    · cases h
    · rename_i hc
      have hne : q ≠ c := by
        rintro rfl
        simp [after?, List.isPrefixOf] at hc
      simp [hne, ih (Option.map_eq_none_iff.1 h)]

end Cut

section Words

variable {p : Char → Bool} {w s : List Char}

theorem mem_splitOnP (hw : w ∈ s.splitOnP p) : ∀ c ∈ w, c ∈ s ∧ p c = false := by
  induction s generalizing w with
  | nil =>
    rw [List.splitOnP_nil, List.mem_singleton] at hw
    simp [hw]
  | cons d s ih =>
    obtain ⟨v, vs, hv⟩ := List.exists_cons_of_ne_nil (List.splitOnP_ne_nil p s)
    have hrest : ∀ u ∈ v :: vs, ∀ c ∈ u, c ∈ d :: s ∧ p c = false := fun u hu c hc =>
      (ih (hv ▸ hu) c hc).imp_left (List.mem_cons_of_mem d)
    rw [List.splitOnP_cons_eq_if_modifyHead, hv] at hw
    split at hw
    · rcases List.mem_cons.1 hw with rfl | hw
      · simp
      · exact hrest w hw
    · rename_i hd
      rcases List.mem_cons.1 hw with rfl | hw
      · intro c hc
        rcases List.mem_cons.1 hc with rfl | hc
        · exact ⟨List.mem_cons_self, by simpa using hd⟩
        · exact hrest v List.mem_cons_self c hc
      · exact hrest w (List.mem_cons_of_mem v hw)

theorem wordsBy_eq (p : Char → Bool) (s : List Char) :
    wordsBy p s = (s.splitOnP p).filter fun w => !w.isEmpty := by
  unfold wordsBy
  congr 1
  induction s with
  | nil => rfl
  | cons c s ih =>
    obtain ⟨w, ws, hw⟩ := List.exists_cons_of_ne_nil (List.splitOnP_ne_nil p s)
    rw [List.foldr_cons, ih, List.splitOnP_cons_eq_if_modifyHead, hw]
    rfl

theorem wordsBy_append {c : Char} (hc : p c = true) (a b : List Char) :
    wordsBy p (a ++ c :: b) = wordsBy p a ++ wordsBy p b := by
  simp only [wordsBy_eq, List.splitOnP_append_cons a b hc, List.filter_append]

theorem wordsBy_intercalate {q : Char} {ws : List (List Char)} (hws : ∀ w ∈ ws, w ≠ [] ∧ q ∉ w) :
    wordsBy (· == q) ([q].intercalate ws) = ws := by
  by_cases hnil : ws = []
  · subst hnil
    rfl
  · rw [wordsBy_eq]
    change (([q].intercalate ws).splitOn q).filter _ = ws
    rw [List.splitOn_intercalate q (fun w hw => (hws w hw).2) hnil, List.filter_eq_self]
    intro w hw
    simpa using (hws w hw).1

theorem mem_intercalate {q c : Char} {ws : List (List Char)} (h : c ∈ [q].intercalate ws) :
    c = q ∨ ∃ w ∈ ws, c ∈ w := by
  induction ws with
  | nil => cases h
  | cons w ws ih =>
    cases ws with
    | nil => exact Or.inr ⟨w, List.mem_cons_self, by simpa using h⟩
    | cons v ws =>
      rw [List.intercalate_cons_cons, List.mem_append, List.mem_append] at h
      rcases h with (h | h) | h
      · exact Or.inr ⟨w, List.mem_cons_self, h⟩
      · exact Or.inl (List.mem_singleton.1 h)
      · exact (ih h).imp_right fun ⟨u, hu, hc⟩ => ⟨u, List.mem_cons_of_mem w hu, hc⟩

theorem mem_wordsBy (hw : w ∈ wordsBy p s) : w ≠ [] ∧ ∀ c ∈ w, c ∈ s ∧ p c = false := by
  rw [wordsBy_eq, List.mem_filter] at hw
  exact ⟨by simpa using hw.2, mem_splitOnP hw.1⟩

theorem wordsBy_of_none (hne : s ≠ []) (hs : ∀ c ∈ s, p c = false) : wordsBy p s = [s] := by
  rw [wordsBy_eq, List.splitOnP_eq_singleton hs]
  simp [hne]

def EndsWith (p : Char → Bool) (a : List Char) : Prop := ∀ c ∈ a.getLast?, p c = true

def StartsWith (p : Char → Bool) (b : List Char) : Prop := ∀ c ∈ b.head?, p c = true

theorem endsWith_nil (p : Char → Bool) : EndsWith p [] := nofun

theorem EndsWith.append_cons {c : Char} (hc : p c = true) {a : List Char} (ha : EndsWith p a)
    (l : List Char) : EndsWith p (l ++ c :: a) := by
  intro d hd
  rw [List.getLast?_append, List.getLast?_cons, Option.some_or] at hd
  obtain rfl := Option.some.inj hd
  cases hlast : a.getLast? with
  | none => exact hc
  | some d => exact ha d hlast

theorem StartsWith.append_cons {c : Char} (hc : p c = true) {b : List Char} (hb : StartsWith p b)
    (r : List Char) : StartsWith p (b ++ c :: r) := by
  cases b with
  | nil => exact fun d hd => Option.some.inj hd ▸ hc
  | cons d b => exact hb

theorem exists_of_mem_wordsBy {s : List Char} (hw : w ∈ wordsBy p s) :
    ∃ a b, s = a ++ w ++ b ∧ EndsWith p a ∧ StartsWith p b := by
  by_cases hcut : ∃ c ∈ s, p c = true
  · obtain ⟨c, hc, hpc⟩ := hcut
    obtain ⟨l, r, hs⟩ := List.append_of_mem hc
    have hlength : s.length = l.length + (r.length + 1) := by
      rw [hs, List.length_append, List.length_cons]
    rw [hs, wordsBy_append hpc, List.mem_append] at hw
    rcases hw with hw | hw
    · obtain ⟨a, b, hl, ha, hb⟩ := exists_of_mem_wordsBy hw
      exact ⟨a, b ++ c :: r, by simp [hs, hl], ha, hb.append_cons hpc r⟩
    · obtain ⟨a, b, hr, ha, hb⟩ := exists_of_mem_wordsBy hw
      exact ⟨l ++ c :: a, b, by simp [hs, hr], ha.append_cons hpc l, hb⟩
  · have hnone : ∀ c ∈ s, p c = false := fun c hc => by
      simpa using fun hpc => hcut ⟨c, hc, hpc⟩
    have hne : s ≠ [] := by
      rintro rfl
      cases hw
    rw [wordsBy_of_none hne hnone, List.mem_singleton] at hw
    exact ⟨[], [], by simp [hw], endsWith_nil p, nofun⟩
termination_by s.length
decreasing_by all_goals omega

theorem mem_wordsBy_iff : w ∈ wordsBy p s ↔ w ≠ [] ∧ (∀ c ∈ w, p c = false) ∧
    ∃ a b, s = a ++ w ++ b ∧ EndsWith p a ∧ StartsWith p b := by
  constructor
  · intro hw
    obtain ⟨hne, hmem⟩ := mem_wordsBy hw
    exact ⟨hne, fun c hc => (hmem c hc).2, exists_of_mem_wordsBy hw⟩
  · rintro ⟨hne, hw, a, b, rfl, ha, hb⟩
    have hfront : wordsBy p (w ++ b) = w :: wordsBy p b := by
      cases b with
      | nil => 
        rw [List.append_nil, wordsBy_of_none hne hw]
        rfl
      | cons c b =>
        have hcut : wordsBy p (c :: b) = wordsBy p b := wordsBy_append (hb c rfl) [] b
        rw [wordsBy_append (hb c rfl), wordsBy_of_none hne hw, hcut]
        rfl
    cases List.eq_nil_or_concat a with
    | inl hnil =>
      subst hnil
      rw [List.nil_append, hfront]
      exact List.mem_cons_self
    | inr hsnoc =>
      obtain ⟨a', c, rfl⟩ := hsnoc
      have hc : p c = true := ha c (by simp)
      have hs : a'.concat c ++ w ++ b = a' ++ c :: (w ++ b) := by simp
      rw [hs, wordsBy_append hc, hfront]
      exact List.mem_append_right _ List.mem_cons_self

end Words

end MarkupSplice.Text
