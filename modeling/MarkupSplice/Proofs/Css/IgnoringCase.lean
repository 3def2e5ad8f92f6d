import MarkupSplice.Css.Selector
import MarkupSplice.Proofs.Text.LowerCase

/-!
# Tests on attributes that ignore case

What the operators of attribute tests say of a text in lower case when they hold of
the text itself. A whole value, a word and the part in front of a hyphen are written
as they would be alone; a part at one of the ends, or inside, may have a capital sigma
that is final in one of the two texts only (`accepts_ignoring_case`).
-/
namespace MarkupSplice.Css
open Text

variable {a b e v w : List Char}

theorem after?_append (w b : List Char) : after? w (w ++ b) = some b := by
  have hprefix : w.isPrefixOf (w ++ b) = true :=
    List.isPrefixOf_iff_prefix.2 (List.prefix_append w b)
  rw [after?, if_pos hprefix, List.drop_left]

theorem cutAt_isSome (a w b : List Char) : (cutAt w (a ++ w ++ b)).isSome = true := by
  induction a with
  | nil =>
    rw [List.nil_append]
    cases hs : w ++ b with
    | nil => simp [cutAt, (List.append_eq_nil_iff.1 hs).1]
    | cons c s => rw [cutAt, ← hs, after?_append]; rfl
  | cons c a ih =>
    rw [List.cons_append, List.cons_append, cutAt]
    split
    · rfl
    · rwa [Option.isSome_map]

theorem cutAt_isSome_iff : (cutAt w v).isSome = true ↔ w <:+: v := by
  constructor
  · intro h
    obtain ⟨⟨a, b⟩, hcut⟩ := Option.isSome_iff_exists.1 h
    exact ⟨a, b, append_of_cutAt hcut⟩
  · rintro ⟨a, b, rfl⟩
    exact cutAt_isSome a w b

theorem compare_word :
    Operator.word.compare e v = true ↔ e ≠ [] ∧ (∀ c ∈ e, isBlank c = false) ∧ e ∈ words v := by
  simp [Operator.compare, and_assoc]

theorem compare_dash : Operator.dash.compare e v = true ↔ v = e ∨ e ++ ['-'] <+: v := by
  simp [Operator.compare, List.isPrefixOf_iff_prefix]

theorem compare_start : Operator.start.compare e v = true ↔ e ≠ [] ∧ e <+: v := by
  simp [Operator.compare, List.isPrefixOf_iff_prefix]

theorem compare_finish : Operator.finish.compare e v = true ↔ e ≠ [] ∧ e <:+ v := by
  simp [Operator.compare, List.isSuffixOf_iff_suffix]

theorem compare_inside : Operator.inside.compare e v = true ↔ e ≠ [] ∧ e <:+: v := by
  simp [Operator.compare, cutAt_isSome_iff]

theorem compare_lower_word (h : Operator.word.compare e v = true) :
    Operator.word.compare (lower e) (lower v) = true := by
  obtain ⟨hne, -, hmem⟩ := compare_word.1 h
  have hlower := lower_mem_words hmem
  exact compare_word.2 ⟨lower_ne_nil hne, fun c hc => ((mem_wordsBy hlower).2 c hc).2, hlower⟩

theorem lower_beginning (e b : List Char) :
    lower (e ++ b) = lowerWithin [] e b ++ lowerWithin e.reverse b [] := by
  have h := lower_append [] e b
  rwa [List.nil_append, lowerWithin, List.nil_append, List.reverse_nil, List.append_nil] at h

theorem lower_ending (a e : List Char) :
    lower (a ++ e) = lowerWithin [] a e ++ lowerWithin a.reverse e [] := by
  have h := lower_append a e []
  rwa [List.append_nil, List.append_nil, lowerWithin, List.append_nil] at h

theorem isCaseless_hyphen : isCaseless '-' = true := by decide +kernel

theorem compare_lower_dash (h : Operator.dash.compare e v = true) :
    Operator.dash.compare (lower e) (lower v) = true := by
  rcases compare_dash.1 h with rfl | ⟨b, rfl⟩
  · exact compare_dash.2 (Or.inl rfl)
  · have hkeeps : KeepsSigmas [] e ('-' :: b) := by
      refine keepsSigmas_of_caseless (endsWith_nil isCaseless) (fun c hc => ?_) e
      rw [← Option.some.inj hc, isCaseless_hyphen]
    have hfront : lowerWithin [] e ('-' :: b) = lower e := lowerWithin_eq_lower_iff.2 hkeeps
    refine compare_dash.2 (Or.inr ⟨lowerWithin ('-' :: e.reverse) b [], ?_⟩)
    rw [List.append_assoc, List.append_assoc, List.singleton_append, List.singleton_append,
      lower_beginning, hfront]
    rfl

theorem prefix_append_iff_eq {x y z : List Char} (h : x.length = y.length) :
    x <+: y ++ z ↔ x = y := by
  constructor
  · intro hprefix
    exact (List.prefix_of_prefix_length_le hprefix (List.prefix_append y z)
      (Nat.le_of_eq h)).eq_of_length h
  · rintro rfl
    exact List.prefix_append x z

theorem suffix_append_iff_eq {x y z : List Char} (h : x.length = y.length) :
    x <:+ z ++ y ↔ x = y := by
  constructor
  · intro hsuffix
    exact (List.suffix_of_suffix_length_le hsuffix (List.suffix_append z y)
      (Nat.le_of_eq h)).eq_of_length h
  · rintro rfl
    exact List.suffix_append z x

theorem length_lower (front e back : List Char) :
    (lower e).length = (lowerWithin front e back).length := by
  rw [lower_eq]
  exact length_lowerWithin ..

/-- The lower case of a text begins with that of its beginning exactly if no sigma changes. -/
theorem compare_lower_start (hne : e ≠ []) (b : List Char) :
    Operator.start.compare (lower e) (lower (e ++ b)) = true ↔ KeepsSigmas [] e b := by
  rw [compare_start, lower_beginning, prefix_append_iff_eq (length_lower [] e b), eq_comm,
    ← lowerWithin_eq_lower_iff, List.reverse_nil]
  exact and_iff_right (lower_ne_nil hne)

theorem compare_lower_finish (hne : e ≠ []) (a : List Char) :
    Operator.finish.compare (lower e) (lower (a ++ e)) = true ↔ KeepsSigmas a e [] := by
  rw [compare_finish, lower_ending, suffix_append_iff_eq (length_lower a.reverse e []), eq_comm,
    ← lowerWithin_eq_lower_iff]
  exact and_iff_right (lower_ne_nil hne)

theorem compare_lower_inside (hne : e ≠ []) (h : KeepsSigmas a e b) :
    Operator.inside.compare (lower e) (lower (a ++ e ++ b)) = true := by
  rw [lower_append, lowerWithin_eq_lower_iff.2 h]
  exact compare_inside.2 ⟨lower_ne_nil hne, List.infix_append ..⟩

/-- A test that holds holds without regard to case as well, unless a capital sigma of the expected
text is final in one of the two texts only. That cannot happen to a whole value, to a word or in
front of a hyphen. -/
theorem accepts_ignoring_case {name : String} {op : Operator} {expected value : String}
    (h : AttributeTest.accepts ⟨name, some (op, expected), false⟩ (some value) = true) :
    let ignoring := AttributeTest.accepts ⟨name, some (op, expected), true⟩ (some value)
    let e := expected.toList
    ('Σ' ∉ e → ignoring = true) ∧
      match op with
      | .exact | .word | .dash => ignoring = true
      | .start => ∃ rest, value.toList = e ++ rest ∧ (ignoring = true ↔ KeepsSigmas [] e rest)
      | .finish => ∃ front, value.toList = front ++ e ∧ (ignoring = true ↔ KeepsSigmas front e [])
      | .inside => ∀ front rest, value.toList = front ++ e ++ rest → KeepsSigmas front e rest →
          ignoring = true := by
  intro ignoring e
  have hplain : op.compare e value.toList = true := h
  have hignoring : ignoring = op.compare (lower e) (lower value.toList) := rfl
  have hkeeps : 'Σ' ∉ e → ∀ a b, KeepsSigmas a e b := fun hsigma a b u v huv =>
    absurd (huv ▸ List.mem_append_right u List.mem_cons_self) hsigma
  clear_value e ignoring
  subst hignoring
  generalize value.toList = v at hplain
  cases op with
  | exact =>
    have heq : v = e := beq_iff_eq.1 hplain
    have hexact : Operator.exact.compare (lower e) (lower v) = true := by simp [Operator.compare, heq]
    exact ⟨fun _ => hexact, hexact⟩
  | word => exact ⟨fun _ => compare_lower_word hplain, compare_lower_word hplain⟩
  | dash => exact ⟨fun _ => compare_lower_dash hplain, compare_lower_dash hplain⟩
  | start =>
    obtain ⟨hne, rest, rfl⟩ := compare_start.1 hplain
    have hiff := compare_lower_start hne rest
    exact ⟨fun hsigma => hiff.2 (hkeeps hsigma [] rest), rest, rfl, hiff⟩
  | finish =>
    obtain ⟨hne, front, rfl⟩ := compare_finish.1 hplain
    have hiff := compare_lower_finish hne front
    exact ⟨fun hsigma => hiff.2 (hkeeps hsigma front []), front, rfl, hiff⟩
  | inside =>
    obtain ⟨hne, a, b, rfl⟩ := compare_inside.1 hplain
    refine ⟨fun hsigma => compare_lower_inside hne (hkeeps hsigma a b), ?_⟩
    intro front rest hparts hsame
    rw [hparts]
    exact compare_lower_inside hne hsame

theorem accepts_ignoring_case_sigma :
    AttributeTest.accepts ⟨"title", some (.start, "ΑΣ"), false⟩ (some "ΑΣΑ") = true ∧
      AttributeTest.accepts ⟨"title", some (.start, "ΑΣ"), true⟩ (some "ΑΣΑ") = false := by
  have h : AttributeTest.accepts ⟨"title", some (.start, "ΑΣ"), false⟩ (some "ΑΣΑ") = true := by
    decide +kernel
  obtain ⟨rest, hrest, hiff⟩ := (accepts_ignoring_case h).2
  have hsplit : "ΑΣΑ".toList = "ΑΣ".toList ++ ['Α'] := by decide +kernel
  obtain rfl : ['Α'] = rest := List.append_cancel_left (hsplit.symm.trans hrest)
  refine ⟨h, Bool.eq_false_iff.2 fun hignoring => ?_⟩
  have hkeeps := hiff.1 hignoring ['Α'] [] (by decide +kernel)
  revert hkeeps
  decide +kernel

end MarkupSplice.Css
