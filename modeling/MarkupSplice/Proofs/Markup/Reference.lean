import MarkupSplice.Markup.Escape
import MarkupSplice.Markup.Reference
import MarkupSplice.Proofs.Text.Cutting

/-!
# Escaped values read back

What `escape` writes, `unescape` reads as the same value (`unescape_escape`),
apart from the characters that XML 1.0 does not allow, which come back as
blanks. Since no reference has a blank in its name, unescaping never looks
across one (`unescapeChars_append_blank`).
-/
namespace MarkupSplice.Markup
open Text

/-- What of a value an escaped value can carry. -/
def legalChars : Flavor → List Char → List Char
  | .html, s => s
  | .xml, s => s.map fun c => if isXmlChar c then c else ' '

def legal (f : Flavor) (value : String) : String := String.ofList (legalChars f value.toList)

@[simp] theorem unescapeChars_nil : unescapeChars [] = [] := by simp [unescapeChars]

theorem unescapeChars_cons_of_ne {c : Char} (hc : c ≠ '&') (s : List Char) :
    unescapeChars (c :: s) = c :: unescapeChars s := by
  rw [unescapeChars, if_neg hc]

theorem unescapeChars_reference {s r : List Char} {c : Char} (h : reference? s = some (c, r)) :
    unescapeChars ('&' :: s) = c :: unescapeChars r := by
  rw [unescapeChars, if_pos rfl]
  split
  · rename_i c' r' h'
    rw [h] at h'
    cases h'
    rfl
  · rename_i h'
    rw [h] at h'
    cases h'

theorem unescapeChars_no_reference {s : List Char} (h : reference? s = none) :
    unescapeChars ('&' :: s) = '&' :: unescapeChars s := by
  rw [unescapeChars, if_pos rfl]
  split
  · rename_i c' r' h'
    rw [h] at h'
    cases h'
  · rfl

theorem unescapeChars_eq_nil {s : List Char} : unescapeChars s = [] ↔ s = [] := by
  constructor
  · intro h
    cases s with
    | nil => rfl
    | cons c s =>
      by_cases hc : c = '&'
      · subst hc
        cases hr : reference? s with
        | none => simp [unescapeChars_no_reference hr] at h
        | some p => simp [unescapeChars_reference hr] at h
      · simp [unescapeChars_cons_of_ne hc] at h
  · rintro rfl
    exact unescapeChars_nil

theorem reference_named {name : List Char} {c : Char} (hn : referenced? name = some c)
    (hs : ';' ∉ name) (ha : '&' ∉ name) (t : List Char) :
    reference? (name ++ ';' :: t) = some (c, t) := by
  have hname : referenceName? (name ++ ';' :: t) = some (name, t) := by
    clear hn
    induction name with
    | nil => simp [referenceName?]
    | cons x name ih =>
      obtain ⟨hx, hs⟩ := List.ne_and_not_mem_of_not_mem_cons hs
      obtain ⟨hx', ha⟩ := List.ne_and_not_mem_of_not_mem_cons ha
      simp [referenceName?, hx.symm, hx'.symm, ih hs ha]
  simp [reference?, hname, hn]

theorem unescapeChars_named (name : List Char) {c : Char} (hn : referenced? name = some c)
    (hs : ';' ∉ name) (ha : '&' ∉ name) (t : List Char) :
    unescapeChars ('&' :: name ++ ';' :: t) = c :: unescapeChars t :=
  unescapeChars_reference (reference_named hn hs ha t)

theorem unescapeChars_escapeChar (c : Char) (t : List Char) :
    unescapeChars (escapeChar c ++ t) = c :: unescapeChars t := by
  unfold escapeChar
  split
  · exact unescapeChars_named ['a', 'm', 'p'] rfl (by decide) (by decide) t
  · exact unescapeChars_named ['l', 't'] rfl (by decide) (by decide) t
  · exact unescapeChars_named ['g', 't'] rfl (by decide) (by decide) t
  · exact unescapeChars_named ['q', 'u', 'o', 't'] rfl (by decide) (by decide) t
  · exact unescapeChars_named ['#', 'x', '2', '7'] rfl (by decide) (by decide) t
  · rename_i hc _ _ _ _
    exact unescapeChars_cons_of_ne hc t

theorem unescapeChars_escapeXmlChar (c : Char) (t : List Char) :
    unescapeChars (escapeXmlChar c ++ t) =
      (if isXmlChar c then c else ' ') :: unescapeChars t := by
  unfold escapeXmlChar
  split
  · exact unescapeChars_named ['#', 'x', '9'] rfl (by decide) (by decide) t
  · exact unescapeChars_named ['#', 'x', 'A'] rfl (by decide) (by decide) t
  · exact unescapeChars_named ['#', 'x', 'D'] rfl (by decide) (by decide) t
  · split
    · exact unescapeChars_escapeChar c t
    · exact unescapeChars_cons_of_ne (by decide) t

theorem unescapeChars_escapeChars (f : Flavor) (s : List Char) :
    unescapeChars (escapeChars f s) = legalChars f s := by
  cases f with
  | html =>
    induction s with
    | nil => simp [escapeChars, legalChars]
    | cons c s ih =>
      simp only [escapeChars, legalChars, List.flatMap_cons] at ih ⊢
      rw [unescapeChars_escapeChar, ih]
  | xml =>
    induction s with
    | nil => simp [escapeChars, legalChars]
    | cons c s ih =>
      simp only [escapeChars, legalChars, List.flatMap_cons, List.map_cons] at ih ⊢
      rw [unescapeChars_escapeXmlChar, ih]

theorem escapeXmlChar_of_not_escaped {c : Char} (h : isXmlEscaped c = false) :
    escapeXmlChar c = [c] := by
  simp only [isXmlEscaped, Bool.or_eq_false_iff, Bool.not_eq_false', beq_eq_false_iff_ne] at h
  obtain ⟨⟨⟨⟨⟨⟨⟨⟨_, _⟩, _⟩, _⟩, _⟩, _⟩, _⟩, _⟩, hlegal⟩ := h
  simp [escapeXmlChar, escapeChar, hlegal]

/-- Nothing is lost where a value is not looked at character by character. -/
theorem escape_eq (f : Flavor) (s : String) :
    escape f s = String.ofList (escapeChars f s.toList) := by
  unfold escape
  split
  · rename_i h
    simp only [Bool.and_eq_true, beq_iff_eq, Bool.not_eq_true', List.any_eq_false] at h
    obtain ⟨rfl, hplain⟩ := h
    have hsame : s.toList.map escapeXmlChar = s.toList.map fun c => [c] :=
      List.map_congr_left fun c hc =>
        escapeXmlChar_of_not_escaped (Bool.eq_false_iff.2 (hplain c hc))
    rw [escapeChars, List.flatMap_def, hsame, ← List.flatMap_def, List.flatMap_singleton',
      String.ofList_toList]
  · rfl

def isMarkupChar (c : Char) : Bool := c == '<' || c == '>' || c == '"' || c == '\''

theorem not_markupChar_of_all {s : List Char} {x : Char}
    (hs : (s.all fun c => !isMarkupChar c) = true) (h : x ∈ s) : isMarkupChar x = false := by
  simpa using List.all_eq_true.1 hs x h

theorem not_markupChar_escapeChar {c x : Char} (h : x ∈ escapeChar c) : isMarkupChar x = false := by
  unfold escapeChar at h
  split at h
  case h_6 hc hl hg hq ha =>
    rw [List.mem_singleton.1 h]
    have hall : ((¬c = '<' ∧ ¬c = '>') ∧ ¬c = '"') ∧ ¬c = '\'' := ⟨⟨⟨hl, hg⟩, hq⟩, ha⟩
    simpa [isMarkupChar] using hall
  all_goals exact not_markupChar_of_all (by decide) h

theorem not_markupChar_escapeChars {f : Flavor} {s : List Char} {x : Char}
    (h : x ∈ escapeChars f s) : isMarkupChar x = false := by
  cases f with
  | html =>
    obtain ⟨c, -, hx⟩ := List.mem_flatMap.1 h
    exact not_markupChar_escapeChar hx
  | xml =>
    obtain ⟨c, -, hx⟩ := List.mem_flatMap.1 h
    unfold escapeXmlChar at hx
    split at hx
    case h_4 =>
      split at hx
      · exact not_markupChar_escapeChar hx
      · rw [List.mem_singleton.1 hx]
        rfl
    all_goals exact not_markupChar_of_all (by decide) hx

def isXmlText (c : Char) : Bool := isXmlChar c && c != '\t' && c != '\n' && c != '\r'

theorem isXmlText_of_mem_escapeXmlChar {c x : Char} (h : x ∈ escapeXmlChar c) :
    isXmlText x = true := by
  unfold escapeXmlChar at h
  split at h
  case h_4 htab hfeed hreturn =>
    split at h
    · rename_i hlegal
      unfold escapeChar at h
      split at h
      case h_6 =>
        have hblanks : (¬c = '\t' ∧ ¬c = '\n') ∧ ¬c = '\r' := ⟨⟨htab, hfeed⟩, hreturn⟩
        rw [List.mem_singleton.1 h]
        simpa [isXmlText, hlegal] using hblanks
      all_goals exact List.all_eq_true.1 (by decide) x h
    · exact List.all_eq_true.1 (by decide) x h
  all_goals exact List.all_eq_true.1 (by decide) x h

/-- A value comes back from its escaped form, or the part of it that XML allows, and the escaped
form can stand between quotes of either kind. -/
theorem unescape_escape (v : String) :
    unescape (escape .html v) = v ∧
      unescape (escape .xml v) =
        String.ofList (v.toList.map fun c => if isXmlChar c then c else ' ') ∧
      (∀ f, ∀ c ∈ (escape f v).toList, c ≠ '<' ∧ c ≠ '>' ∧ c ≠ '"' ∧ c ≠ '\'') ∧
      (∀ c ∈ (escape .xml v).toList, c ≠ '\t' ∧ c ≠ '\n' ∧ c ≠ '\r' ∧ isXmlChar c = true) ∧
      escape .xml v = String.ofList (v.toList.flatMap escapeXmlChar) := by
  have hback : ∀ f, unescape (escape f v) = legal f v := fun f => by
    rw [unescape, escape_eq, String.toList_ofList, unescapeChars_escapeChars, legal]
  refine ⟨?_, hback .xml, fun f c hc => ?_, fun c hc => ?_, escape_eq .xml v⟩
  · rw [hback, legal, legalChars, String.ofList_toList]
  · rw [escape_eq, String.toList_ofList] at hc
    have hplain := not_markupChar_escapeChars hc
    simp only [isMarkupChar, Bool.or_eq_false_iff, beq_eq_false_iff_ne] at hplain
    obtain ⟨⟨⟨hlt, hgt⟩, hquot⟩, hapos⟩ := hplain
    exact ⟨hlt, hgt, hquot, hapos⟩
  · rw [escape_eq, String.toList_ofList] at hc
    obtain ⟨x, -, hx⟩ := List.mem_flatMap.1 hc
    have htext := isXmlText_of_mem_escapeXmlChar hx
    simp only [isXmlText, Bool.and_eq_true, bne_iff_ne] at htext
    obtain ⟨⟨⟨hlegal, htab⟩, hfeed⟩, hreturn⟩ := htext
    exact ⟨htab, hfeed, hreturn, hlegal⟩

theorem mem_of_mem_entityPairs {ws : List String} {p : String × Char} (h : p ∈ entityPairs ws) :
    p.1 ∈ ws := by
  fun_induction entityPairs ws with
  | case1 name code rest c hc ih =>
    rcases List.mem_cons.1 h with rfl | h
    · simp
    · simp [ih h]
  | case2 name code rest hc ih => simp [ih h]
  | case3 => cases h

theorem blank_not_mem_entity {p : String × Char} (h : p ∈ entityTable) : ' ' ∉ p.1.toList := by
  obtain ⟨line, -, hp⟩ := List.mem_flatMap.1 h
  obtain ⟨name, hn, he⟩ := List.mem_map.1 (mem_of_mem_entityPairs hp)
  rw [← he, String.toList_ofList]
  intro hblank
  simpa using (mem_splitOnP hn ' ' hblank).2

theorem number_blank {digit? : Char → Option Nat} (hd : digit? ' ' = none) {base : Nat}
    {s : List Char} (h : ' ' ∈ s) : number? digit? base s = none := by
  have hf : ∀ n, s.foldlM (fun n c => (digit? c).map (n * base + ·)) n = none := by
    induction s with
    | nil => cases h
    | cons c s ih =>
      intro n
      rw [List.foldlM_cons]
      rcases List.mem_cons.1 h with rfl | h
      · simp [hd]
      · cases digit? c with
        | none => rfl
        | some k => exact ih h _
  unfold number?
  split
  · rfl
  · exact hf 0

theorem lookup_mem {xs : List (String × Char)} {name : String} {c : Char}
    (h : xs.lookup name = some c) : ∃ p ∈ xs, p.1 = name := by
  induction xs with
  | nil => cases h
  | cons p xs ih =>
    rw [List.lookup_cons] at h
    split at h
    · rename_i hp
      exact ⟨p, List.mem_cons_self, (beq_iff_eq.1 hp).symm⟩
    · obtain ⟨q, hq, he⟩ := ih h
      exact ⟨q, List.mem_cons_of_mem _ hq, he⟩

theorem named_blank {name : List Char} (h : ' ' ∈ name) : named? name = none := by
  unfold named?
  rw [Option.or_eq_none_iff]
  constructor
  · cases hp : predefined.lookup (String.ofList name) with
    | none => rfl
    | some c =>
      obtain ⟨p, hp, he⟩ := lookup_mem hp
      have hall : ∀ p ∈ predefined, ' ' ∉ p.1.toList := by decide
      exact absurd h (by simpa [he] using hall p hp)
  · cases hp : entityTable.lookup (String.ofList name) with
    | none => rfl
    | some c =>
      obtain ⟨p, hp, he⟩ := lookup_mem hp
      exact absurd h (by simpa [he] using blank_not_mem_entity hp)

theorem referenced_blank {name : List Char} (h : ' ' ∈ name) : referenced? name = none := by
  unfold referenced?
  split
  · rw [number_blank rfl (by simpa using h)]
    rfl
  · rw [number_blank rfl (by simpa using h)]
    rfl
  · rw [number_blank rfl (by simpa using h)]
    rfl
  · exact named_blank h

theorem referenceName_append {s name r : List Char} (h : referenceName? s = some (name, r))
    (t : List Char) : referenceName? (s ++ t) = some (name, r ++ t) := by
  induction s generalizing name with
  | nil => cases h
  | cons c s ih =>
    simp only [referenceName?, List.cons_append] at h ⊢
    split at h
    · cases h
      simp [*]
    · split at h
      · cases h
      · obtain ⟨⟨name', r'⟩, hn, he⟩ := Option.map_eq_some_iff.1 h
        obtain ⟨rfl, rfl⟩ := Prod.mk.inj he
        simp [*, ih hn]

/-- A name that is not complete can only go on across what follows. -/
theorem subset_of_referenceName_append {s t name r : List Char} (h : referenceName? s = none)
    (ht : referenceName? (s ++ t) = some (name, r)) :
    ∃ name', name = s ++ name' ∧ referenceName? t = some (name', r) := by
  induction s generalizing name with
  | nil => exact ⟨name, rfl, ht⟩
  | cons c s ih =>
    simp only [referenceName?, List.cons_append] at h ht
    split at h
    · cases h
    · split at h
      · simp_all
      · simp only [*, if_false] at ht
        obtain ⟨⟨name', r'⟩, hn, he⟩ := Option.map_eq_some_iff.1 ht
        obtain ⟨rfl, rfl⟩ := Prod.mk.inj he
        obtain ⟨name'', rfl, hr⟩ := ih (Option.map_eq_none_iff.1 h) hn
        exact ⟨name'', rfl, hr⟩

theorem reference_append {s r : List Char} {c : Char} (h : reference? s = some (c, r))
    (t : List Char) : reference? (s ++ t) = some (c, r ++ t) := by
  unfold reference? at h ⊢
  split at h
  · rename_i name r' hn
    obtain ⟨c', hc, he⟩ := Option.map_eq_some_iff.1 h
    obtain ⟨rfl, rfl⟩ := Prod.mk.inj he
    simp [referenceName_append hn, hc]
  · cases h

theorem reference_append_blank {s : List Char} (h : reference? s = none) (t : List Char) :
    reference? (s ++ ' ' :: t) = none := by
  unfold reference? at h ⊢
  split at h
  · rename_i name r hn
    rw [referenceName_append hn]
    simpa using h
  · rename_i hn
    cases ht : referenceName? (s ++ ' ' :: t) with
    | none => rfl
    | some p =>
      obtain ⟨name, r⟩ := p
      obtain ⟨name', rfl, hr⟩ := subset_of_referenceName_append hn ht
      have hb : ' ' ∈ name' := by
        simp only [referenceName?] at hr
        obtain ⟨⟨n, r'⟩, -, he⟩ := Option.map_eq_some_iff.1 hr
        obtain ⟨rfl, rfl⟩ := Prod.mk.inj he
        exact List.mem_cons_self
      simp [referenced_blank (List.mem_append_right s hb)]

theorem unescapeChars_append_blank (s t : List Char) :
    unescapeChars (s ++ ' ' :: t) = unescapeChars s ++ ' ' :: unescapeChars t := by
  fun_induction unescapeChars s with
  | case1 => rw [List.nil_append, unescapeChars_cons_of_ne (by decide)]; rfl
  | case2 s c r h _ ih =>
    rw [List.cons_append, unescapeChars_reference (reference_append h _), ih, List.cons_append]
  | case3 s h ih =>
    rw [List.cons_append, unescapeChars_no_reference (reference_append_blank h t), ih,
      List.cons_append]
  | case4 c s hc ih => rw [List.cons_append, unescapeChars_cons_of_ne hc, ih, List.cons_append]

end MarkupSplice.Markup
