import Mathlib.Data.List.TakeWhile
import MarkupSplice.Markup.Piece
import MarkupSplice.Proofs.Text.Cutting

/-!
# How start tags are written

An attribute is sound when its parts hold only what a reader takes into them,
and it ends before a text when the reader stops there. Sound attributes that
each end before the next one are read as they are written, whatever stands
behind them (`readAttributes_append`), and a reader leaves only such attributes
(`reads_readAttributes`). So a start tag can be changed part by part: what has
to be shown is how each part ends, and not how the whole tag is read.
-/
namespace MarkupSplice.Markup
open Text

def isQuote (c : Char) : Bool := c == '"' || c == '\''

def isGap (c : Char) : Bool := isSpace c || c == '/'

def endsValue : List Char → Bool
  | [] => true
  | c :: s => isSpace c || c == '>' || (c == '/' && s.head? == some '>')

namespace WrittenValue

def Sound : WrittenValue → Prop
  | .unquoted s => (∀ c ∈ s, isSpace c = false ∧ c ≠ '>') ∧ ∀ c ∈ s.head?, isQuote c = false
  | .quoted q s _ => isQuote q = true ∧ q ∉ s

def EndsBefore (t : List Char) : WrittenValue → Prop
  | .unquoted s =>
    endsValue t = true ∧ (s.getLast? = some '/' → t.head? ≠ some '>') ∧
      (s = [] → ∀ c ∈ t.head?, isSpace c = false)
  | .quoted _ _ closed => closed = true ∨ t = []

end WrittenValue

structure Assignment.Sound (g : Assignment) : Prop where
  before : ∀ c ∈ g.before, isSpace c = true
  after : ∀ c ∈ g.after, isSpace c = true
  value : g.value.Sound

structure ReadableName (name : List Char) : Prop where
  first : ∃ c ∈ name.head?, isGap c = false ∧ c ≠ '>'
  others : ∀ c ∈ name.tail, endsAttributeName c = false

namespace WrittenAttribute

structure Sound (a : WrittenAttribute) : Prop where
  gap : ∀ c ∈ a.gap, isGap c = true
  name : ReadableName a.name
  assignment : ∀ g ∈ a.assignment, g.Sound

def EndsBefore (t : List Char) (a : WrittenAttribute) : Prop :=
  match a.assignment with
  | none => (∀ c ∈ t.head?, endsAttributeName c = true) ∧ (t.dropWhile isSpace).head? ≠ some '='
  | some g => g.value.EndsBefore t

end WrittenAttribute

def Reads (t : List Char) : List WrittenAttribute → Prop
  | [] => True
  | a :: as => a.Sound ∧ a.EndsBefore (as.flatMap WrittenAttribute.source ++ t) ∧ Reads t as

def Ends (gap : List Char) (closing : Closing) (r : List Char) : Prop :=
  (∀ c ∈ gap, isGap c = true) ∧
    match closing with
    | .cutOff => r = []
    | .bracket => gap.getLast? ≠ some '/'
    | .slash => True

theorem ReadableName.ne_nil {name : List Char} (h : ReadableName name) : name ≠ [] := by
  rintro rfl
  obtain ⟨c, hc, -⟩ := h.first
  cases hc

theorem sound_of_reads {t : List Char} {a : WrittenAttribute} {as : List WrittenAttribute}
    (h : Reads t as) (ha : a ∈ as) : a.Sound := by
  induction as with
  | nil => cases ha
  | cons b as ih =>
    rcases List.mem_cons.1 ha with rfl | ha
    · exact h.1
    · exact ih h.2.2 ha

theorem mem_source_of_ne {closing : Closing} (h : closing ≠ .cutOff) : '>' ∈ closing.source := by
  cases closing with
  | cutOff => exact absurd rfl h
  | bracket => simp [Closing.source]
  | slash => simp [Closing.source]

theorem not_space_of_not_gap {c : Char} (h : isGap c = false) : isSpace c = false ∧ c ≠ '/' := by
  simpa [isGap] using h

theorem not_space_of_quote {c : Char} (h : isQuote c = true) : isSpace c = false := by
  simp only [isQuote, Bool.or_eq_true, beq_iff_eq] at h
  rcases h with rfl | rfl <;> rfl

theorem not_quote_of_endsValue {c : Char} {s : List Char} (h : endsValue (c :: s) = true) :
    isQuote c = false := by
  cases hq : isQuote c with
  | false => rfl
  | true =>
    simp only [isQuote, Bool.or_eq_true, beq_iff_eq] at hq
    rcases hq with rfl | rfl <;> cases h

theorem endsAttributeName_of_gap {c : Char} (h : isGap c = true) : endsAttributeName c = true := by
  simp only [isGap, Bool.or_eq_true, beq_iff_eq] at h
  rcases h with h | h <;> simp [endsAttributeName, endsTagName, h]

theorem endsAttributeName_of_space {c : Char} (h : isSpace c = true) :
    endsAttributeName c = true := by
  simp [endsAttributeName, endsTagName, h]

theorem takeWhile_append_of_stop {p : Char → Bool} {s t : List Char} (hs : ∀ c ∈ s, p c = true)
    (ht : ∀ c ∈ t.head?, p c = false) : (s ++ t).takeWhile p = s := by
  rw [List.takeWhile_append_of_pos hs]
  cases t with
  | nil => simp
  | cons c t => simp [ht c rfl]

theorem dropWhile_append_of_stop {p : Char → Bool} {s t : List Char} (hs : ∀ c ∈ s, p c = true)
    (ht : ∀ c ∈ t.head?, p c = false) : (s ++ t).dropWhile p = t := by
  rw [List.dropWhile_append_of_pos hs]
  cases t with
  | nil => simp
  | cons c t => simp [ht c rfl]

theorem readGap_append {gap u : List Char} (hg : ∀ c ∈ gap, isGap c = true)
    (hu : ∀ c s, u = c :: s → isSpace c = false ∧ (c = '/' → s.head? = some '>'))
    (hl : gap.getLast? = some '/' → u.head? ≠ some '>') : readGap (gap ++ u) = (gap, u) := by
  induction gap with
  | nil =>
    cases u with
    | nil => rfl
    | cons c s =>
      obtain ⟨h1, h2⟩ := hu c s rfl
      have hstop : (isSpace c || (c == '/' && s.head? != some '>')) = false := by
        by_cases hc : c = '/' <;> simp_all
      simp [readGap, hstop]
  | cons c gap ih =>
    have hc := hg c List.mem_cons_self
    have htake : (isSpace c || (c == '/' && (gap ++ u).head? != some '>')) = true := by
      simp only [isGap, Bool.or_eq_true, beq_iff_eq] at hc
      rcases hc with hc | rfl
      · simp [hc]
      · cases gap with
        | nil => simpa [isSpace] using hl rfl
        | cons d gap =>
          have hd := hg d (by simp)
          have hne : d ≠ '>' := by
            rintro rfl
            cases hd
          simp [hne]
    have ih' := ih (fun d hd => hg d (List.mem_cons_of_mem _ hd)) fun h => hl (by
      cases gap with
      | nil => cases h
      | cons d gap => simpa using h)
    simp only [List.cons_append, readGap]
    rw [if_pos htake, ih']

theorem readUnquoted_append {s t : List Char} (hs : ∀ c ∈ s, isSpace c = false ∧ c ≠ '>')
    (ht : endsValue t = true) (hl : s.getLast? = some '/' → t.head? ≠ some '>') :
    readUnquoted (s ++ t) = (s, t) := by
  induction s with
  | nil =>
    cases t with
    | nil => rfl
    | cons c t => simp only [List.nil_append, readUnquoted, endsValue] at ht ⊢; rw [if_pos ht]
  | cons c s ih =>
    obtain ⟨h1, h2⟩ := hs c List.mem_cons_self
    have hgo : (isSpace c || c == '>' || (c == '/' && (s ++ t).head? == some '>')) = false := by
      by_cases hc : c = '/'
      · subst hc
        cases s with
        | nil => simpa [h1] using hl rfl
        | cons d s => simp [h1, (hs d (by simp)).2]
      · simp [h1, h2, hc]
    have ih' := ih (fun d hd => hs d (List.mem_cons_of_mem _ hd)) fun h => hl (by
      cases s with
      | nil => cases h
      | cons d s => simpa using h)
    simp only [List.cons_append, readUnquoted]
    rw [if_neg (Bool.eq_false_iff.1 hgo), ih']

theorem readValue_append {v : WrittenValue} {t : List Char} (hv : v.Sound) (ht : v.EndsBefore t) :
    readValue (v.source ++ t) = (v, t) := by
  cases v with
  | unquoted s =>
    obtain ⟨hs, hq⟩ := hv
    obtain ⟨he, hl, -⟩ := ht
    have hhead : ∀ c ∈ (s ++ t).head?, isQuote c = false := by
      cases s with
      | cons d s => exact hq
      | nil =>
        cases t with
        | nil => simp
        | cons d t =>
          intro c hc
          cases hc
          exact not_quote_of_endsValue he
    simp only [WrittenValue.source]
    unfold readValue
    split
    · rename_i s' h'
      cases hhead '"' (by simp [h'])
    · rename_i s' h'
      cases hhead '\'' (by simp [h'])
    · simp [readUnquoted_append hs he hl]
  | quoted q s closed =>
    obtain ⟨hq, hs⟩ := hv
    have hr : readQuoted q (s ++ (if closed then [q] else []) ++ t) = (.quoted q s closed, t) := by
      cases closed with
      | true => simp [readQuoted, cutAt_char hs]
      | false =>
        rcases ht with ht | rfl
        · cases ht
        · simp [readQuoted, cutAt_char_eq_none hs]
    simp only [isQuote, Bool.or_eq_true, beq_iff_eq] at hq
    rcases hq with rfl | rfl <;> simpa [WrittenValue.source, readValue] using hr

theorem space_head_value {v : WrittenValue} {t : List Char} (hv : v.Sound) (ht : v.EndsBefore t) :
    ∀ c ∈ (v.source ++ t).head?, isSpace c = false := by
  cases v with
  | unquoted s =>
    cases s with
    | nil => exact ht.2.2 rfl
    | cons d s =>
      intro c hc
      cases hc
      exact (hv.1 d List.mem_cons_self).1
  | quoted q s closed =>
    intro c hc
    cases hc
    exact not_space_of_quote hv.1

theorem readAssignment_append {g : Assignment} {t : List Char} (hg : g.Sound)
    (ht : g.value.EndsBefore t) : readAssignment (g.source ++ t) = (some g, t) := by
  have heq : ∀ c ∈ ('=' :: (g.after ++ (g.value.source ++ t))).head?, isSpace c = false := by
    intro c hc
    cases hc
    rfl
  have hsrc : g.source ++ t = g.before ++ '=' :: (g.after ++ (g.value.source ++ t)) := by
    simp [Assignment.source]
  have hv := space_head_value hg.value ht
  unfold readAssignment
  rw [hsrc, dropWhile_append_of_stop hg.before heq, takeWhile_append_of_stop hg.before heq]
  simp only [dropWhile_append_of_stop hg.after hv, takeWhile_append_of_stop hg.after hv,
    readValue_append hg.value ht]

theorem readAssignment_none {t : List Char} (h : (t.dropWhile isSpace).head? ≠ some '=') :
    readAssignment t = (none, t) := by
  unfold readAssignment
  split
  · rename_i r hr
    exact absurd (by rw [hr]; rfl) h
  · rfl

theorem readAttribute_append {a : WrittenAttribute} {c : Char} {cs t : List Char}
    (hn : a.name = c :: cs) (ha : a.Sound) (ht : a.EndsBefore t) :
    readAttribute a.gap c (cs ++ a.assignment.elim [] Assignment.source ++ t) = (a, t) := by
  have hcs : ∀ x ∈ cs, (!endsAttributeName x) = true := by
    intro x hx
    simpa using ha.name.others x (by simpa [hn] using hx)
  obtain ⟨gap, name, assignment⟩ := a
  cases assignment with
  | none =>
    obtain ⟨hh, he⟩ := ht
    have hstop : ∀ x ∈ t.head?, (!endsAttributeName x) = false := fun x hx => by simp [hh x hx]
    simp only at hn
    simp [readAttribute, takeWhile_append_of_stop hcs hstop, dropWhile_append_of_stop hcs hstop,
      readAssignment_none he, hn]
  | some g =>
    have hg := ha.assignment g rfl
    have hstop : ∀ x ∈ (g.source ++ t).head?, (!endsAttributeName x) = false := by
      intro x hx
      cases hb : g.before with
      | nil =>
        simp only [Assignment.source, hb, List.nil_append, List.cons_append, List.head?_cons] at hx
        cases hx
        rfl
      | cons b bs =>
        have hspace := hg.before b (by simp [hb])
        simp only [Assignment.source, hb, List.cons_append, List.head?_cons] at hx
        cases hx
        simp [endsAttributeName_of_space hspace]
    simp only at hn
    simp [readAttribute, takeWhile_append_of_stop hcs hstop, dropWhile_append_of_stop hcs hstop,
      readAssignment_append hg ht, hn]

theorem readAttributes_cons {a : WrittenAttribute} {t : List Char} (ha : a.Sound)
    (ht : a.EndsBefore t) :
    readAttributes (a.source ++ t) = (a :: (readAttributes t).1, (readAttributes t).2) := by
  obtain ⟨c, hc, hgap, hbracket⟩ := ha.name.first
  obtain ⟨cs, hn⟩ : ∃ cs, a.name = c :: cs := by
    cases hname : a.name with
    | nil => simp [hname] at hc
    | cons d cs =>
      rw [hname] at hc
      cases hc
      exact ⟨cs, rfl⟩
  obtain ⟨hspace, hslash⟩ := not_space_of_not_gap hgap
  have hsrc : a.source ++ t =
      a.gap ++ c :: (cs ++ a.assignment.elim [] Assignment.source ++ t) := by
    simp [WrittenAttribute.source, hn]
  have hread : readGap (a.source ++ t) =
      (a.gap, c :: (cs ++ a.assignment.elim [] Assignment.source ++ t)) := by
    rw [hsrc]
    apply readGap_append ha.gap
    · intro c' s' h
      cases h
      exact ⟨hspace, fun h => absurd h hslash⟩
    · intro _ h
      cases h
      exact hbracket rfl
  rw [readAttributes]
  split
  · rename_i gap h
    rw [hread] at h
    cases h
  · rename_i gap c' r h
    rw [hread] at h
    cases h
    rw [if_neg hbracket, if_neg fun h => hslash h.1, readAttribute_append hn ha ht]

theorem readAttributes_append {as : List WrittenAttribute} {t : List Char} (h : Reads t as) :
    readAttributes (as.flatMap WrittenAttribute.source ++ t) =
      (as ++ (readAttributes t).1, (readAttributes t).2) := by
  induction as with
  | nil => rfl
  | cons a as ih =>
    obtain ⟨ha, he, hr⟩ := h
    rw [List.flatMap_cons, List.append_assoc, readAttributes_cons ha he, ih hr]
    rfl

theorem readAttributes_of_ends {gap r : List Char} {closing : Closing} (h : Ends gap closing r) :
    readAttributes (gap ++ closing.source ++ r) = ([], gap, closing, r) := by
  obtain ⟨hg, hc⟩ := h
  have hread : readGap (gap ++ closing.source ++ r) = (gap, closing.source ++ r) := by
    rw [List.append_assoc]
    apply readGap_append hg
    · intro c s h
      cases closing with
      | cutOff => simp [Closing.source, hc] at h
      | bracket =>
        cases h
        exact ⟨rfl, fun h => by cases h⟩
      | slash =>
        cases h
        exact ⟨rfl, fun _ => rfl⟩
    · intro hl
      cases closing with
      | cutOff => simp [Closing.source, hc]
      | bracket => exact absurd hl hc
      | slash => simp [Closing.source]
  rw [readAttributes]
  split
  · rename_i gap' h
    rw [hread] at h
    obtain ⟨rfl, h⟩ := Prod.mk.inj h
    cases closing with
    | cutOff => rw [hc]
    | bracket => cases h
    | slash => cases h
  · rename_i gap' c r' h
    rw [hread] at h
    obtain ⟨rfl, h⟩ := Prod.mk.inj h
    cases closing with
    | cutOff => simp [Closing.source, hc] at h
    | bracket =>
      cases h
      rfl
    | slash =>
      cases h
      rfl

theorem readGap_gap {s : List Char} {c : Char} (h : c ∈ (readGap s).1) : isGap c = true := by
  induction s with
  | nil => cases h
  | cons d s ih =>
    simp only [readGap] at h
    split at h
    · rename_i hd
      rcases List.mem_cons.1 h with rfl | h
      · simp only [Bool.or_eq_true, Bool.and_eq_true] at hd
        rcases hd with hd | ⟨hd, -⟩ <;> simp [isGap, hd]
      · exact ih h
    · cases h

theorem readGap_last {s : List Char} (h : (readGap s).1.getLast? = some '/') :
    (readGap s).2.head? ≠ some '>' := by
  induction s with
  | nil => cases h
  | cons c s ih =>
    simp only [readGap] at h ⊢
    split
    · rename_i hc
      rw [if_pos hc] at h
      cases hg : (readGap s).1 with
      | cons d g => exact ih (by simpa [hg] using h)
      | nil =>
        have hs : (readGap s).2 = s := by simpa [hg] using source_readGap s
        have hc' : c = '/' := by simpa [hg] using h
        subst hc'
        simpa [hs, isSpace] using hc
    · rename_i hc
      rw [if_neg hc] at h
      cases h

theorem readGap_stop {s r : List Char} {c : Char} (h : (readGap s).2 = c :: r) :
    isSpace c = false ∧ (c = '/' → r.head? = some '>') := by
  induction s with
  | nil => cases h
  | cons d s ih =>
    simp only [readGap] at h
    split at h
    · exact ih h
    · rename_i hd
      cases h
      constructor
      · simp_all
      · rintro rfl
        simpa [isSpace] using hd

theorem readUnquoted_sound (s : List Char) :
    (∀ c ∈ (readUnquoted s).1, isSpace c = false ∧ c ≠ '>') ∧
      endsValue (readUnquoted s).2 = true ∧
      ((readUnquoted s).1.getLast? = some '/' → (readUnquoted s).2.head? ≠ some '>') := by
  induction s with
  | nil => simp [readUnquoted, endsValue]
  | cons c s ih =>
    simp only [readUnquoted]
    split
    · rename_i hc
      exact ⟨by simp, hc, by simp⟩
    · rename_i hc
      obtain ⟨ih1, ih2, ih3⟩ := ih
      have hc' : isSpace c = false ∧ c ≠ '>' := by simp_all
      refine ⟨?_, ih2, ?_⟩
      · intro d hd
        rcases List.mem_cons.1 hd with rfl | hd
        · exact hc'
        · exact ih1 d hd
      · intro hl
        cases hu : (readUnquoted s).1 with
        | cons d u => exact ih3 (by simpa [hu] using hl)
        | nil =>
          have hs : (readUnquoted s).2 = s := by simpa [hu] using source_readUnquoted s
          have hslash : c = '/' := by simpa [hu] using hl
          subst hslash
          simpa [hs, isSpace] using hc

theorem readQuoted_sound {q : Char} (hq : isQuote q = true) (s : List Char) :
    (readQuoted q s).1.Sound ∧ (readQuoted q s).1.EndsBefore (readQuoted q s).2 := by
  unfold readQuoted
  split
  · rename_i h
    exact ⟨⟨hq, not_mem_of_cutAt_char h⟩, Or.inl rfl⟩
  · rename_i h
    exact ⟨⟨hq, not_mem_of_cutAt_char_eq_none h⟩, Or.inr rfl⟩

theorem readValue_sound {s : List Char} (hs : ∀ c ∈ s.head?, isSpace c = false) :
    (readValue s).1.Sound ∧ (readValue s).1.EndsBefore (readValue s).2 := by
  unfold readValue
  split
  · exact readQuoted_sound rfl _
  · exact readQuoted_sound rfl _
  · rename_i hd hq
    obtain ⟨h1, h2, h3⟩ := readUnquoted_sound s
    have hsrc := source_readUnquoted s
    refine ⟨⟨h1, ?_⟩, h2, h3, ?_⟩
    · intro c hc
      obtain ⟨u, hu⟩ : ∃ u, (readUnquoted s).1 = c :: u := by
        cases he : (readUnquoted s).1 with
        | nil => simp [he] at hc
        | cons d u =>
          simp only [he, List.head?_cons] at hc
          cases hc
          exact ⟨u, rfl⟩
      have hne : c ≠ '"' ∧ c ≠ '\'' := by
        constructor
        · rintro rfl
          exact hd _ (by rw [← hsrc, hu]; rfl)
        · rintro rfl
          exact hq _ (by rw [← hsrc, hu]; rfl)
      simp [isQuote, hne]
    · intro he c hc
      apply hs c
      rw [← hsrc]
      simpa [he] using hc

theorem head_dropWhile {p : Char → Bool} {s : List Char} :
    ∀ c ∈ (s.dropWhile p).head?, p c = false := by
  intro c hc
  have h := List.head?_dropWhile_not p s
  rw [Option.mem_def.1 hc] at h
  simpa using h

theorem readAssignment_sound {s : List Char} (hs : ∀ c ∈ s.head?, endsAttributeName c = true) :
    (∀ g ∈ (readAssignment s).1, g.Sound) ∧ ∀ gap name,
      (WrittenAttribute.mk gap name (readAssignment s).1).EndsBefore (readAssignment s).2 := by
  unfold readAssignment
  split
  · rename_i r hr
    obtain ⟨h1, h2⟩ := readValue_sound (s := r.dropWhile isSpace) head_dropWhile
    refine ⟨?_, fun _ _ => h2⟩
    intro g hg
    cases hg
    exact ⟨fun _ h => List.mem_takeWhile_imp h, fun _ h => List.mem_takeWhile_imp h, h1⟩
  · rename_i hne
    refine ⟨by simp, fun _ _ => ⟨hs, ?_⟩⟩
    intro he
    cases hd : s.dropWhile isSpace with
    | nil => simp [hd] at he
    | cons c r =>
      simp only [hd, List.head?_cons, Option.some.injEq] at he
      exact hne r (by rw [hd, he])

theorem readAttribute_sound {gap : List Char} {c : Char} (s : List Char)
    (hg : ∀ x ∈ gap, isGap x = true) (hc : isGap c = false) (hb : c ≠ '>') :
    (readAttribute gap c s).1.Sound ∧
      (readAttribute gap c s).1.EndsBefore (readAttribute gap c s).2 := by
  have hs : ∀ x ∈ (s.dropWhile fun c => !endsAttributeName c).head?, endsAttributeName x = true :=
    fun x hx => by simpa using head_dropWhile x hx
  obtain ⟨h1, h2⟩ := readAssignment_sound hs
  refine ⟨⟨hg, ⟨⟨c, rfl, hc, hb⟩, ?_⟩, h1⟩, h2 _ _⟩
  intro x hx
  simpa using List.mem_takeWhile_imp hx

theorem reads_readAttributes (s : List Char) :
    Reads ((readAttributes s).2.1 ++ (readAttributes s).2.2.1.source ++ (readAttributes s).2.2.2)
        (readAttributes s).1 ∧
      Ends (readAttributes s).2.1 (readAttributes s).2.2.1 (readAttributes s).2.2.2 := by
  fun_induction readAttributes s with
  | case1 s gap h =>
    have hgap : ∀ c ∈ gap, isGap c = true := fun c hc => readGap_gap (s := s) (by rwa [h])
    exact ⟨trivial, hgap, rfl⟩
  | case2 s gap r h =>
    have hgap : ∀ c ∈ gap, isGap c = true := fun c hc => readGap_gap (s := s) (by rwa [h])
    refine ⟨trivial, hgap, ?_⟩
    intro hl
    exact readGap_last (s := s) (by rwa [h]) (by rw [h]; rfl)
  | case3 s gap c r h hc hs =>
    have hgap : ∀ c ∈ gap, isGap c = true := fun c hc => readGap_gap (s := s) (by rwa [h])
    exact ⟨trivial, hgap, trivial⟩
  | case4 s gap c r h hc hs a attributes rest hrest ih =>
    have hgap : ∀ c ∈ gap, isGap c = true := fun c hc => readGap_gap (s := s) (by rwa [h])
    obtain ⟨h1, h2⟩ := readGap_stop (s := s) (by rw [h])
    have hslash : c ≠ '/' := fun he => hs ⟨he, h2 he⟩
    obtain ⟨ha, he⟩ := readAttribute_sound r hgap (by simp [isGap, h1, hslash]) hc
    have hsrc := source_readAttributes a.2
    rw [hrest] at ih hsrc
    refine ⟨⟨ha, ?_, ih.1⟩, ih.2⟩
    simp only [List.append_assoc] at hsrc ⊢
    rwa [hsrc]

/-- How an attribute ends is settled by the first character behind it that is part of no gap. -/
theorem endsBefore_append {a : WrittenAttribute} {x u : List Char}
    (hx : ∃ c ∈ x, isGap c = false) (h : a.EndsBefore (x ++ u)) (u' : List Char) :
    a.EndsBefore (x ++ u') := by
  obtain ⟨gap, name, assignment⟩ := a
  obtain ⟨c, hc, hgap⟩ := hx
  cases x with
  | nil => cases hc
  | cons d x =>
    simp only [WrittenAttribute.EndsBefore] at h ⊢
    cases assignment with
    | none =>
      obtain ⟨e, he⟩ : ∃ e, ((d :: x).dropWhile isSpace).head? = some e := by
        cases hd : (d :: x).dropWhile isSpace with
        | cons e y => exact ⟨e, rfl⟩
        | nil =>
          have hall := List.dropWhile_eq_nil_iff.1 hd c hc
          rw [(not_space_of_not_gap hgap).1] at hall
          cases hall
      have hhead : ∀ u : List Char, ((d :: x ++ u).dropWhile isSpace).head? = some e := by
        intro u
        rw [List.dropWhile_append, if_neg (by
          intro hnil
          rw [List.isEmpty_iff.1 hnil] at he
          cases he)]
        simp [he]
      refine ⟨by simpa using h.1, ?_⟩
      rw [hhead u']
      rw [hhead u] at h
      exact h.2
    | some g =>
      simp only [WrittenValue.EndsBefore] at h ⊢
      cases hv : g.value with
      | quoted q s closed => simpa [hv] using h
      | unquoted s =>
        simp only [hv] at h ⊢
        obtain ⟨h1, h2, h3⟩ := h
        refine ⟨?_, h2, h3⟩
        cases x with
        | cons e x => exact h1
        | nil =>
          obtain rfl := List.mem_singleton.1 hc
          obtain ⟨hspace, hslash⟩ := not_space_of_not_gap hgap
          simpa [endsValue, hspace, hslash] using h1

theorem reads_append {as : List WrittenAttribute} {x u : List Char}
    (hx : ∃ c ∈ x, isGap c = false) (h : Reads (x ++ u) as) (u' : List Char) :
    Reads (x ++ u') as := by
  induction as with
  | nil => trivial
  | cons a as ih =>
    obtain ⟨h1, h2, h3⟩ := h
    refine ⟨h1, ?_, ih h3⟩
    rw [← List.append_assoc] at h2 ⊢
    refine endsBefore_append ?_ h2 u'
    obtain ⟨c, hc, hgap⟩ := hx
    exact ⟨c, List.mem_append_right _ hc, hgap⟩

namespace StartTag

/-- Whether a reader finds exactly this start tag in front of `r`. -/
structure Sound (t : StartTag) (r : List Char) : Prop where
  name : ∀ c ∈ t.name, endsTagName c = false
  behind : ∀ c ∈ (t.attributes.flatMap WrittenAttribute.source ++
    (t.gap ++ t.closing.source ++ r)).head?, endsTagName c = true
  reads : Reads (t.gap ++ t.closing.source ++ r) t.attributes
  ends : Ends t.gap t.closing r

theorem source_append (t : StartTag) (r : List Char) :
    t.source ++ r = '<' :: (t.name ++ (t.attributes.flatMap WrittenAttribute.source ++
      (t.gap ++ t.closing.source ++ r))) := by
  simp [StartTag.source]

theorem Sound.append {t : StartTag} {r : List Char} (h : t.Sound r) (hc : t.closing ≠ .cutOff)
    (r' : List Char) : t.Sound r' := by
  have hx : ∃ c ∈ t.gap ++ t.closing.source, isGap c = false :=
    ⟨'>', List.mem_append_right _ (mem_source_of_ne hc), rfl⟩
  refine ⟨h.name, ?_, reads_append hx h.reads r', ?_⟩
  · intro c hmem
    apply h.behind c
    rw [← List.append_assoc] at hmem ⊢
    cases hsrc : t.attributes.flatMap WrittenAttribute.source ++ (t.gap ++ t.closing.source) with
    | cons d x => simpa [hsrc] using hmem
    | nil =>
      obtain ⟨c, hc, -⟩ := hx
      rw [(List.append_eq_nil_iff.1 hsrc).2] at hc
      cases hc
  · obtain ⟨h1, h2⟩ := h.ends
    refine ⟨h1, ?_⟩
    cases he : t.closing with
    | cutOff => exact absurd he hc
    | bracket => simpa [he] using h2
    | slash => trivial

theorem Sound.closing_ne {t : StartTag} {r : List Char} (h : t.Sound r) (hr : r ≠ []) :
    t.closing ≠ .cutOff := by
  intro hc
  have h2 := h.ends.2
  rw [hc] at h2
  exact hr h2

end StartTag

theorem readStartTag_append {t : StartTag} {r : List Char} (h : t.Sound r) :
    readStartTag ((t.source ++ r).drop 1) = (t, r) := by
  have hn : ∀ c ∈ t.name, (!endsTagName c) = true := fun c hc => by simp [h.name c hc]
  have hb : ∀ c ∈ (t.attributes.flatMap WrittenAttribute.source ++
      (t.gap ++ t.closing.source ++ r)).head?, (!endsTagName c) = false :=
    fun c hc => by simp [h.behind c hc]
  rw [StartTag.source_append, List.drop_one, List.tail_cons]
  unfold readStartTag
  rw [takeWhile_append_of_stop hn hb, dropWhile_append_of_stop hn hb,
    readAttributes_append h.reads, readAttributes_of_ends h.ends, List.append_nil]

theorem sound_readStartTag (s : List Char) : (readStartTag s).1.Sound (readStartTag s).2 := by
  obtain ⟨h1, h2⟩ := reads_readAttributes (s.dropWhile fun c => !endsTagName c)
  refine ⟨fun c hc => by simpa using List.mem_takeWhile_imp hc, ?_, h1, h2⟩
  intro c hc
  have hsrc := source_readAttributes (s.dropWhile fun c => !endsTagName c)
  simp only [readStartTag, List.append_assoc] at hc hsrc
  rw [hsrc] at hc
  simpa using head_dropWhile c hc

end MarkupSplice.Markup
