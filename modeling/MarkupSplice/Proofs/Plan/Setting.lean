import MarkupSplice.Plan
import MarkupSplice.Proofs.Markup.Outline
import MarkupSplice.Proofs.Markup.Reference

/-!
# Start tags with attributes set

What planned edits make of a start tag, said of the tag as it is written: some
attributes get an escaped value, new ones come behind the last one. An empty
value is written anew together with the gap behind it, so the next attribute
gets another gap. The tag that comes out is read as it is written again
(`sound_update`).
-/
namespace MarkupSplice
open Markup Text

namespace Markup

/-- An attribute, and whether it is to be set. -/
abbrev Marked := WrittenAttribute × Bool

variable (style : QuoteStyle) (escaped : List Char)

def Assignment.fresh : Assignment := ⟨[], [], .quoted '"' escaped true⟩

def WrittenValue.set : WrittenValue → WrittenValue
  | .unquoted _ =>
    if style = .double ∨ Plan.needsQuotes escaped then .quoted '"' escaped true
    else .unquoted escaped
  | .quoted q _ closed =>
    if style = .double ∧ closed then .quoted '"' escaped true else .quoted q escaped closed

def Assignment.set (g : Assignment) : Assignment :=
  if g.value.text.isEmpty then .fresh escaped else { g with value := g.value.set style escaped }

namespace WrittenAttribute

def set (a : WrittenAttribute) : WrittenAttribute :=
  { a with assignment := some (a.assignment.elim (.fresh escaped) (Assignment.set style escaped)) }

def isEmpty (a : WrittenAttribute) : Bool := a.assignment.any fun g => g.value.text.isEmpty

/-- Whether what comes next would be read as part of the value. -/
def isOpen (a : WrittenAttribute) : Bool :=
  a.assignment.any fun g => g.value.quote?.elim g.value.text.isEmpty fun _ => !g.value.isClosed

end WrittenAttribute

namespace Marked

def behind (cut : Bool) (m : Marked) : WrittenAttribute :=
  if cut then { m.1 with gap := [' '] } else m.1

def make (cut : Bool) (m : Marked) : WrittenAttribute :=
  if m.2 then (m.behind cut).set style escaped else m.behind cut

/-- Whether the gap behind the attribute is written anew. -/
def cuts (m : Marked) : Bool := m.2 && m.1.isEmpty

end Marked

def setMarked (cut : Bool) : List Marked → List WrittenAttribute
  | [] => []
  | m :: ms => m.make style escaped cut :: setMarked m.cuts ms

def cutBehind (cut : Bool) : List Marked → Bool
  | [] => cut
  | m :: ms => cutBehind m.cuts ms

def newAttributes (gap : List Char) : List (List Char) → List WrittenAttribute
  | [] => []
  | name :: names => ⟨gap ++ [' '], name, some (.fresh escaped)⟩ :: newAttributes [] names

def newSource (name : List Char) : List Char := ' ' :: name ++ (Assignment.fresh escaped).source

namespace StartTag

def gapBehind (t : StartTag) (ms : List Marked) : List Char :=
  if cutBehind false ms then [] else t.gap

def update (t : StartTag) (ms : List Marked) (names : List (List Char)) : StartTag :=
  { t with
    attributes := setMarked style escaped false ms ++ newAttributes escaped (t.gapBehind ms) names
    gap := if names.isEmpty then t.gapBehind ms else [] }

end StartTag

def Quotable : Prop := ∀ c ∈ escaped, isMarkupChar c = false

variable {style escaped}

theorem quotable_escapeChars (f : Flavor) (s : List Char) : Quotable (escapeChars f s) :=
  fun _ h => not_markupChar_escapeChars h

theorem Quotable.not_mem (h : Quotable escaped) {q : Char} (hq : isQuote q = true) :
    q ∉ escaped := by
  intro hmem
  have hnot := h q hmem
  simp only [isQuote, Bool.or_eq_true, beq_iff_eq] at hq
  rcases hq with rfl | rfl <;> cases hnot

theorem isBlank_of_isSpace {c : Char} (h : isSpace c = true) : isBlank c = true := by
  simp only [isSpace, Bool.or_eq_true, beq_iff_eq] at h
  rcases h with (((rfl | rfl) | rfl) | rfl) | rfl <;> decide

theorem bare_of_needsQuotes (h : ¬Plan.needsQuotes escaped = true) :
    escaped ≠ [] ∧ escaped.getLast? ≠ some '/' ∧ ∀ c ∈ escaped, isSpace c = false := by
  simp only [Plan.needsQuotes, Bool.or_eq_true, not_or, List.isEmpty_iff, beq_iff_eq,
    List.any_eq_true, not_exists, not_and] at h
  obtain ⟨⟨h1, h2⟩, h3⟩ := h
  refine ⟨h1, h2, ?_⟩
  intro c hc
  cases hspace : isSpace c with
  | false => rfl
  | true => exact absurd (isBlank_of_isSpace hspace) (h3 c hc).1.1

namespace WrittenValue

theorem sound_fresh (h : Quotable escaped) : (quoted '"' escaped true).Sound :=
  ⟨rfl, h.not_mem rfl⟩

theorem text_set (v : WrittenValue) : (v.set style escaped).text = escaped := by
  cases v with
  | unquoted s =>
    simp only [set]
    split <;> rfl
  | quoted q s closed =>
    simp only [set]
    split <;> rfl

theorem quote_set (v : WrittenValue) :
    (v.set style escaped).quote? =
      match v.quote? with
      | some q => if style = .double ∧ v.isClosed then some '"' else some q
      | none => if style = .double ∨ Plan.needsQuotes escaped then some '"' else none := by
  cases v with
  | unquoted s =>
    simp only [set, apply_ite quote?]
    rfl
  | quoted q s closed =>
    simp only [set, apply_ite quote?]
    rfl

theorem sound_set {v : WrittenValue} (hv : v.Sound) (h : Quotable escaped) :
    (v.set style escaped).Sound := by
  cases v with
  | unquoted s =>
    simp only [set]
    split
    · exact sound_fresh h
    · rename_i hbare
      obtain ⟨-, -, hspace⟩ := bare_of_needsQuotes fun hn => hbare (Or.inr hn)
      refine ⟨?_, ?_⟩
      · intro c hc
        refine ⟨hspace c hc, ?_⟩
        rintro rfl
        cases h _ hc
      · intro c hc
        cases hq : isQuote c with
        | false => rfl
        | true => exact absurd (List.mem_of_mem_head? hc) (h.not_mem hq)
  | quoted q s closed =>
    simp only [set]
    split
    · exact sound_fresh h
    · exact ⟨hv.1, h.not_mem hv.1⟩

theorem endsBefore_set {v : WrittenValue} {t : List Char} (hv : v.EndsBefore t) :
    (v.set style escaped).EndsBefore t := by
  cases v with
  | unquoted s =>
    simp only [set]
    split
    · exact Or.inl rfl
    · rename_i hbare
      obtain ⟨hne, hslash, -⟩ := bare_of_needsQuotes fun hn => hbare (Or.inr hn)
      exact ⟨hv.1, fun hl => absurd hl hslash, fun he => absurd he hne⟩
  | quoted q s closed =>
    simp only [set]
    split
    · exact Or.inl rfl
    · exact hv

end WrittenValue

theorem Assignment.sound_fresh (h : Quotable escaped) : (Assignment.fresh escaped).Sound :=
  ⟨by simp [fresh], by simp [fresh], WrittenValue.sound_fresh h⟩

theorem Assignment.text_set (g : Assignment) : (g.set style escaped).value.text = escaped := by
  unfold set
  split
  · rfl
  · exact WrittenValue.text_set _

theorem Assignment.sound_set {g : Assignment} (hg : g.Sound) (h : Quotable escaped) :
    (g.set style escaped).Sound := by
  unfold set
  split
  · exact sound_fresh h
  · exact ⟨hg.before, hg.after, WrittenValue.sound_set hg.value h⟩

namespace WrittenAttribute

variable {a : WrittenAttribute}

theorem sound_set (ha : a.Sound) (h : Quotable escaped) : (a.set style escaped).Sound := by
  refine ⟨ha.gap, ha.name, ?_⟩
  intro g hg
  obtain rfl := Option.some.inj hg
  cases hassign : a.assignment with
  | none => exact Assignment.sound_fresh h
  | some g => exact Assignment.sound_set (ha.assignment g hassign) h

theorem endsBefore_set {t : List Char} (ha : a.EndsBefore t) :
    (a.set style escaped).EndsBefore t := by
  obtain ⟨gap, name, assignment⟩ := a
  cases assignment with
  | none => exact Or.inl rfl
  | some g =>
    simp only [EndsBefore, set, Option.elim_some, Assignment.set] at ha ⊢
    split
    · exact Or.inl rfl
    · exact WrittenValue.endsBefore_set ha

theorem endsBefore_of_isEmpty (h : a.isEmpty = true) (t : List Char) :
    (a.set style escaped).EndsBefore t := by
  obtain ⟨gap, name, assignment⟩ := a
  cases assignment with
  | none => cases h
  | some g =>
    have hempty : g.value.text.isEmpty = true := h
    simp only [EndsBefore, set, Option.elim_some, Assignment.set]
    rw [if_pos hempty]
    exact Or.inl rfl

theorem entry_set (f : Flavor) :
    (a.set style escaped).entry f =
      (f.normalize (String.ofList a.name), some (String.ofList (unescapeChars escaped))) := by
  obtain ⟨gap, name, assignment⟩ := a
  cases assignment with
  | none => rfl
  | some g => simp [entry, set, Assignment.text_set]

end WrittenAttribute

theorem reads_append_iff {t : List Char} {as bs : List WrittenAttribute} :
    Reads t (as ++ bs) ↔ Reads (bs.flatMap WrittenAttribute.source ++ t) as ∧ Reads t bs := by
  induction as with
  | nil => simp [Reads]
  | cons a as ih =>
    simp only [List.cons_append, Reads, List.flatMap_append, List.append_assoc, ih, and_assoc]

namespace Marked

variable {m : Marked} {cut : Bool}

theorem sound_make (hm : m.1.Sound) (h : Quotable escaped) : (m.make style escaped cut).Sound := by
  have hbehind : (m.behind cut).Sound := by
    cases cut with
    | false => exact hm
    | true =>
      refine ⟨?_, hm.name, hm.assignment⟩
      intro c hc
      rw [List.mem_singleton.1 hc]
      rfl
  unfold make
  split
  · exact WrittenAttribute.sound_set hbehind h
  · exact hbehind

theorem endsBefore_make {t : List Char} (hm : m.1.EndsBefore t) :
    (m.make style escaped cut).EndsBefore t := by
  have hbehind : (m.behind cut).EndsBefore t := by
    cases cut <;> exact hm
  unfold make
  split
  · exact WrittenAttribute.endsBefore_set hbehind
  · exact hbehind

theorem endsBefore_of_cuts (h : m.cuts = true) (t : List Char) :
    (m.make style escaped cut).EndsBefore t := by
  obtain ⟨hset, hempty⟩ := Bool.and_eq_true_iff.1 h
  have hbehind : (m.behind cut).isEmpty = true := by
    cases cut <;> exact hempty
  unfold make
  rw [if_pos hset]
  exact WrittenAttribute.endsBefore_of_isEmpty hbehind t

theorem source_make (m : Marked) (cut : Bool) :
    (m.make style escaped cut).source =
      (if cut then [' '] else m.1.gap) ++ m.1.name ++
        (m.make style escaped cut).assignment.elim [] Assignment.source := by
  unfold make
  split <;> cases cut <;> rfl

theorem entry_make (f : Flavor) :
    (m.make style escaped cut).entry f =
      if m.2 then (f.normalize (String.ofList m.1.name),
        some (String.ofList (unescapeChars escaped)))
      else m.1.entry f := by
  unfold make
  split
  · rw [WrittenAttribute.entry_set]
    cases cut <;> rfl
  · cases cut <;> rfl

end Marked

theorem entries_setMarked (f : Flavor) (cut : Bool) (ms : List Marked) :
    (setMarked style escaped cut ms).map (WrittenAttribute.entry f) =
      ms.map fun m => if m.2 then (f.normalize (String.ofList m.1.name),
        some (String.ofList (unescapeChars escaped))) else m.1.entry f := by
  induction ms generalizing cut with
  | nil => rfl
  | cons m ms ih => rw [setMarked, List.map_cons, List.map_cons, ih, Marked.entry_make]

theorem reads_setMarked {ms : List Marked} {cut : Bool} {t t' : List Char}
    (hq : Quotable escaped) (h : Reads t (ms.map Prod.fst))
    (hlast : ∀ b ∈ (setMarked style escaped cut ms).getLast?, b.EndsBefore t → b.EndsBefore t') :
    Reads t' (setMarked style escaped cut ms) := by
  induction ms generalizing cut with
  | nil => trivial
  | cons m ms ih =>
    obtain ⟨hm, hend, hrest⟩ := h
    refine ⟨Marked.sound_make hm hq, ?_, ih hrest ?_⟩
    · have hold : (m.make style escaped cut).EndsBefore _ := Marked.endsBefore_make hend
      cases ms with
      | nil => exact hlast _ rfl hold
      | cons m' ms =>
        cases hcut : m.cuts with
        | true => exact Marked.endsBefore_of_cuts hcut _
        | false =>
          -- the next attribute keeps its gap and its name, and nothing behind these matters
          obtain ⟨c, hc, hgap, -⟩ := hrest.1.name.first
          have hmem : ∃ c ∈ m'.1.gap ++ m'.1.name, isGap c = false :=
            ⟨c, List.mem_append_right _ (List.mem_of_mem_head? hc), hgap⟩
          rw [List.map_cons, List.flatMap_cons, WrittenAttribute.source, List.append_assoc,
            List.append_assoc] at hold
          rw [setMarked, List.flatMap_cons, Marked.source_make, List.append_assoc,
            List.append_assoc]
          exact endsBefore_append hmem hold _
    · intro b hb
      apply hlast b
      rw [setMarked]
      cases hset : setMarked style escaped m.cuts ms with
      | nil => simp [hset] at hb
      | cons d ds =>
        rw [hset] at hb
        exact hb

theorem WrittenAttribute.isOpen_set {a : WrittenAttribute} (h : a.isOpen = false) :
    (a.set style escaped).isOpen = false := by
  obtain ⟨gap, name, assignment⟩ := a
  cases assignment with
  | none => rfl
  | some g =>
    obtain ⟨before, after, value⟩ := g
    cases value with
    | quoted q s closed =>
      obtain rfl : closed = true := by
        simpa [isOpen, WrittenValue.quote?, WrittenValue.isClosed] using h
      simp only [isOpen, set, Option.elim_some, Option.any_some, Assignment.set, WrittenValue.set]
      split
      · rfl
      · split <;> rfl
    | unquoted s =>
      have hne : s ≠ [] := by
        simpa [isOpen, WrittenValue.quote?, WrittenValue.text] using h
      simp only [isOpen, set, Option.elim_some, Option.any_some, Assignment.set,
        WrittenValue.text, List.isEmpty_iff, if_neg hne, WrittenValue.set]
      split
      · rfl
      · rename_i hbare
        obtain ⟨hescaped, -, -⟩ := bare_of_needsQuotes fun hn => hbare (Or.inr hn)
        simpa [WrittenValue.quote?, WrittenValue.text] using hescaped

theorem WrittenAttribute.isOpen_set_of_isEmpty {a : WrittenAttribute} (h : a.isEmpty = true) :
    (a.set style escaped).isOpen = false := by
  obtain ⟨gap, name, assignment⟩ := a
  cases assignment with
  | none => cases h
  | some g =>
    have hempty : g.value.text.isEmpty = true := h
    simp only [isOpen, set, Option.elim_some, Option.any_some, Assignment.set]
    rw [if_pos hempty]
    rfl

theorem Marked.isOpen_make {m : Marked} {cut : Bool}
    (h : m.1.isOpen = true → m.2 = true ∧ m.1.isEmpty = true) :
    (m.make style escaped cut).isOpen = false := by
  have hopen : (m.behind cut).isOpen = m.1.isOpen := by
    cases cut <;> rfl
  have hempty : (m.behind cut).isEmpty = m.1.isEmpty := by
    cases cut <;> rfl
  unfold make
  cases hm : m.1.isOpen with
  | false =>
    rw [hm] at hopen
    split
    · exact WrittenAttribute.isOpen_set hopen
    · exact hopen
  | true =>
    obtain ⟨hset, hvalue⟩ := h hm
    rw [if_pos hset]
    exact WrittenAttribute.isOpen_set_of_isEmpty (hempty.trans hvalue)

theorem isOpen_setMarked {ms : List Marked} {cut : Bool} (h : ∀ m ∈ ms, m.1.isOpen = false) :
    ∀ b ∈ setMarked style escaped cut ms, b.isOpen = false := by
  induction ms generalizing cut with
  | nil => simp [setMarked]
  | cons m ms ih =>
    intro b hb
    rcases List.mem_cons.1 hb with rfl | hb
    · apply Marked.isOpen_make
      simp [h m List.mem_cons_self]
    · exact ih (fun m' hm' => h m' (List.mem_cons_of_mem _ hm')) b hb

theorem dangling_of_isOpen {t : List Char} {as : List WrittenAttribute} (h : Reads t as)
    (ht : t ≠ []) {a : WrittenAttribute} (ha : a ∈ as) (hopen : a.isOpen = true) :
    ∃ before after, a.assignment = some ⟨before, after, .unquoted []⟩ := by
  induction as with
  | nil => cases ha
  | cons b as ih =>
    rcases List.mem_cons.1 ha with rfl | ha
    · have hends := h.2.1
      obtain ⟨gap, name, assignment⟩ := a
      cases assignment with
      | none => cases hopen
      | some g =>
        obtain ⟨before, after, value⟩ := g
        cases value with
        | unquoted s =>
          obtain rfl : s = [] := by
            simpa [WrittenAttribute.isOpen, WrittenValue.quote?, WrittenValue.text] using hopen
          exact ⟨before, after, rfl⟩
        | quoted q s closed =>
          obtain rfl : closed = false := by
            simpa [WrittenAttribute.isOpen, WrittenValue.quote?, WrittenValue.isClosed] using hopen
          rcases hends with hclosed | hnil
          · cases hclosed
          · exact absurd (List.append_eq_nil_iff.1 hnil).2 ht
    · exact ih h.2.2 ha

def IsName (name : List Char) : Prop := name ≠ [] ∧ ∀ c ∈ name, endsAttributeName c = false

instance (name : List Char) : Decidable (IsName name) :=
  decidable_of_iff (name ≠ [] ∧ name.all (fun c => !endsAttributeName c)) (by simp [IsName])

theorem IsName.readable {name : List Char} (h : IsName name) : ReadableName name := by
  obtain ⟨hne, hall⟩ := h
  cases name with
  | nil => exact absurd rfl hne
  | cons c name =>
    have hc := hall c List.mem_cons_self
    refine ⟨⟨c, rfl, ?_, ?_⟩, fun d hd => hall d (List.mem_cons_of_mem _ hd)⟩
    · cases hgap : isGap c with
      | false => rfl
      | true =>
        rw [endsAttributeName_of_gap hgap] at hc
        cases hc
    · rintro rfl
      cases hc

theorem reads_newAttributes {gap t : List Char} {names : List (List Char)}
    (hq : Quotable escaped) (hgap : ∀ c ∈ gap, isGap c = true) (hn : ∀ n ∈ names, IsName n) :
    Reads t (newAttributes escaped gap names) := by
  induction names generalizing gap with
  | nil => trivial
  | cons name names ih =>
    refine ⟨⟨?_, (hn name List.mem_cons_self).readable, ?_⟩, Or.inl rfl,
      ih (by simp) fun n h => hn n (List.mem_cons_of_mem _ h)⟩
    · intro c hc
      rcases List.mem_append.1 hc with hc | hc
      · exact hgap c hc
      · rw [List.mem_singleton.1 hc]
        rfl
    · intro g hg
      obtain rfl := Option.some.inj hg
      exact Assignment.sound_fresh hq

theorem entries_newAttributes (f : Flavor) (escaped gap : List Char) (names : List (List Char)) :
    (newAttributes escaped gap names).map (WrittenAttribute.entry f) =
      names.map fun name => (f.normalize (String.ofList name),
        some (String.ofList (unescapeChars escaped))) := by
  induction names generalizing gap with
  | nil => rfl
  | cons name names ih =>
    rw [newAttributes, List.map_cons, ih]
    rfl

theorem source_newAttributes (escaped gap : List Char) (names : List (List Char)) :
    (newAttributes escaped gap names).flatMap WrittenAttribute.source ++
        (if names.isEmpty then gap else []) =
      gap ++ names.flatMap (newSource escaped) := by
  induction names generalizing gap with
  | nil => simp [newAttributes]
  | cons name names ih =>
    have hrest := ih []
    rw [ite_self, List.append_nil, List.nil_append] at hrest
    simp [newAttributes, WrittenAttribute.source, newSource, hrest]

theorem space_of_endsValue {gap u : List Char} {closing : Closing} (h : Ends gap closing u)
    (hv : endsValue (gap ++ closing.source ++ u) = true) : ∀ c ∈ gap.head?, isSpace c = true := by
  obtain ⟨hgap, hend⟩ := h
  intro c hc
  cases gap with
  | nil => cases hc
  | cons d gap =>
    cases hc
    cases hspace : isSpace c with
    | true => rfl
    | false =>
      -- a slash would have to stand right in front of a bracket, and then it were no gap
      have hslash := hgap c List.mem_cons_self
      simp only [isGap, hspace, Bool.false_or, beq_iff_eq] at hslash
      subst hslash
      cases gap with
      | cons d gap =>
        have hd := hgap d (by simp)
        have hne : d ≠ '>' := by
          rintro rfl
          cases hd
        simp [endsValue, isSpace, hne] at hv
      | nil =>
        cases closing with
        | cutOff => simp [endsValue, isSpace, Closing.source, hend] at hv
        | bracket => exact absurd rfl hend
        | slash => simp [endsValue, isSpace, Closing.source] at hv

theorem endsValue_of_gap {gap u : List Char} {closing : Closing} (h : Ends gap closing u)
    (hv : endsValue (gap ++ closing.source ++ u) = true) (x : List Char) :
    endsValue (gap ++ ' ' :: x) = true := by
  have hspace := space_of_endsValue h hv
  cases gap with
  | nil => rfl
  | cons c gap => simp [endsValue, hspace c rfl]

theorem head_of_gap {gap name : List Char} (hgap : ∀ c ∈ gap, isGap c = true) (hn : IsName name)
    (x : List Char) : ((gap ++ ' ' :: (name ++ x)).dropWhile isSpace).head? ≠ some '=' := by
  induction gap with
  | nil =>
    obtain ⟨hne, hall⟩ := hn
    cases name with
    | nil => exact absurd rfl hne
    | cons c name =>
      have hc := hall c List.mem_cons_self
      have hspace : isSpace c = false := by
        cases hs : isSpace c with
        | false => rfl
        | true =>
          rw [endsAttributeName_of_space hs] at hc
          cases hc
      have hblank : isSpace ' ' = true := rfl
      rw [List.nil_append, List.dropWhile_cons_of_pos hblank, List.cons_append,
        List.dropWhile_cons_of_neg (by simp [hspace])]
      rintro ⟨⟩
      cases hc
  | cons c gap ih =>
    cases hspace : isSpace c with
    | true =>
      rw [List.cons_append, List.dropWhile_cons_of_pos hspace]
      exact ih fun d hd => hgap d (List.mem_cons_of_mem _ hd)
    | false =>
      rw [List.cons_append, List.dropWhile_cons_of_neg (by simp [hspace])]
      rintro ⟨⟩
      cases hgap '=' List.mem_cons_self

theorem endsBefore_new {a : WrittenAttribute} {gap u name : List Char} {closing : Closing}
    (hopen : a.isOpen = false) (hends : Ends gap closing u)
    (h : a.EndsBefore (gap ++ closing.source ++ u)) (hn : IsName name) (x : List Char) :
    a.EndsBefore (gap ++ ' ' :: (name ++ x)) := by
  obtain ⟨agap, aname, assignment⟩ := a
  cases assignment with
  | none =>
    constructor
    · intro c hc
      cases gap with
      | nil =>
        cases hc
        rfl
      | cons d gap =>
        cases hc
        exact endsAttributeName_of_gap (hends.1 c List.mem_cons_self)
    · exact head_of_gap hends.1 hn x
  | some g =>
    obtain ⟨before, after, value⟩ := g
    cases value with
    | quoted q s closed =>
      left
      simpa [WrittenAttribute.isOpen, WrittenValue.quote?, WrittenValue.isClosed] using hopen
    | unquoted s =>
      obtain ⟨hv, -, -⟩ := h
      have hne : s ≠ [] := by
        simpa [WrittenAttribute.isOpen, WrittenValue.quote?, WrittenValue.text] using hopen
      refine ⟨endsValue_of_gap hends hv _, ?_, fun he => absurd he hne⟩
      intro _ hhead
      cases gap with
      | nil => cases hhead
      | cons d gap =>
        cases hhead
        cases hends.1 '>' List.mem_cons_self

theorem setMarked_append (cut : Bool) (ms ns : List Marked) :
    setMarked style escaped cut (ms ++ ns) =
      setMarked style escaped cut ms ++ setMarked style escaped (cutBehind cut ms) ns := by
  induction ms generalizing cut with
  | nil => rfl
  | cons m ms ih => rw [List.cons_append, setMarked, ih, setMarked, cutBehind, List.cons_append]

theorem setMarked_concat (cut : Bool) (ms : List Marked) (m : Marked) :
    setMarked style escaped cut (ms ++ [m]) =
      setMarked style escaped cut ms ++ [m.make style escaped (cutBehind cut ms)] :=
  setMarked_append cut ms [m]

theorem source_make_bare {a : WrittenAttribute} (ha : a.assignment = none) (cut : Bool) :
    (Marked.make style escaped cut (a, true)).source =
      (Marked.make style escaped cut (a, false)).source ++ (Assignment.fresh escaped).source := by
  obtain ⟨gap, name, assignment⟩ := a
  obtain rfl : assignment = none := ha
  cases cut <;>
    simp [Marked.make, Marked.behind, WrittenAttribute.set, WrittenAttribute.source]

theorem getLast_setMarked_of_cuts {ms : List Marked} {cut : Bool} {b : WrittenAttribute}
    (h : cutBehind cut ms = true) (hb : b ∈ (setMarked style escaped cut ms).getLast?)
    (t : List Char) : b.EndsBefore t := by
  induction ms generalizing cut with
  | nil => cases hb
  | cons m ms ih =>
    cases ms with
    | nil =>
      cases hb
      exact Marked.endsBefore_of_cuts h t
    | cons m' ms => exact ih h hb

theorem Ends.nil {gap u : List Char} {closing : Closing} (h : Ends gap closing u) :
    Ends [] closing u := by
  refine ⟨by simp, ?_⟩
  cases closing with
  | cutOff => exact h.2
  | bracket => simp
  | slash => trivial

namespace StartTag

variable {t : StartTag} {ms : List Marked} {names : List (List Char)} {u : List Char}

theorem gapBehind_eq (t : StartTag) (ms : List Marked) :
    t.gapBehind ms = [] ∨ cutBehind false ms = false ∧ t.gapBehind ms = t.gap := by
  unfold gapBehind
  cases cutBehind false ms with
  | true => exact Or.inl rfl
  | false => exact Or.inr ⟨rfl, rfl⟩

theorem gapBehind_nil (h : t.gap = []) (ms : List Marked) : t.gapBehind ms = [] := by
  rcases t.gapBehind_eq ms with hnil | ⟨-, hgap⟩
  · exact hnil
  · rw [hgap, h]

theorem ends_gapBehind (h : Ends t.gap t.closing u) : Ends (t.gapBehind ms) t.closing u := by
  rcases t.gapBehind_eq ms with hgap | ⟨-, hgap⟩
  · rw [hgap]
    exact h.nil
  · rwa [hgap]

theorem source_update (t : StartTag) (ms : List Marked) (names : List (List Char)) :
    (t.update style escaped ms names).source =
      '<' :: t.name ++ (setMarked style escaped false ms).flatMap WrittenAttribute.source ++
        t.gapBehind ms ++ names.flatMap (newSource escaped) ++ t.closing.source := by
  have hnew := source_newAttributes escaped (t.gapBehind ms) names
  rw [source, update, List.flatMap_append]
  simp only [List.append_assoc, List.cons_append] at hnew ⊢
  rw [← List.append_assoc (List.flatMap _ (newAttributes _ _ _)), hnew, List.append_assoc]

theorem endsTagName_of_gap {c : Char} (h : isGap c = true) : endsTagName c = true := by
  simp only [isGap, Bool.or_eq_true, beq_iff_eq] at h
  rcases h with h | h <;> simp [endsTagName, h]

theorem head_update (h : t.Sound u) (hms : ms.map Prod.fst = t.attributes) (x : List Char)
    (hx : ms = [] → ∀ c ∈ (t.gap ++ x).head?, endsTagName c = true) :
    ∀ c ∈ ((setMarked style escaped false ms).flatMap WrittenAttribute.source ++
      (t.gapBehind ms ++ x)).head?, endsTagName c = true := by
  have hbehind := h.behind
  have hreads := h.reads
  rw [← hms] at hbehind hreads
  cases ms with
  | nil => exact hx rfl
  | cons m ms =>
    obtain ⟨d, hd, -, -⟩ := hreads.1.name.first
    intro c hc
    apply hbehind c
    rw [setMarked, List.flatMap_cons, Marked.source_make] at hc
    rw [List.map_cons, List.flatMap_cons, WrittenAttribute.source]
    cases hfront : m.1.gap ++ m.1.name with
    | nil =>
      rw [(List.append_eq_nil_iff.1 hfront).2] at hd
      cases hd
    | cons e front =>
      simp only [Bool.false_eq_true, if_false, hfront] at hc
      exact hc

theorem reads_update (h : t.Sound u) (hms : ms.map Prod.fst = t.attributes)
    (hq : Quotable escaped) (hn : ∀ n ∈ names, IsName n)
    (hopen : names ≠ [] → ∀ b ∈ (setMarked style escaped false ms).getLast?, b.isOpen = false) :
    Reads ((t.update style escaped ms names).gap ++ t.closing.source ++ u)
      (t.update style escaped ms names).attributes := by
  have hends : Ends (t.gapBehind ms) t.closing u := ends_gapBehind h.ends
  have hreads := h.reads
  rw [← hms] at hreads
  refine reads_append_iff.2 ⟨reads_setMarked hq hreads ?_, reads_newAttributes hq hends.1 hn⟩
  intro b hb hold
  cases hcut : cutBehind false ms with
  | true => exact getLast_setMarked_of_cuts hcut hb _
  | false =>
    have hgap : t.gapBehind ms = t.gap := by simp [gapBehind, hcut]
    cases names with
    | nil => simpa [update, newAttributes, hgap] using hold
    | cons name names =>
      have hnew := endsBefore_new (hopen (by simp) b hb) h.ends hold (hn name List.mem_cons_self)
      simpa [update, newAttributes, hgap, WrittenAttribute.source] using hnew _

theorem sound_update (h : t.Sound u) (hms : ms.map Prod.fst = t.attributes)
    (hq : Quotable escaped) (hn : ∀ n ∈ names, IsName n)
    (hopen : names ≠ [] → ∀ b ∈ (setMarked style escaped false ms).getLast?, b.isOpen = false) :
    (t.update style escaped ms names).Sound u := by
  refine ⟨h.name, ?_, reads_update h hms hq hn hopen, ?_⟩
  · have hsource := source_newAttributes escaped (t.gapBehind ms) names
    simp only [update, List.flatMap_append, List.append_assoc]
    rw [← List.append_assoc (List.flatMap _ (newAttributes _ _ _)), hsource, List.append_assoc]
    apply head_update h hms _
    rintro rfl
    cases names with
    | nil =>
      have hbehind := h.behind
      rw [← hms] at hbehind
      simpa using hbehind
    | cons name names =>
      intro c hc
      cases hgap : t.gap with
      | nil =>
        rw [hgap] at hc
        cases hc
        rfl
      | cons d gap =>
        rw [hgap] at hc
        cases hc
        exact endsTagName_of_gap (h.ends.1 c (by simp [hgap]))
  · have hends : Ends (t.gapBehind ms) t.closing u := ends_gapBehind h.ends
    cases names with
    | nil => exact hends
    | cons name names => exact hends.nil

end StartTag
end Markup
end MarkupSplice
