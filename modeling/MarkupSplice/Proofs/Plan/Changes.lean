import MarkupSplice.Proofs.Edit.Stretch
import MarkupSplice.Proofs.Plan.Setting

/-!
# What planned edits replace

The edits that are planned for the attributes of a start tag are those of the
stretches that the tag is cut into (`edits_tagStretches`). Before the edits
these stretches are the tag as it is written (`oldText_tagStretches`), and
after them the tag with its attributes set (`newText_tagStretches`).
-/
namespace MarkupSplice
open Markup Text

namespace Plan

def changeAt (o : PlanOptions) (next : Option Nat) (stop : Nat) (a : Attribute)
    (escaped : String) : Edit :=
  if a.value.isNone then .insert a.nameRange.stop.offset ("=" ++ quoted escaped)
  else if a.valueRange.start = a.nameRange.stop then
    match next with
    | some start => ⟨a.nameRange.stop.offset, start, "=" ++ quoted escaped ++ " "⟩
    | none => ⟨a.nameRange.stop.offset, stop, "=" ++ quoted escaped⟩
  else replaceValue o a escaped

def changes (o : PlanOptions) (stop : Nat) (escaped : String) :
    List Attribute → List Bool → List Edit
  | a :: as, set :: sets =>
    (if set then [changeAt o (as.head?.map fun b => b.nameRange.start.offset) stop a escaped]
      else []) ++ changes o stop escaped as sets
  | _, _ => []

def newText (name : String) (escaped : String) : String := " " ++ name ++ "=" ++ quoted escaped

theorem setAttribute_eq (f : Flavor) (o : PlanOptions) (n : Node) (e : Element)
    (name value : String) :
    setAttribute f o n e name value =
      match e.findAttribute f name with
      | none => some (.insert (n.delimiterOffset e)
          (newText name (String.ofList (escapeChars o.escaping value.toList))))
      | some (i, a) =>
        if a.value.getD "" = value then none
        else some (changeAt o ((e.attributes[i + 1]?).map fun b => b.nameRange.start.offset)
          (n.delimiterOffset e) a (String.ofList (escapeChars o.escaping value.toList))) := by
  unfold setAttribute
  rw [escape_eq]
  cases e.findAttribute f name with
  | none => simp [newText, String.append_assoc]
  | some found =>
    obtain ⟨i, a⟩ := found
    simp only [changeAt, replaceEmpty]
    split
    · rfl
    · split
      · rfl
      · split
        · cases e.attributes[i + 1]? <;> rfl
        · rfl

end Plan

namespace Markup

variable (style : QuoteStyle) (escaped gap : List Char)

def Assignment.stretches (next sep : List Char) (g : Assignment) : List Stretch :=
  if g.value.text.isEmpty then
    [.replace (g.source ++ next) ((Assignment.fresh escaped).source ++ sep)]
  else
    match g.value with
    | .unquoted s =>
      [.keep (g.before ++ '=' :: g.after), .replace s ((g.value.set style escaped).source)]
    | .quoted q s closed =>
      if style = .double ∧ q ≠ '"' ∧ closed then
        [.keep (g.before ++ '=' :: g.after), .replace (q :: s ++ [q]) ('"' :: escaped ++ ['"'])]
      else
        [.keep (g.before ++ '=' :: g.after ++ [q]), .replace s escaped,
          .keep (if closed then [q] else [])]

def gapOf : List Marked → List Char
  | [] => gap
  | m :: _ => m.1.gap

def separator : List Marked → List Char
  | [] => []
  | _ => [' ']

def Marked.stretches (next sep : List Char) (cut : Bool) (m : Marked) : List Stretch :=
  .keep ((if cut then [] else m.1.gap) ++ m.1.name) ::
    if m.2 then
      m.1.assignment.elim [.insert (Assignment.fresh escaped).source]
        (Assignment.stretches style escaped next sep)
    else [.keep (m.1.assignment.elim [] Assignment.source)]

/-- The attributes and the gap behind them; a gap that is written anew belongs to the stretch in
front of it. -/
def tagStretches (cut : Bool) : List Marked → List Stretch
  | [] => [.keep (if cut then [] else gap)]
  | m :: ms =>
    m.stretches style escaped (gapOf gap ms) (separator ms) cut ++ tagStretches m.cuts ms

variable {style escaped gap}

theorem oldText_assignment {next sep : List Char} (g : Assignment) :
    Stretch.oldText (g.stretches style escaped next sep) =
      g.source ++ if g.value.text.isEmpty then next else [] := by
  obtain ⟨before, after, value⟩ := g
  unfold Assignment.stretches
  cases hempty : value.text.isEmpty with
  | true => simp [Stretch.replace]
  | false =>
    cases value with
    | unquoted s => simp [Stretch.keep, Stretch.replace, Assignment.source, WrittenValue.source]
    | quoted q s closed =>
      simp only [Bool.false_eq_true, if_false]
      split
      · rename_i h
        simp [Stretch.keep, Stretch.replace, Assignment.source, WrittenValue.source, h.2.2]
      · simp [Stretch.keep, Stretch.replace, Assignment.source, WrittenValue.source]

theorem newText_assignment {next sep : List Char} (g : Assignment) :
    Stretch.newText (g.stretches style escaped next sep) =
      (g.set style escaped).source ++ if g.value.text.isEmpty then sep else [] := by
  obtain ⟨before, after, value⟩ := g
  unfold Assignment.stretches Assignment.set
  cases hempty : value.text.isEmpty with
  | true => simp [Stretch.replace]
  | false =>
    cases value with
    | unquoted s => simp [Stretch.keep, Stretch.replace, Assignment.source]
    | quoted q s closed =>
      simp only [Bool.false_eq_true, if_false, WrittenValue.set]
      by_cases hdouble : style = .double ∧ closed = true
      · obtain ⟨rfl, rfl⟩ := hdouble
        by_cases hq : q = '"'
        · subst hq
          simp [Stretch.keep, Stretch.replace, Assignment.source, WrittenValue.source]
        · simp [Stretch.keep, Stretch.replace, Assignment.source, WrittenValue.source, hq]
      · have hkeep : ¬(style = .double ∧ q ≠ '"' ∧ closed = true) :=
          fun h => hdouble ⟨h.1, h.2.2⟩
        rw [if_neg hkeep, if_neg hdouble]
        simp [Stretch.keep, Stretch.replace, Assignment.source, WrittenValue.source]

theorem oldText_marked {next sep : List Char} {cut : Bool} (m : Marked) :
    Stretch.oldText (m.stretches style escaped next sep cut) =
      (if cut then [] else m.1.gap) ++ m.1.name ++ m.1.assignment.elim [] Assignment.source ++
        if m.cuts then next else [] := by
  obtain ⟨⟨agap, name, assignment⟩, set⟩ := m
  cases set with
  | false => simp [Marked.stretches, Marked.cuts, Stretch.keep]
  | true =>
    cases assignment with
    | none =>
      simp [Marked.stretches, Marked.cuts, WrittenAttribute.isEmpty, Stretch.keep, Stretch.insert]
    | some g =>
      simp [Marked.stretches, Marked.cuts, WrittenAttribute.isEmpty, Stretch.keep,
        oldText_assignment]

theorem newText_marked {next sep : List Char} {cut : Bool} (m : Marked) :
    (if cut then [' '] else []) ++ Stretch.newText (m.stretches style escaped next sep cut) =
      (m.make style escaped cut).source ++ if m.cuts then sep else [] := by
  obtain ⟨⟨agap, name, assignment⟩, set⟩ := m
  cases set with
  | false =>
    cases cut <;>
      simp [Marked.stretches, Marked.cuts, Marked.make, Marked.behind, Stretch.keep,
        WrittenAttribute.source]
  | true =>
    cases assignment with
    | none =>
      cases cut <;>
        simp [Marked.stretches, Marked.cuts, Marked.make, Marked.behind, WrittenAttribute.isEmpty,
          WrittenAttribute.set, WrittenAttribute.source, Stretch.keep, Stretch.insert]
    | some g =>
      cases cut <;>
        simp [Marked.stretches, Marked.cuts, Marked.make, Marked.behind, WrittenAttribute.isEmpty,
          WrittenAttribute.set, WrittenAttribute.source, Stretch.keep, newText_assignment]

theorem oldText_tagStretches (cut : Bool) (ms : List Marked) :
    (if cut then gapOf gap ms else []) ++
        Stretch.oldText (tagStretches style escaped gap cut ms) =
      (ms.map Prod.fst).flatMap WrittenAttribute.source ++ gap := by
  induction ms generalizing cut with
  | nil => cases cut <;> simp [tagStretches, gapOf, Stretch.keep]
  | cons m ms ih =>
    have hrest := ih m.cuts
    rw [tagStretches, Stretch.oldText_append, oldText_marked, List.map_cons, List.flatMap_cons,
      List.append_assoc _ _ gap, ← hrest]
    cases cut <;> simp [gapOf, WrittenAttribute.source]

theorem newText_tagStretches (cut : Bool) (ms : List Marked) :
    (if cut then separator ms else []) ++
        Stretch.newText (tagStretches style escaped gap cut ms) =
      (setMarked style escaped cut ms).flatMap WrittenAttribute.source ++
        if cutBehind cut ms then [] else gap := by
  induction ms generalizing cut with
  | nil => cases cut <;> simp [tagStretches, separator, setMarked, cutBehind, Stretch.keep]
  | cons m ms ih =>
    calc (if cut then [' '] else []) ++
          Stretch.newText (m.stretches style escaped (gapOf gap ms) (separator ms) cut ++
            tagStretches style escaped gap m.cuts ms)
      _ = (m.make style escaped cut).source ++ ((if m.cuts then separator ms else []) ++
            Stretch.newText (tagStretches style escaped gap m.cuts ms)) := by
        rw [Stretch.newText_append, ← List.append_assoc, newText_marked, List.append_assoc]
      _ = (m.make style escaped cut).source ++
            ((setMarked style escaped m.cuts ms).flatMap WrittenAttribute.source ++
              if cutBehind m.cuts ms then [] else gap) := by rw [ih m.cuts]
      _ = _ := by rw [setMarked, List.flatMap_cons, List.append_assoc, cutBehind]

theorem quoted_ofList (escaped : List Char) :
    Plan.quoted (String.ofList escaped) = String.ofList ('"' :: escaped ++ ['"']) := by
  rw [← String.toList_inj]
  simp [Plan.quoted]

theorem fresh_ofList (escaped : List Char) :
    "=" ++ Plan.quoted (String.ofList escaped) =
      String.ofList (Assignment.fresh escaped).source := by
  rw [← String.toList_inj]
  simp [Assignment.fresh, Assignment.source, WrittenValue.source, Plan.quoted]

end Markup

namespace Growth

variable {f : Flavor} {p : Position} {a : WrittenAttribute} {g : Assignment}

theorem nameStop_attributeOf (f : Flavor) (p : Position) (a : WrittenAttribute) :
    (attributeOf f p a).nameRange.stop.offset =
      p.offset + byteLength a.gap + byteLength a.name := by
  simp [attributeOf]

theorem nameStart_attributeOf (f : Flavor) (p : Position) (a : WrittenAttribute) :
    (attributeOf f p a).nameRange.start.offset = p.offset + byteLength a.gap := by
  simp [attributeOf]

theorem valueStart_of_empty (ha : a.assignment = some g) (hg : g.value.text.isEmpty = true) :
    (attributeOf f p a).valueRange.start = (attributeOf f p a).nameRange.stop := by
  simp [attributeOf, ha, hg, Range.at]

theorem valueRange_attributeOf (ha : a.assignment = some g) (hg : g.value.text.isEmpty = false) :
    (attributeOf f p a).valueRange.start.offset = (attributeOf f p a).nameRange.stop.offset +
        byteLength (g.before ++ '=' :: g.after ++ g.value.quote?.toList) ∧
      (attributeOf f p a).valueRange.stop.offset =
        (attributeOf f p a).valueRange.start.offset + byteLength g.value.text := by
  simp [attributeOf, ha, hg, Nat.add_assoc]

theorem valueStart_of_ne (ha : a.assignment = some g) (hg : g.value.text.isEmpty = false) :
    (attributeOf f p a).valueRange.start ≠ (attributeOf f p a).nameRange.stop := by
  intro heq
  have hoffset := (valueRange_attributeOf (f := f) (p := p) ha hg).1
  have heq' := congrArg Position.offset heq
  have hsize : '='.utf8Size = 1 := rfl
  simp only [byteLength_append, byteLength_cons] at hoffset
  omega

end Growth

namespace Markup

theorem size_quote {q : Char} (h : isQuote q = true) : q.utf8Size = 1 := by
  simp only [isQuote, Bool.or_eq_true, beq_iff_eq] at h
  rcases h with rfl | rfl <;> rfl

variable {escaped : List Char}

theorem edits_replaceValue {f : Flavor} {p : Position} {a : WrittenAttribute} {g : Assignment}
    (o : PlanOptions) (ha : a.assignment = some g) (hg : g.value.text.isEmpty = false)
    (hv : g.value.Sound) (next sep : List Char) :
    Stretch.edits (Growth.attributeOf f p a).nameRange.stop.offset
        (g.stretches o.quotes escaped next sep) =
      [Plan.replaceValue o (Growth.attributeOf f p a) (String.ofList escaped)] := by
  obtain ⟨hstart, hstop⟩ := Growth.valueRange_attributeOf (f := f) (p := p) ha hg
  have hquote : (Growth.attributeOf f p a).quote = g.value.quote? := by
    simp [Growth.attributeOf, ha]
  have hclosed : (Growth.attributeOf f p a).closed = g.value.isClosed := by
    simp [Growth.attributeOf, ha]
  generalize Growth.attributeOf f p a = b at hstart hstop hquote hclosed ⊢
  obtain ⟨before, after, value⟩ := g
  cases value with
  | unquoted s =>
    simp only [WrittenValue.quote?, WrittenValue.text, Option.toList_none, List.append_nil] at *
    simp only [Assignment.stretches, Plan.replaceValue, hquote, WrittenValue.text, hg,
      Bool.false_eq_true, if_false, Stretch.edits_keep, Stretch.edits_replace, Stretch.edits_nil,
      WrittenValue.set, String.toList_ofList, hstop, hstart]
    split
    · rw [quoted_ofList]
      rfl
    · rfl
  | quoted q s closed =>
    have hsize := size_quote hv.1
    simp only [WrittenValue.quote?, WrittenValue.text, WrittenValue.isClosed,
      Option.toList_some] at *
    simp only [Assignment.stretches, Plan.replaceValue, hquote, hclosed, WrittenValue.text, hg,
      Bool.false_eq_true, if_false]
    by_cases hswap : o.quotes = .double ∧ q ≠ '"' ∧ closed = true
    · rw [if_pos hswap, if_pos hswap, quoted_ofList]
      simp only [Stretch.edits_keep, Stretch.edits_replace, Stretch.edits_nil]
      simp only [byteLength_append, byteLength_cons, byteLength_nil, hsize] at hstart ⊢
      congr 2 <;> omega
    · rw [if_neg hswap, if_neg hswap]
      simp only [Stretch.edits_keep, Stretch.edits_replace, Stretch.edits_nil, hstop, hstart]

theorem nameStop_lt_offset {f : Flavor} {p : Position} {a : WrittenAttribute} :
    p.offset + byteLength a.source = (Growth.attributeOf f p a).nameRange.stop.offset +
      byteLength (a.assignment.elim [] Assignment.source) := by
  rw [Growth.nameStop_attributeOf]
  simp [WrittenAttribute.source, Nat.add_assoc]

/-- An attribute that is to be set takes one edit, and `next` is the gap that the edit may need. -/
theorem edits_marked {f : Flavor} {p : Position} {o : PlanOptions} {m : Marked} (hm : m.1.Sound)
    {next sep : List Char} {start? : Option Nat} {stop : Nat}
    (hnext : start? = some (p.offset + byteLength m.1.source + byteLength next) ∧ sep = [' '] ∨
      start? = none ∧ sep = [] ∧ stop = p.offset + byteLength m.1.source + byteLength next)
    (cut : Bool) :
    Stretch.edits (p.offset + if cut then byteLength m.1.gap else 0)
        (m.stretches o.quotes escaped next sep cut) =
      if m.2 then [Plan.changeAt o start? stop (Growth.attributeOf f p m.1) (String.ofList escaped)]
      else [] := by
  obtain ⟨a, set⟩ := m
  have hname : p.offset + (if cut then byteLength a.gap else 0) +
      byteLength ((if cut then [] else a.gap) ++ a.name) =
        (Growth.attributeOf f p a).nameRange.stop.offset := by
    rw [Growth.nameStop_attributeOf]
    cases cut <;> simp [Nat.add_assoc]
  simp only [Marked.stretches, Stretch.edits_keep, hname]
  cases set with
  | false => rfl
  | true =>
    simp only [if_true]
    cases ha : a.assignment with
    | none =>
      have hvalue : (Growth.attributeOf f p a).value = none := by simp [Growth.attributeOf, ha]
      simp [Plan.changeAt, hvalue, fresh_ofList]
    | some g =>
      have hvalue : (Growth.attributeOf f p a).value.isNone = false := by
        simp [Growth.attributeOf, ha]
      simp only [Option.elim_some, Plan.changeAt, hvalue, Bool.false_eq_true, if_false]
      cases hg : g.value.text.isEmpty with
      | false =>
        rw [if_neg (Growth.valueStart_of_ne ha hg)]
        exact edits_replaceValue o ha hg (hm.assignment g ha).value next sep
      | true =>
        have hsource := nameStop_lt_offset (f := f) (p := p) (a := a)
        rw [ha, Option.elim_some] at hsource
        rw [if_pos (Growth.valueStart_of_empty ha hg)]
        simp only [Assignment.stretches, hg, if_true, Stretch.edits_replace, Stretch.edits_nil,
          byteLength_append]
        rcases hnext with ⟨rfl, rfl⟩ | ⟨rfl, rfl, rfl⟩
        · simp only [hsource, fresh_ofList, Nat.add_assoc, String.ofList_append]
        · simp only [hsource, fresh_ofList, Nat.add_assoc, List.append_nil]

theorem edits_tagStretches {f : Flavor} {p : Position} {o : PlanOptions} {gap : List Char}
    {ms : List Marked} (hms : ∀ m ∈ ms, m.1.Sound) (cut : Bool) :
    Stretch.edits (p.offset + if cut then byteLength (gapOf gap ms) else 0)
        (tagStretches o.quotes escaped gap cut ms) =
      Plan.changes o (p.offset +
          byteLength ((ms.map Prod.fst).flatMap WrittenAttribute.source ++ gap))
        (String.ofList escaped) (Growth.attributesOf f p (ms.map Prod.fst)) (ms.map Prod.snd) := by
  -- `cut` says whether the stretch in front has taken the first gap, so the offset depends on it
  induction ms generalizing p cut with
  | nil => rfl
  | cons m ms ih =>
    have hrest := ih (p := p.advance m.1.source)
      (fun m' h => hms m' (List.mem_cons_of_mem _ h)) m.cuts
    have hstop : (p.advance m.1.source).offset +
        byteLength ((ms.map Prod.fst).flatMap WrittenAttribute.source ++ gap) = p.offset +
          byteLength (((m :: ms).map Prod.fst).flatMap WrittenAttribute.source ++ gap) := by
      simp [Nat.add_assoc]
    rw [hstop] at hrest
    have hstart : p.offset + (if cut then byteLength (gapOf gap (m :: ms)) else 0) +
        byteLength (Stretch.oldText (m.stretches o.quotes escaped (gapOf gap ms)
          (separator ms) cut)) =
          (p.advance m.1.source).offset + if m.cuts then byteLength (gapOf gap ms) else 0 := by
      rw [oldText_marked]
      cases cut <;> cases m.cuts <;> simp [gapOf, WrittenAttribute.source, Nat.add_assoc]
    rw [tagStretches, Stretch.edits_append, hstart, hrest]
    refine congrArg (· ++ _) (edits_marked (hms m List.mem_cons_self) ?_ cut)
    cases ms with
    | nil => exact Or.inr ⟨rfl, rfl, by simp [gapOf, Nat.add_assoc]⟩
    | cons m' ms =>
      refine Or.inl ⟨?_, rfl⟩
      simp [gapOf, Growth.attributesOf, Growth.nameStart_attributeOf]

theorem lt_of_mem_tagStretches {style : QuoteStyle} {gap : List Char} {ms : List Marked}
    (hms : ∀ m ∈ ms, m.1.Sound) {n : Nat} {cut : Bool} {e : Edit}
    (he : e ∈ Stretch.edits n (tagStretches style escaped gap cut ms)) : n < e.start := by
  cases ms with
  | nil => cases he
  | cons m ms =>
    have hname := byteLength_pos (hms m List.mem_cons_self).name.ne_nil
    simp only [tagStretches, Marked.stretches, List.cons_append, Stretch.edits_keep] at he
    have hle := (Stretch.start_le_of_mem he).1
    rw [byteLength_append] at hle
    omega

theorem old_ne_nil_of_mem {style : QuoteStyle} {g : Assignment} {next sep : List Char}
    {x : Stretch} (hx : x ∈ g.stretches style escaped next sep) (hnew : x.new ≠ none) :
    x.old ≠ [] := by
  obtain ⟨before, after, value⟩ := g
  unfold Assignment.stretches at hx
  cases hempty : value.text.isEmpty with
  | true =>
    simp only [hempty, if_true, List.mem_singleton] at hx
    subst hx
    simp [Stretch.replace, Assignment.source]
  | false =>
    have hne : value.text ≠ [] := by simpa using hempty
    simp only [hempty, Bool.false_eq_true, if_false] at hx
    cases value with
    | unquoted s =>
      simp only [List.mem_cons, List.not_mem_nil, or_false] at hx
      rcases hx with rfl | rfl
      · exact absurd rfl hnew
      · exact hne
    | quoted q s closed =>
      simp only at hx
      split at hx
      · simp only [List.mem_cons, List.not_mem_nil, or_false] at hx
        rcases hx with rfl | rfl
        · exact absurd rfl hnew
        · simp [Stretch.replace]
      · simp only [List.mem_cons, List.not_mem_nil, or_false] at hx
        rcases hx with rfl | rfl | rfl
        · exact absurd rfl hnew
        · exact hne
        · exact absurd rfl hnew

theorem lt_stop_of_mem_assignment {style : QuoteStyle} {g : Assignment} {next sep : List Char}
    {n : Nat} {e : Edit} (he : e ∈ Stretch.edits n (g.stretches style escaped next sep)) :
    e.start < e.stop := by
  obtain ⟨front, x, back, t, hsplit, hnew, -, hstop, -⟩ := Stretch.offsets_of_mem he
  have hx : x ∈ g.stretches style escaped next sep := by simp [hsplit]
  have hpos := byteLength_pos (old_ne_nil_of_mem hx (by simp [hnew]))
  omega

theorem lt_stop_of_mem_marked {style : QuoteStyle} {next sep : List Char} {cut : Bool}
    {m : Marked} {n : Nat} {e : Edit}
    (he : e ∈ Stretch.edits n (m.stretches style escaped next sep cut)) :
    e.start < e.stop ∨ m.2 = true ∧ m.1.assignment = none := by
  obtain ⟨a, set⟩ := m
  cases set with
  | false => cases he
  | true =>
    simp only [Marked.stretches, Stretch.edits_keep, if_true] at he
    cases ha : a.assignment with
    | none => exact Or.inr ⟨rfl, rfl⟩
    | some g =>
      rw [ha] at he
      exact Or.inl (lt_stop_of_mem_assignment he)

theorem pairwise_marked {style : QuoteStyle} {next sep : List Char} {cut : Bool} (m : Marked)
    (n : Nat) :
    (Stretch.edits n (m.stretches style escaped next sep cut)).Pairwise
      fun a b => a.start < b.start := by
  obtain ⟨a, set⟩ := m
  cases set with
  | false => exact List.Pairwise.nil
  | true =>
    simp only [Marked.stretches, Stretch.edits_keep, if_true]
    cases a.assignment with
    | none => exact List.pairwise_singleton _ _
    | some g =>
      refine (Stretch.pairwise_edits _ _).imp_of_mem fun ha _ hab => ?_
      exact Nat.lt_of_lt_of_le (lt_stop_of_mem_assignment ha) hab

theorem lt_stop_of_mem_tagStretches {style : QuoteStyle} {gap : List Char} {cut : Bool}
    {ms : List Marked} {n : Nat} {e : Edit}
    (he : e ∈ Stretch.edits n (tagStretches style escaped gap cut ms)) :
    e.start < e.stop ∨ ∃ m ∈ ms, m.2 = true ∧ m.1.assignment = none := by
  induction ms generalizing n cut with
  | nil => cases he
  | cons m ms ih =>
    rw [tagStretches, Stretch.edits_append] at he
    rcases List.mem_append.1 he with he | he
    · rcases lt_stop_of_mem_marked he with hlt | hbare
      · exact Or.inl hlt
      · exact Or.inr ⟨m, List.mem_cons_self, hbare⟩
    · rcases ih he with hlt | ⟨m', hm', hbare⟩
      · exact Or.inl hlt
      · exact Or.inr ⟨m', List.mem_cons_of_mem _ hm', hbare⟩

theorem pairwise_tagStretches {style : QuoteStyle} {gap : List Char} {cut : Bool}
    {ms : List Marked} (hms : ∀ m ∈ ms, m.1.Sound) (n : Nat) :
    (Stretch.edits n (tagStretches style escaped gap cut ms)).Pairwise
      fun a b => a.start < b.start := by
  induction ms generalizing n cut with
  | nil => exact List.Pairwise.nil
  | cons m ms ih =>
    have hms' : ∀ m ∈ ms, m.1.Sound := fun m' h => hms m' (List.mem_cons_of_mem _ h)
    rw [tagStretches, Stretch.edits_append]
    refine List.pairwise_append.2 ⟨pairwise_marked m n, ih hms' _, ?_⟩
    intro a ha b hb
    have hle := Stretch.start_le_of_mem ha
    have hlt := lt_of_mem_tagStretches hms' hb
    omega

end Markup
end MarkupSplice
