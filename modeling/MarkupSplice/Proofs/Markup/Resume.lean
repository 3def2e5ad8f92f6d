import MarkupSplice.Proofs.Markup.StartTag

/-!
# Reading on behind a change

A piece that something follows is complete: it is read again as it is written,
whatever follows it then, only that a text has to be followed by markup or by
nothing. So the pieces in front of a place are the same for all texts that
begin with them and go on with markup (`pieces_append`), and when a start tag
is written anew all other pieces stay as they are (`pieces_startTag`).
-/
namespace MarkupSplice.Markup
open Text

namespace Piece

def isText : Piece → Bool
  | .text _ => true
  | _ => false

def startTag? : Piece → Option StartTag
  | .startTag t => some t
  | .verbatim t _ _ => some t
  | _ => none

def withTag (t : StartTag) : Piece → Piece
  | .startTag _ => .startTag t
  | .verbatim _ s close => .verbatim t s close
  | p => p

/-- Read as it is written, whatever markup follows. -/
def Complete (f : Flavor) (p : Piece) : Prop :=
  ∀ r, (p.isText = true → r = [] ∨ (opening? f r).isSome = true) →
    readPiece f (p.source ++ r) = (p, r)

end Piece

theorem prefix_append_iff {w x : List Char} (h : w.length ≤ x.length) (y : List Char) :
    w <+: x ++ y ↔ w <+: x := by
  constructor
  · intro hw
    exact List.prefix_of_prefix_length_le hw (List.prefix_append x y) h
  · intro hw
    exact hw.trans (List.prefix_append x y)

theorem cutAt_append {w s a b : List Char} (h : cutAt w s = some (a, b)) (b' : List Char) :
    cutAt w (a ++ w ++ b') = some (a, b') := by
  have hfront : cutAt w (w ++ b') = some ([], b') := by
    have hp : w.isPrefixOf (w ++ b') = true :=
      List.isPrefixOf_iff_prefix.2 (List.prefix_append w b')
    cases hw : w ++ b' with
    | nil =>
      obtain ⟨rfl, rfl⟩ := List.append_eq_nil_iff.1 hw
      rfl
    | cons c s => simp [cutAt, after?, ← hw, hp]
  induction s generalizing a with
  | nil =>
    simp only [cutAt] at h
    split at h
    · cases h
      exact hfront
    · cases h
  | cons c s ih =>
    have hs := append_of_cutAt h
    simp only [cutAt] at h
    split at h
    · cases h
      exact hfront
    · rename_i hc
      obtain ⟨⟨a', b''⟩, hcut, he⟩ := Option.map_eq_some_iff.1 h
      obtain ⟨rfl, rfl⟩ := Prod.mk.inj he
      have hlen : w.length ≤ (c :: a' ++ w).length := by
        simp only [List.length_append]
        omega
      have hnone : after? w (c :: a' ++ w ++ b') = none := by
        simp only [after?, ite_eq_right_iff, reduceCtorEq, imp_false] at hc ⊢
        rwa [List.isPrefixOf_iff_prefix, prefix_append_iff hlen, ← prefix_append_iff hlen b'', hs,
          ← List.isPrefixOf_iff_prefix]
      simp only [List.cons_append, cutAt] at hnone ⊢
      simp only [hnone, ih hcut, Option.map_some]

theorem opening?_alpha {f : Flavor} {c : Char} (hc : c.isAlpha = true) (s : List Char) :
    opening? f ('<' :: c :: s) = some .startTag := by
  unfold opening?
  split
  · rename_i h
    cases h
    cases hc
  · rename_i h
    cases h
    cases hc
  · rename_i h
    cases h
    cases hc
  · rename_i h
    cases h
    rw [if_pos hc]
  · rename_i h
    exact absurd rfl (h c s)

theorem opening?_slash {f : Flavor} {c : Char} (hc : c.isAlpha = true) (s : List Char) :
    opening? f ('<' :: '/' :: c :: s) = some .endTag := by
  simp [opening?, hc]

theorem prefix_bracket_iff {w x : List Char} (hw : '>' ∉ w) (y : List Char) :
    w <+: x ++ '>' :: y ↔ w <+: x := by
  constructor
  · intro h
    rcases Nat.le_total w.length x.length with hl | hl
    · exact (prefix_append_iff hl _).1 h
    · obtain ⟨v, rfl⟩ : x <+: w :=
        List.prefix_of_prefix_length_le (List.prefix_append x ('>' :: y)) h hl
      cases v with
      | nil => simp
      | cons c v =>
        rw [List.prefix_append_right_inj, List.cons_prefix_cons] at h
        simp [h.1] at hw
  · intro h
    exact h.trans (List.prefix_append x _)

theorem opening?_declaration {f : Flavor} (body : List Char) {r : List Char}
    (h : opening? f ('<' :: '!' :: (body ++ '>' :: r)) = some .declaration) (r' : List Char) :
    opening? f ('<' :: '!' :: (body ++ '>' :: r')) = some .declaration := by
  have hcdata : ∀ r : List Char, cdataOpen.isPrefixOf ('<' :: '!' :: (body ++ '>' :: r)) =
      ['[', 'C', 'D', 'A', 'T', 'A', '['].isPrefixOf (body ++ '>' :: r) := fun _ => rfl
  simp only [opening?, hcdata, List.isPrefixOf_iff_prefix,
    prefix_bracket_iff (show '>' ∉ ['-', '-'] by decide),
    prefix_bracket_iff (show '>' ∉ ['[', 'C', 'D', 'A', 'T', 'A', '['] by decide)] at h ⊢
  exact h

def isOpener : List Char → Bool
  | c :: d :: s =>
    c == '<' && (d == '!' || d == '?' || d.isAlpha || (d == '/' && s.head?.any Char.isAlpha))
  | _ => false

theorem isSome_opening (f : Flavor) (s : List Char) : (opening? f s).isSome = isOpener s := by
  unfold opening?
  split
  · split
    · rfl
    · split <;> rfl
  · rfl
  · rename_i c s
    by_cases hc : c.isAlpha = true <;> simp [isOpener, hc]
  · rename_i c s hbang hquery hslash
    by_cases hc : c.isAlpha = true
    · simp [isOpener, hc]
    · have h1 : c ≠ '!' := hbang
      have h2 : c ≠ '?' := hquery
      by_cases h3 : c = '/'
      · cases s with
        | nil => simp [isOpener, h3]
        | cons d s => exact (hslash d s h3 rfl).elim
      · simp [isOpener, hc, h1, h2, h3]
  · rename_i hbang hquery hslash hany
    unfold isOpener
    split
    · rename_i c d s
      have hc : c ≠ '<' := fun h => hany d s (by rw [h])
      simp [hc]
    · rfl

theorem head_of_isOpener {s : List Char} (h : isOpener s = true) : s.head? = some '<' := by
  unfold isOpener at h
  split at h
  · rename_i c d s
    simp only [Bool.and_eq_true, beq_iff_eq] at h
    rw [h.1]
    rfl
  · cases h

theorem isOpener_append {x r : List Char} (hx : x ≠ []) (hr : ∀ c ∈ r.head?, c = '<') :
    isOpener (x ++ r) = isOpener x := by
  cases r with
  | nil => rw [List.append_nil]
  | cons d r =>
    obtain rfl := hr d rfl
    match x with
    | [c] => simp [isOpener]
    | [c, d] => simp [isOpener]
    | c :: d :: e :: x => simp [isOpener]

theorem readText_stop {f : Flavor} {s : List Char} (h : (readText f s).2 ≠ []) :
    isOpener (readText f s).2 = true := by
  induction s with
  | nil => exact absurd rfl h
  | cons c s ih =>
    simp only [readText, isSome_opening] at h ⊢
    split
    · assumption
    · rename_i hc
      rw [if_neg hc] at h
      exact ih h

theorem readText_of_stop {f : Flavor} {r : List Char} (h : r = [] ∨ isOpener r = true) :
    readText f r = ([], r) := by
  rcases h with rfl | h
  · rfl
  · cases r with
    | nil => cases h
    | cons c r =>
      simp only [readText, isSome_opening]
      rw [if_pos h]

theorem readText_append {f : Flavor} (s : List Char) {r : List Char}
    (h : r = [] ∨ isOpener r = true) :
    readText f ((readText f s).1 ++ r) = ((readText f s).1, r) := by
  induction s with
  | nil => exact readText_of_stop h
  | cons c s ih =>
    have hstop := readText_stop (f := f) (s := s)
    have hsrc := source_readText f s
    simp only [readText, isSome_opening]
    split
    · exact readText_of_stop h
    · rename_i hc
      have hhead : ∀ r : List Char, r = [] ∨ isOpener r = true → ∀ d ∈ r.head?, d = '<' := by
        rintro r (rfl | h) d hd
        · cases hd
        · rw [head_of_isOpener h] at hd
          cases hd
          rfl
      have hrest : ∀ d ∈ (readText f s).2.head?, d = '<' := hhead _ (by
        cases hr : (readText f s).2 with
        | nil => exact Or.inl rfl
        | cons d r => exact Or.inr (by rw [← hr]; exact hstop (by simp [hr])))
      have hnone : ¬isOpener (c :: ((readText f s).1 ++ r)) = true := by
        rw [← List.cons_append, isOpener_append (by simp) (hhead r h),
          ← isOpener_append (by simp) hrest, List.cons_append, hsrc]
        exact hc
      simp only [List.cons_append, readText, isSome_opening]
      rw [if_neg hnone, ih]

theorem readEndTag_append {s : List Char} (h : (readEndTag s).1.closed = true) (r : List Char) :
    readEndTag (((readEndTag s).1.source ++ r).drop 2) = ((readEndTag s).1, r) := by
  simp only [readEndTag] at h ⊢
  split at h
  · rename_i rest r' hcut
    have hsrc := append_of_cutAt hcut
    have hn : ∀ c ∈ s.takeWhile fun c => !endsTagName c, (!endsTagName c) = true :=
      fun c hc => List.mem_takeWhile_imp (p := fun c => !endsTagName c) hc
    have hb : ∀ c ∈ (rest ++ '>' :: r).head?, (!endsTagName c) = false := by
      intro c hc
      refine head_dropWhile (p := fun c => !endsTagName c) (s := s) c ?_
      rw [← hsrc]
      cases rest with
      | nil => simpa using hc
      | cons d rest => simpa using hc
    have hdrop : (EndTag.mk (s.takeWhile fun c => !endsTagName c) rest true).source ++ r =
        '<' :: '/' :: ((s.takeWhile fun c => !endsTagName c) ++ (rest ++ '>' :: r)) := by
      simp [EndTag.source]
    simp only [hdrop, List.drop_succ_cons, List.drop_zero]
    rw [takeWhile_append_of_stop hn hb, dropWhile_append_of_stop hn hb,
      cutAt_char (not_mem_of_cutAt_char hcut)]
  · cases h

theorem closed_of_readEndTag {s : List Char} (h : (readEndTag s).2 ≠ []) :
    (readEndTag s).1.closed = true := by
  simp only [readEndTag] at h ⊢
  split
  · rfl
  · rename_i hcut
    simp only [hcut] at h
    exact absurd rfl h

theorem closesVerbatim_append {name x : List Char} (h : name.length + 3 ≤ x.length)
    (y y' : List Char) : closesVerbatim name (x ++ y) = closesVerbatim name (x ++ y') := by
  match x with
  | [] => simp at h
  | [_] => simp at h
  | a :: b :: x =>
    have hlen : name.length < x.length := by
      simp only [List.length_cons] at h
      omega
    have htake : ∀ z, (x ++ z).take name.length = x.take name.length :=
      fun z => List.take_append_of_le_length (Nat.le_of_lt hlen)
    have hhead : ∀ z, ((x ++ z).drop name.length).head? = (x.drop name.length).head? := by
      intro z
      obtain ⟨e, x', hx⟩ : ∃ e x', x.drop name.length = e :: x' :=
        List.exists_cons_of_ne_nil (by simpa using hlen)
      rw [List.drop_append_of_le_length (Nat.le_of_lt hlen), hx]
      rfl
    by_cases hab : a = '<' ∧ b = '/'
    · obtain ⟨rfl, rfl⟩ := hab
      simp only [List.cons_append, closesVerbatim, htake, hhead]
    · have hfalse : ∀ z, closesVerbatim name (a :: b :: (x ++ z)) = false := by
        intro z
        unfold closesVerbatim
        split
        · rename_i h
          cases h
          exact absurd ⟨rfl, rfl⟩ hab
        · rfl
      simp only [List.cons_append, hfalse]

theorem readVerbatim_append {name s w y : List Char} (h : (readVerbatim name s).2 = w ++ y)
    (hw : name.length + 3 ≤ w.length) (y' : List Char) :
    readVerbatim name ((readVerbatim name s).1 ++ (w ++ y')) =
      ((readVerbatim name s).1, w ++ y') := by
  induction s with
  | nil =>
    obtain ⟨rfl, -⟩ := List.append_eq_nil_iff.1 h.symm
    simp at hw
  | cons c s ih =>
    have hsrc := source_readVerbatim name s
    simp only [readVerbatim] at h ⊢
    split
    · rename_i hc
      rw [if_pos hc] at h
      cases w with
      | nil => simp at hw
      | cons d w =>
        have hd : closesVerbatim name (d :: (w ++ y')) = true := by
          rw [← List.cons_append, closesVerbatim_append hw y' y, ← h]
          exact hc
        simp only [List.nil_append, List.cons_append, readVerbatim]
        rw [if_pos hd]
    · rename_i hc
      rw [if_neg hc] at h
      have hlen : name.length + 3 ≤ (c :: ((readVerbatim name s).1 ++ w)).length := by
        simp only [List.length_cons, List.length_append]
        omega
      have hd : ¬closesVerbatim name (c :: ((readVerbatim name s).1 ++ (w ++ y'))) = true := by
        rw [← List.append_assoc, ← List.cons_append, closesVerbatim_append hlen y' y,
          List.cons_append, List.append_assoc, ← h, hsrc]
        exact hc
      simp only [List.cons_append, readVerbatim]
      rw [if_neg hd, ih h]

theorem alpha_of_startTag {f : Flavor} {s : List Char} (h : opening? f s = some .startTag) :
    ∃ c r, s = '<' :: c :: r ∧ c.isAlpha = true := by
  unfold opening? at h
  split at h
  · split at h
    · cases h
    · split at h <;> cases h
  · cases h
  · split at h <;> cases h
  · rename_i c r _ _ _
    split at h
    · exact ⟨c, r, rfl, by assumption⟩
    · cases h
  · cases h

theorem alpha_of_endTag {f : Flavor} {s : List Char} (h : opening? f s = some .endTag) :
    ∃ c r, s = '<' :: '/' :: c :: r ∧ c.isAlpha = true := by
  unfold opening? at h
  split at h
  · split at h
    · cases h
    · split at h <;> cases h
  · cases h
  · rename_i c r
    split at h
    · exact ⟨c, r, rfl, by assumption⟩
    · cases h
  · split at h <;> cases h
  · cases h

theorem not_endsTagName_of_alpha {c : Char} (h : c.isAlpha = true) : endsTagName c = false := by
  cases he : endsTagName c with
  | false => rfl
  | true =>
    simp only [endsTagName, isSpace, Bool.or_eq_true, beq_iff_eq] at he
    rcases he with ((((((rfl | rfl) | rfl) | rfl) | rfl) | rfl) | rfl) <;> cases h

theorem isText_readContent (f : Flavor) (t : StartTag) (s : List Char) :
    (readContent f t s).1.isText = false := by
  dsimp only [readContent]
  split
  · split <;> rfl
  · rfl

theorem isText_readPiece (f : Flavor) (s : List Char) :
    (readPiece f s).1.isText = !isOpener s := by
  rw [← isSome_opening f]
  unfold readPiece
  split
  case h_5 h => rw [h]; exact isText_readContent f _ _
  all_goals
    rename_i h
    rw [h]
    rfl

theorem readEnclosed_append {opener closer s : List Char}
    (h : (readEnclosed opener closer s).2.1 = true) (r : List Char) :
    readEnclosed opener closer
        (enclosed opener (readEnclosed opener closer s).1 closer true ++ r) =
      ((readEnclosed opener closer s).1, true, r) := by
  unfold readEnclosed at h ⊢
  split at h
  · rename_i body r' hcut
    have hdrop : (enclosed opener body closer true ++ r).drop opener.length =
        body ++ closer ++ r := by
      simp [enclosed]
    simp only [hdrop, cutAt_append hcut r]
  · cases h

theorem closed_of_readEnclosed {opener closer s : List Char}
    (h : (readEnclosed opener closer s).2.2 ≠ []) : (readEnclosed opener closer s).2.1 = true := by
  unfold readEnclosed at h ⊢
  split
  · rfl
  · rename_i hcut
    simp only [hcut] at h
    exact absurd rfl h

theorem readPiece_startTag {f : Flavor} {t : StartTag} {u : List Char}
    (hn : ∃ c ∈ t.name.head?, c.isAlpha = true) (ht : t.Sound u) :
    readPiece f (t.source ++ u) = readContent f t u := by
  obtain ⟨c, hc, halpha⟩ := hn
  obtain ⟨name, hname⟩ : ∃ name, t.name = c :: name := by
    cases hname : t.name with
    | nil => simp [hname] at hc
    | cons d name =>
      rw [hname] at hc
      cases hc
      exact ⟨name, rfl⟩
  have hopen : opening? f (t.source ++ u) = some .startTag := by
    rw [StartTag.source_append, hname, List.cons_append]
    exact opening?_alpha halpha _
  simp only [readPiece, hopen, readStartTag_append ht]

theorem startTag_readContent (f : Flavor) (t : StartTag) (u : List Char) :
    (readContent f t u).1.startTag? = some t := by
  dsimp only [readContent]
  split
  · split <;> rfl
  · rfl

theorem readContent_withTag (f : Flavor) {t t' : StartTag} (hn : t'.name = t.name)
    (hc : t'.closing = t.closing) (u : List Char) :
    readContent f t' u = ((readContent f t u).1.withTag t', (readContent f t u).2) := by
  dsimp only [readContent]
  rw [hn, hc]
  split
  · split <;> rfl
  · rfl

theorem not_endsTagName_of_verbatim {f : Flavor} {name : String} (h : f.isVerbatim name = true) :
    ∀ c ∈ name.toList, endsTagName c = false := by
  have hall : ∀ name ∈ Flavor.verbatimNames, name.toList.all fun c => !endsTagName c := by decide
  simp only [Flavor.isVerbatim, Bool.and_eq_true, List.contains_iff_mem] at h
  simpa using hall name h.2

theorem toLower_of_endsTagName {c : Char} (h : endsTagName c = true) : c.toLower = c := by
  simp only [endsTagName, isSpace, Bool.or_eq_true, beq_iff_eq] at h
  rcases h with ((((((rfl | rfl) | rfl) | rfl) | rfl) | rfl) | rfl) <;> rfl

theorem length_closing_tag {name s : List Char} (hn : ∀ c ∈ name, endsTagName c = false)
    (h : closesVerbatim name s = true) (hc : (readEndTag (s.drop 2)).1.closed = true) :
    name.length + 3 ≤ (readEndTag (s.drop 2)).1.source.length := by
  have hs := eq_of_closesVerbatim h
  generalize s.drop 2 = r at hs hc ⊢
  subst hs
  simp only [closesVerbatim, Bool.and_eq_true, beq_iff_eq] at h
  have hlen : (r.take name.length).length = name.length := by
    simpa using congrArg List.length h.1
  have hall : ∀ c ∈ r.take name.length, (!endsTagName c) = true := by
    intro c hmem
    cases he : endsTagName c with
    | false => rfl
    | true =>
      have hin : c ∈ name := by
        rw [← h.1, ← toLower_of_endsTagName he]
        exact List.mem_map_of_mem hmem
      rw [hn c hin] at he
      cases he
  have hname : name.length ≤ (r.takeWhile fun c => !endsTagName c).length := by
    have htake : r.takeWhile (fun c => !endsTagName c) =
        r.take name.length ++ (r.drop name.length).takeWhile fun c => !endsTagName c := by
      rw [← List.takeWhile_append_of_pos hall, List.take_append_drop]
    rw [htake, List.length_append]
    omega
  have hend : (readEndTag r).1.name = r.takeWhile fun c => !endsTagName c := by
    simp only [readEndTag]
    split <;> rfl
  rw [← hend] at hname
  simp only [EndTag.source, hc, List.length_append, List.length_cons, if_true, List.length_nil]
  omega

theorem readContent_append {f : Flavor} {t : StartTag} {u : List Char}
    (h : (readContent f t u).2 ≠ []) :
    ∃ w, (readContent f t u).1.source = t.source ++ w ∧
      ∀ r, readContent f t (w ++ r) = ((readContent f t u).1, r) := by
  dsimp only [readContent] at h ⊢
  split
  · rename_i hv
    rw [if_pos hv] at h
    split
    · rename_i content he
      simp [he] at h
    · rename_i content c r he
      simp only [he] at h
      have hclosed := closed_of_readEndTag h
      have hcloses :
          closesVerbatim (f.normalize (String.ofList t.name)).toList (c :: r) = true := by
        rw [← show (readVerbatim _ u).2 = c :: r from congrArg Prod.snd he]
        exact readVerbatim_stop (by simp [he])
      have hlen := length_closing_tag (not_endsTagName_of_verbatim hv.2) hcloses hclosed
      have hend := source_readEndTag ((c :: r).drop 2)
      rw [eq_of_closesVerbatim hcloses] at hend
      refine ⟨content ++ (readEndTag ((c :: r).drop 2)).1.source, by simp [Piece.source], ?_⟩
      intro r'
      have hread := readVerbatim_append (s := u) (y := (readEndTag ((c :: r).drop 2)).2)
        (by rw [he]; exact hend.symm) hlen r'
      rw [he] at hread
      have hnext := readEndTag_append hclosed r'
      generalize readEndTag ((c :: r).drop 2) = close at hlen hread hnext ⊢
      cases hsrc : close.1.source with
      | nil => simp [hsrc] at hlen
      | cons d w =>
        rw [hsrc] at hread hnext
        simp only [List.cons_append] at hread hnext
        rw [List.append_assoc, List.cons_append, hread]
        simp only [hnext]
  · rename_i hv
    exact ⟨[], by simp [Piece.source], fun r => rfl⟩

theorem readPiece_of_not_opener {f : Flavor} {s : List Char} (h : isOpener s = false) :
    readPiece f s = (.text (readText f s).1, (readText f s).2) := by
  have hnone : opening? f s = none := by
    rw [← isSome_opening f, Option.isSome_eq_false_iff] at h
    simpa using h
  simp only [readPiece, hnone]

theorem complete_text {f : Flavor} {s : List Char} (hs : s ≠ []) (h : isOpener s = false) :
    (Piece.text (readText f s).1).Complete f := by
  intro r hr
  have hr' : r = [] ∨ isOpener r = true := by
    rw [← isSome_opening f]
    exact hr rfl
  have hread := readText_append (f := f) s hr'
  have hne : (readText f s).1 ≠ [] := by
    cases s with
    | nil => exact absurd rfl hs
    | cons c s =>
      simp only [readText, isSome_opening]
      rw [if_neg (by simp [h])]
      simp
  have hnot : isOpener ((readText f s).1 ++ r) = false := by
    cases he : isOpener ((readText f s).1 ++ r) with
    | false => rfl
    | true =>
      rw [readText_of_stop (Or.inr he)] at hread
      exact absurd (congrArg Prod.fst hread).symm hne
  rw [Piece.source, readPiece_of_not_opener hnot, hread]

theorem complete_enclosed {f : Flavor} {s opener closer : List Char} {o : Opening}
    (piece : List Char → Bool → Piece)
    (hsrc : ∀ body closed, (piece body closed).source = enclosed opener body closer closed)
    (hread : ∀ s, opening? f s = some o → readPiece f s =
      (piece (readEnclosed opener closer s).1 (readEnclosed opener closer s).2.1,
        (readEnclosed opener closer s).2.2))
    (hopen : ∀ body r r', opening? f (enclosed opener body closer true ++ r) = some o →
      opening? f (enclosed opener body closer true ++ r') = some o)
    (hpre : opener <+: s) (ho : opening? f s = some o) (h : (readPiece f s).2 ≠ []) :
    (readPiece f s).1.Complete f := by
  intro r _
  rw [hread s ho] at h ⊢
  have hclosed := closed_of_readEnclosed h
  have hs := @source_readEnclosed opener closer s hpre
  rw [hclosed] at hs
  have hnew := hopen (readEnclosed opener closer s).1 (readEnclosed opener closer s).2.2 r
    (by rw [hs, ho])
  simp only [hsrc, hclosed, hread _ hnew, readEnclosed_append hclosed]

theorem flavor_of_cdata {f : Flavor} {s : List Char} (h : opening? f s = some .cdata) :
    f = .xml := by
  unfold opening? at h
  split at h
  · split at h
    · cases h
    · split at h
      · rename_i hx
        exact hx.1
      · cases h
  · cases h
  · split at h <;> cases h
  · split at h <;> cases h
  · cases h

theorem readPiece_of_startTag {f : Flavor} {s : List Char} (h : opening? f s = some .startTag) :
    readPiece f s =
      readContent f (readStartTag (s.drop 1)).1 (readStartTag (s.drop 1)).2 := by
  simp only [readPiece, h]

theorem readPiece_of_endTag {f : Flavor} {s : List Char} (h : opening? f s = some .endTag) :
    readPiece f s = (.endTag (readEndTag (s.drop 2)).1, (readEndTag (s.drop 2)).2) := by
  simp only [readPiece, h]

theorem alpha_name_of_startTag {f : Flavor} {s : List Char}
    (h : opening? f s = some .startTag) :
    ∃ c ∈ (readStartTag (s.drop 1)).1.name.head?, c.isAlpha = true := by
  obtain ⟨c, r, rfl, halpha⟩ := alpha_of_startTag h
  exact ⟨c, by simp [readStartTag, not_endsTagName_of_alpha halpha], halpha⟩

theorem complete_startTag {f : Flavor} {s : List Char} (ho : opening? f s = some .startTag)
    (h : (readPiece f s).2 ≠ []) : (readPiece f s).1.Complete f := by
  intro r _
  have hname := alpha_name_of_startTag ho
  have hsound := sound_readStartTag (s.drop 1)
  rw [readPiece_of_startTag ho] at h ⊢
  obtain ⟨w, hw, hread⟩ := readContent_append h
  have hne : (readStartTag (s.drop 1)).2 ≠ [] := by
    intro hnil
    have hsrc := source_readContent f (readStartTag (s.drop 1)).1 (readStartTag (s.drop 1)).2
    rw [hw, List.append_assoc, List.append_cancel_left_eq] at hsrc
    rw [hnil] at hsrc
    exact h (by rw [hnil]; exact (List.append_eq_nil_iff.1 hsrc).2)
  have hnew := readPiece_startTag (f := f) hname
    (hsound.append (hsound.closing_ne hne) (w ++ r))
  rwa [← List.append_assoc, ← hw, hread r] at hnew

theorem complete_endTag {f : Flavor} {s : List Char} (ho : opening? f s = some .endTag)
    (h : (readPiece f s).2 ≠ []) : (readPiece f s).1.Complete f := by
  intro r _
  rw [readPiece_of_endTag ho] at h ⊢
  obtain ⟨c, s', rfl, halpha⟩ := alpha_of_endTag ho
  simp only [List.drop_succ_cons, List.drop_zero] at h ⊢
  obtain ⟨name, hname⟩ : ∃ name, (readEndTag (c :: s')).1.name = c :: name := by
    simp only [readEndTag]
    split <;> simp [not_endsTagName_of_alpha halpha]
  have hopen : opening? f ((Piece.endTag (readEndTag (c :: s')).1).source ++ r) = some .endTag := by
    simp only [Piece.source, EndTag.source, hname, List.cons_append]
    exact opening?_slash halpha _
  rw [readPiece_of_endTag hopen, Piece.source, readEndTag_append (closed_of_readEndTag h) r]

/-- A piece that something follows would be read again in front of anything else. -/
theorem complete_readPiece {f : Flavor} {s : List Char} (h : (readPiece f s).2 ≠ []) :
    (readPiece f s).1.Complete f := by
  cases ho : opening? f s with
  | none =>
    have hnot : isOpener s = false := by rw [← isSome_opening f, ho]; rfl
    have hs : s ≠ [] := by
      rintro rfl
      exact h rfl
    rw [readPiece_of_not_opener hnot]
    exact complete_text hs hnot
  | some o =>
    have hpre := source_startsWith_of_opening ho
    cases o with
    | comment =>
      refine complete_enclosed .comment (fun _ _ => rfl) ?_ ?_ hpre ho h
      · intro s hs
        simp only [readPiece, hs]
      · intro body r r' _
        simp [opening?, enclosed, commentOpen]
    | cdata =>
      obtain rfl := flavor_of_cdata ho
      refine complete_enclosed .cdata (fun _ _ => rfl) ?_ ?_ hpre ho h
      · intro s hs
        simp only [readPiece, hs]
      · intro body r r' _
        simp [opening?, enclosed, cdataOpen]
    | declaration =>
      refine complete_enclosed .declaration (fun _ _ => rfl) ?_ ?_ hpre ho h
      · intro s hs
        simp only [readPiece, hs]
      · intro body r r' hr
        simpa [enclosed] using opening?_declaration body (by simpa [enclosed] using hr) r'
    | instruction =>
      refine complete_enclosed .instruction (fun _ _ => rfl) ?_ ?_ hpre ho h
      · intro s hs
        simp only [readPiece, hs]
      · intro body r r' _
        rfl
    | startTag => exact complete_startTag ho h
    | endTag => exact complete_endTag ho h

theorem pieces_of_ne_nil {f : Flavor} {s : List Char} (hs : s ≠ []) :
    pieces f s = (readPiece f s).1 :: pieces f (readPiece f s).2 := by
  rw [pieces, dif_neg hs]

theorem ne_nil_of_pieces {f : Flavor} {s : List Char} {p : Piece} {ps : List Piece}
    (h : pieces f s = p :: ps) : s ≠ [] := by
  rintro rfl
  rw [pieces, dif_pos rfl] at h
  cases h

theorem pieces_cons {f : Flavor} {s : List Char} {p : Piece} {ps : List Piece}
    (h : pieces f s = p :: ps) : (readPiece f s).1 = p ∧ pieces f (readPiece f s).2 = ps := by
  rw [pieces_of_ne_nil (ne_nil_of_pieces h)] at h
  exact List.cons.inj h

/-- Up to a place where markup follows a text is read the same, whatever markup it is, or none. -/
theorem pieces_append {f : Flavor} {s t : List Char} {before after : List Piece}
    (h : pieces f s = before ++ after) (ha : after ≠ []) (ht : t = [] ∨ isOpener t = true) :
    pieces f (before.flatMap Piece.source ++ t) = before ++ pieces f t := by
  induction before generalizing s with
  | nil => rfl
  | cons p before ih =>
    -- `p` is complete, since something follows it in `s`; a text must also be followed by markup
    obtain ⟨hp, hr⟩ := pieces_cons h
    have hne : (readPiece f s).2 ≠ [] := by
      intro hnil
      rw [hnil, pieces, dif_pos rfl] at hr
      exact ha (List.append_eq_nil_iff.1 hr.symm).2
    have ih' := ih hr
    have hcomplete := complete_readPiece hne
    rw [hp] at hcomplete
    have hread : readPiece f (p.source ++ (before.flatMap Piece.source ++ t)) =
        (p, before.flatMap Piece.source ++ t) := by
      refine hcomplete _ fun htext => ?_
      rw [isSome_opening]
      cases before with
      | nil => exact ht
      | cons q before =>
        right
        have hnot : isOpener s = false := by simpa [← hp, isText_readPiece] using htext
        have hstop : isOpener (readPiece f s).2 = true := by
          rw [readPiece_of_not_opener hnot] at hne ⊢
          exact readText_stop hne
        have hq := isText_readPiece f (readPiece f s).2
        rw [(pieces_cons hr).1, ← (pieces_cons ih').1, isText_readPiece, hstop] at hq
        simpa using hq
    have hsne : p.source ++ (before.flatMap Piece.source ++ t) ≠ [] := by
      intro hnil
      have hsource := source_ne_nil (f := f) (ne_nil_of_pieces h)
      rw [hp] at hsource
      exact hsource (List.append_eq_nil_iff.1 hnil).1
    rw [List.flatMap_cons, List.append_assoc, pieces_of_ne_nil hsne, hread, ih', List.cons_append]

theorem pieces_behind {f : Flavor} {s : List Char} {before after : List Piece}
    (h : pieces f s = before ++ after) : pieces f (after.flatMap Piece.source) = after := by
  induction before generalizing s with
  | nil =>
    rw [List.nil_append] at h
    rw [← h, source_pieces, h]
  | cons p before ih => exact ih (pieces_cons h).2

theorem opening_of_startTag {f : Flavor} {s : List Char} {t : StartTag}
    (h : (readPiece f s).1.startTag? = some t) : opening? f s = some .startTag := by
  unfold readPiece at h
  split at h
  case h_5 ho => exact ho
  all_goals cases h

theorem startTag_among {f : Flavor} {s : List Char} {before after : List Piece} {p : Piece}
    {t : StartTag} (h : pieces f s = before ++ p :: after) (ht : p.startTag? = some t) :
    ∃ u, s = before.flatMap Piece.source ++ (t.source ++ u) ∧ t.Sound u ∧
      (∃ c ∈ t.name.head?, c.isAlpha = true) ∧
      readContent f t u = (p, after.flatMap Piece.source) := by
  have hs := source_pieces f s
  have hp := pieces_behind h
  rw [h, List.flatMap_append] at hs
  generalize hx : (p :: after).flatMap Piece.source = x at hs hp
  obtain ⟨hread, hafter⟩ := pieces_cons hp
  have hrest : (readPiece f x).2 = after.flatMap Piece.source := by
    rw [← hafter, source_pieces]
  have hopen : opening? f x = some .startTag := opening_of_startTag (by rw [hread, ht])
  rw [readPiece_of_startTag hopen] at hread hrest
  have htag : (readStartTag (x.drop 1)).1 = t := by
    have hc := startTag_readContent f (readStartTag (x.drop 1)).1 (readStartTag (x.drop 1)).2
    rw [hread, ht] at hc
    exact (Option.some.inj hc).symm
  have hname := alpha_name_of_startTag hopen
  have hsound := sound_readStartTag (x.drop 1)
  have hsrc := source_readStartTag (x.drop 1)
  obtain ⟨c, r, rfl, -⟩ := alpha_of_startTag hopen
  rw [htag] at hname hsound hsrc hread hrest
  refine ⟨_, ?_, hsound, hname, Prod.ext hread hrest⟩
  rw [hsrc]
  exact hs.symm

theorem pieces_startTag {f : Flavor} {s : List Char} {before after : List Piece} {p : Piece}
    {t t' : StartTag} {u : List Char} (h : pieces f s = before ++ p :: after)
    (ht : p.startTag? = some t) (hn : t'.name = t.name) (hs : t'.Sound u) :
    pieces f (before.flatMap Piece.source ++ (t'.source ++ u)) =
      before ++ (readContent f t' u).1 :: pieces f (readContent f t' u).2 := by
  obtain ⟨-, -, -, hname, -⟩ := startTag_among h ht
  rw [← hn] at hname
  have hopen : isOpener (t'.source ++ u) = true := by
    obtain ⟨c, hc, halpha⟩ := hname
    cases hnm : t'.name with
    | nil => simp [hnm] at hc
    | cons d name =>
      rw [hnm] at hc
      cases hc
      simp [StartTag.source_append, hnm, isOpener, halpha]
  have hne : t'.source ++ u ≠ [] := by
    intro hnil
    simp [hnil, isOpener] at hopen
  rw [pieces_append h (by simp) (Or.inr hopen), pieces_of_ne_nil hne, readPiece_startTag hname hs]

theorem pieces_withTag {f : Flavor} {s : List Char} {before after : List Piece} {p : Piece}
    {t t' : StartTag} {u : List Char} (h : pieces f s = before ++ p :: after)
    (hu : readContent f t u = (p, after.flatMap Piece.source)) (hn : t'.name = t.name)
    (hc : t'.closing = t.closing) (hs : t'.Sound u) :
    pieces f (before.flatMap Piece.source ++ (t'.source ++ u)) =
      before ++ p.withTag t' :: after := by
  have ht : p.startTag? = some t := by
    rw [← startTag_readContent f t u, hu]
  have hafter : pieces f (after.flatMap Piece.source) = after := by
    have h' : pieces f s = (before ++ [p]) ++ after := by simpa using h
    exact pieces_behind h'
  rw [pieces_startTag h ht hn hs, readContent_withTag f hn hc, hu, hafter]

end MarkupSplice.Markup
