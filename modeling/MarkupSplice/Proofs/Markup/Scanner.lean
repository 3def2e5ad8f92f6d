import MarkupSplice.Proofs.Markup.Recorded
import MarkupSplice.Proofs.Markup.TagScanner
import MarkupSplice.Proofs.Text.Cutting

/-!
# Reading by bytes

The reader of a whole text as one loop over a cursor that counts bytes
(`scan`). It fails as soon as it cuts the text inside a character or behind
its end, and as soon as a round of the loop leaves the cursor where it was. It
never does, whatever the text is, and finds the pieces of the text
(`scan_stands`).
-/
namespace MarkupSplice.Markup
open Text

variable {s v name : List Char} {c : Char} {f : Flavor} {tagName : String} {n : Nat}

def scanEndTag (s : List Char) (n : Nat) : Option (EndTag × Nat) := do
  let stop := skip (fun c => !endsTagName c) s (n + 2)
  let name ← slice? s (n + 2) stop
  let rest ← scanUntil s ['>'] stop
  return (⟨name, rest.1, rest.2.1⟩, rest.2.2)

theorem readEndTag_eq (v : List Char) : readEndTag v =
    (⟨v.takeWhile fun c => !endsTagName c,
        (readUntil ['>'] (v.dropWhile fun c => !endsTagName c)).1,
        (readUntil ['>'] (v.dropWhile fun c => !endsTagName c)).2.1⟩,
      (readUntil ['>'] (v.dropWhile fun c => !endsTagName c)).2.2) := by
  rw [readEndTag, readUntil]
  split <;> simp_all

theorem scanEndTag_stands (h : Stands s n ('<' :: '/' :: v)) :
    ∃ m, scanEndTag s n = some ((readEndTag v).1, m) ∧ Stands s m (readEndTag v).2 := by
  have hname : Stands s (n + 2) v := (h.succ (by decide)).succ (by decide)
  have hflat : Flat fun c => !endsTagName c := flat_endsTagName.not
  obtain ⟨m, huntil, hstands⟩ := scanUntil_stands ['>'] (hname.skip hflat)
  rw [readEndTag_eq]
  refine ⟨m, ?_, hstands⟩
  simp only [scanEndTag, hname.slice?_skip hflat, huntil, Option.bind_eq_bind, Option.bind_some]
  rfl

/-- Where the end tag of an element begins, its name compared byte by byte in lower case. -/
def findClose (s name : List Char) (n : Nat) : Option Nat :=
  match h : find s ['<', '/'] n with
  | none => none
  | some close =>
    let written := ((units s).drop (close + 2)).take (byteLength name)
    let behind := peek s (close + 2 + byteLength name)
    if written.map Char.toLower = (units name).map Char.toLower ∧ behind.all endsTagName = true then
      some close
    else findClose s name (close + 2)
termination_by byteLength s - n
decreasing_by
  have hclose := le_of_find h
  have htag : byteLength ['<', '/'] = 2 := rfl
  omega

theorem toLower_of_wide (hc : 128 ≤ c.toNat) : c.toLower = c :=
  toLower_of_not_alpha (isAlpha_of_wide hc)

theorem ascii_of_toLower (hc : c.toLower.toNat < 128) : c.toNat < 128 := by
  by_contra hwide
  rw [toLower_of_wide (Nat.not_lt.1 hwide)] at hc
  exact hwide hc

theorem exists_written (hname : ∀ c ∈ name, c.toNat < 128)
    (h : ((units v).take name.length).map Char.toLower = name) :
    ∃ written rest, v = written ++ rest ∧ written.map Char.toLower = name := by
  induction name generalizing v with
  | nil => exact ⟨[], v, rfl, rfl⟩
  | cons d name ih =>
    obtain ⟨hd, hname⟩ := List.forall_mem_cons.1 hname
    cases v with
    | nil => cases h
    | cons c v =>
      obtain ⟨b, hb, hsame⟩ := exists_head_units c v
      obtain ⟨bs, hbs⟩ := List.head?_eq_some_iff.1 hb
      rw [hbs, List.length_cons, List.take_succ_cons, List.map_cons] at h
      obtain ⟨hhead, htail⟩ := List.cons.inj h
      have hascii : b.toNat < 128 := ascii_of_toLower (hhead ▸ hd)
      obtain rfl := (hsame b hascii).1 rfl
      rw [units_cons_of_ascii hascii] at hbs
      obtain ⟨-, rfl⟩ := List.cons.inj hbs
      obtain ⟨written, rest, rfl, hwritten⟩ := ih hname htail
      exact ⟨c :: written, rest, rfl, by rw [List.map_cons, hhead, hwritten]⟩

/-- Whether a name stands in front of the cursor can be told from the bytes. -/
theorem closes_iff (hname : ∀ c ∈ name, c.toNat < 128) (hlower : name.map Char.toLower = name)
    (h : Stands s (n + 2) v) :
    ((((units s).drop (n + 2)).take (byteLength name)).map Char.toLower =
        (units name).map Char.toLower ∧
      (peek s (n + 2 + byteLength name)).all endsTagName = true) ↔
    closesVerbatim name ('<' :: '/' :: v) = true := by
  have hunits : units name = name := by
    have happend := units_of_ascii hname []
    rwa [List.append_nil, units_nil, List.append_nil] at happend
  have hlength : byteLength name = name.length := by rw [← length_units, hunits]
  have hspelled : ∀ written rest, v = written ++ rest → written.map Char.toLower = name →
      ((peek s (n + 2 + byteLength name)).all endsTagName = true ↔
        closesVerbatim name ('<' :: '/' :: v) = true) ∧
      (units v).take name.length = written := by
    rintro written rest rfl hwritten
    have hascii : ∀ c ∈ written, c.toNat < 128 := by
      intro c hc
      exact ascii_of_toLower (hname _ (hwritten ▸ List.mem_map_of_mem hc))
    have hcount : written.length = name.length := by rw [← hwritten, List.length_map]
    have hbytes : byteLength written = byteLength name := by
      have happend := units_of_ascii hascii []
      rw [List.append_nil, units_nil, List.append_nil] at happend
      rw [← length_units, happend, hcount, hlength]
    rw [← hbytes, h.behind.all_peek flat_endsTagName, units_of_ascii hascii, ← hcount,
      List.take_left]
    refine ⟨?_, rfl⟩
    rw [closesVerbatim, ← hcount, List.take_left, List.drop_left, hwritten, beq_self_eq_true,
      Bool.true_and]
    cases rest.head? <;> rfl
  rw [h.drop_eq, hunits, hlower, hlength]
  constructor
  · rintro ⟨hspells, hbehind⟩
    obtain ⟨written, rest, hv, hwritten⟩ := exists_written hname hspells
    rw [← hlength] at hbehind
    exact (hspelled written rest hv hwritten).1.1 hbehind
  · intro hcloses
    have hwritten : (v.take name.length).map Char.toLower = name := by
      simp only [closesVerbatim, Bool.and_eq_true, beq_iff_eq] at hcloses
      exact hcloses.1
    obtain ⟨hiff, htake⟩ := hspelled _ _ (List.take_append_drop name.length v).symm hwritten
    rw [← hlength]
    refine ⟨?_, hiff.2 hcloses⟩
    rw [hlength, htake, hwritten]

theorem not_closes_of_after? (h : after? ['<', '/'] v = none) : closesVerbatim name v = false := by
  rw [← Bool.not_eq_true]
  intro hcloses
  rw [← eq_of_closesVerbatim hcloses] at h
  cases h

theorem readVerbatim_of_cutAt_eq_none (hcut : cutAt ['<', '/'] v = none) :
    readVerbatim name v = (v, []) := by
  induction v with
  | nil => rfl
  | cons c v ih =>
    rw [cutAt] at hcut
    split at hcut
    · cases hcut
    · rename_i hafter
      rw [readVerbatim, not_closes_of_after? hafter, ih (Option.map_eq_none_iff.1 hcut)]
      rfl

theorem readVerbatim_of_cutAt {a b : List Char} (hcut : cutAt ['<', '/'] v = some (a, b)) :
    readVerbatim name v =
      if closesVerbatim name ('<' :: '/' :: b) = true then (a, '<' :: '/' :: b)
      else (a ++ '<' :: '/' :: (readVerbatim name b).1, (readVerbatim name b).2) := by
  induction v generalizing a with
  | nil => cases hcut
  | cons c v ih =>
    rw [cutAt] at hcut
    split at hcut
    · rename_i r hafter
      obtain ⟨rfl, rfl⟩ := Prod.mk.inj (Option.some.inj hcut)
      have hv : '<' :: '/' :: r = c :: v := append_of_after? hafter
      obtain ⟨rfl, rfl⟩ := List.cons.inj hv
      have hslash : readVerbatim name ('/' :: r) =
          ('/' :: (readVerbatim name r).1, (readVerbatim name r).2) := by
        rw [readVerbatim, if_neg (by simp [closesVerbatim])]
      rw [readVerbatim, hslash, List.nil_append]
    · rename_i hafter
      obtain ⟨⟨a', b'⟩, hrest, heq⟩ := Option.map_eq_some_iff.1 hcut
      obtain ⟨rfl, rfl⟩ := Prod.mk.inj heq
      rw [readVerbatim, if_neg (by rw [not_closes_of_after? hafter]; decide), ih hrest]
      by_cases hcloses : closesVerbatim name ('<' :: '/' :: b') = true
      · rw [if_pos hcloses, if_pos hcloses]
      · rw [if_neg hcloses, if_neg hcloses]
        rfl

theorem findClose_stands (hname : ∀ c ∈ name, c.toNat < 128) (hlower : name.map Char.toLower = name)
    (h : Stands s n v) :
    findClose s name n = if (readVerbatim name v).2 = [] then none
      else some (n + byteLength (readVerbatim name v).1) := by
  induction hk : byteLength v using Nat.strong_induction_on generalizing v n with
  | _ k ih =>
    cases hcut : cutAt ['<', '/'] v with
    | none =>
      rw [readVerbatim_of_cutAt_eq_none hcut, if_pos rfl, findClose]
      split
      · rfl
      · rename_i hfind
        rw [h.find_eq_none hcut] at hfind
        cases hfind
    | some x =>
      obtain ⟨a, b⟩ := x
      obtain ⟨hfind, -, hclose⟩ := h.find_eq_some hcut
      have hbehind : Stands s (n + byteLength a + 2) b := hclose.behind
      have hlength := congrArg byteLength (append_of_cutAt hcut)
      have htag : byteLength ['<', '/'] = 2 := rfl
      rw [byteLength_append, byteLength_append, htag] at hlength
      have htagged (t : List Char) : byteLength ('<' :: '/' :: t) = 2 + byteLength t := by
        rw [← htag, ← byteLength_append]
        rfl
      rw [readVerbatim_of_cutAt hcut, findClose]
      split
      · rename_i hnone
        rw [hfind] at hnone
        cases hnone
      · rename_i close hsome
        rw [hfind] at hsome
        obtain rfl := Option.some.inj hsome
        have hcloses := closes_iff hname hlower hbehind
        by_cases htest : closesVerbatim name ('<' :: '/' :: b) = true
        · rw [if_pos (hcloses.2 htest), if_pos htest, if_neg (List.cons_ne_nil _ _)]
        · rw [if_neg (fun h => htest (hcloses.1 h)), if_neg htest,
            ih (byteLength b) (by omega) hbehind rfl, byteLength_append, htagged]
          simp only [Nat.add_assoc]

def scanContent (f : Flavor) (s : List Char) (tag : StartTag) (n : Nat) : Option (Piece × Nat) :=
  let name := f.normalize (String.ofList tag.name)
  if tag.closing = .bracket ∧ !f.isVoid name ∧ f.isVerbatim name then
    match findClose s name.toList n with
    | none => (slice? s n (byteLength s)).map fun content =>
      (.verbatim tag content none, byteLength s)
    | some close => do
      let content ← slice? s n close
      let endTag ← scanEndTag s close
      return (.verbatim tag content (some endTag.1), endTag.2)
  else some (.startTag tag, n)

def scanStartTag (f : Flavor) (s : List Char) (n : Nat) : Option (Piece × Nat) := do
  let stop := skip (fun c => !endsTagName c) s (n + 1)
  let name ← slice? s (n + 1) stop
  let tag ← scanRounds s stop stop
  scanContent f s ⟨name, tag.1, tag.2.1, tag.2.2.1⟩ tag.2.2.2

theorem verbatimName (h : f.isVerbatim tagName = true) : (∀ c ∈ tagName.toList, c.toNat < 128) ∧
    tagName.toList.map Char.toLower = tagName.toList ∧ f.isVoid tagName = false := by
  have hall : ∀ name ∈ Flavor.verbatimNames, (∀ c ∈ name.toList, c.toNat < 128) ∧
      name.toList.map Char.toLower = name.toList ∧ name ∉ Flavor.voidNames := by
    simp [Flavor.verbatimNames, Flavor.voidNames]
  rw [Flavor.isVerbatim, Bool.and_eq_true, List.contains_iff_mem] at h
  obtain ⟨hascii, hlower, hvoid⟩ := hall tagName h.2
  refine ⟨hascii, hlower, ?_⟩
  rw [Flavor.isVoid, List.contains_eq_mem]
  simp [hvoid]

theorem scanContent_stands (tag : StartTag) (h : Stands s n v) :
    ∃ m, scanContent f s tag n = some ((readContent f tag v).1, m) ∧
      Stands s m (readContent f tag v).2 := by
  simp only [scanContent, readContent]
  by_cases hverbatim : tag.closing = .bracket ∧ f.isVerbatim (f.normalize (String.ofList tag.name))
  · obtain ⟨hascii, hlower, hvoid⟩ := verbatimName hverbatim.2
    have hsource := source_readVerbatim (f.normalize (String.ofList tag.name)).toList v
    have hstop := @readVerbatim_stop (f.normalize (String.ofList tag.name)).toList v
    rw [if_pos hverbatim, if_pos ⟨hverbatim.1, by simp [hvoid], hverbatim.2⟩,
      findClose_stands hascii hlower h]
    generalize readVerbatim (f.normalize (String.ofList tag.name)).toList v = found at *
    obtain ⟨content, rest⟩ := found
    dsimp only at hsource hstop ⊢
    subst hsource
    cases rest with
    | nil =>
      rw [List.append_nil] at h
      simp only [if_true, h.slice?_rest]
      exact ⟨_, rfl, h.finish⟩
    | cons c r =>
      have htag := eq_of_closesVerbatim (hstop (List.cons_ne_nil _ _))
      have hclose := h.behind
      rw [← htag] at hclose
      obtain ⟨m, hend, hstands⟩ := scanEndTag_stands hclose
      simp only [if_neg (List.cons_ne_nil c r), h.slice?_eq, hend, Option.bind_eq_bind,
        Option.bind_some]
      exact ⟨m, rfl, hstands⟩
  · rw [if_neg hverbatim, if_neg fun h => hverbatim ⟨h.1, h.2.2⟩]
    exact ⟨n, rfl, h⟩

theorem scanStartTag_stands (h : Stands s n ('<' :: v)) :
    ∃ m, scanStartTag f s n =
        some ((readContent f (readStartTag v).1 (readStartTag v).2).1, m) ∧
      Stands s m (readContent f (readStartTag v).1 (readStartTag v).2).2 := by
  have hname : Stands s (n + 1) v := h.succ (by decide)
  have hflat : Flat fun c => !endsTagName c := flat_endsTagName.not
  have hrest := hname.skip hflat
  have hnone : Stands s _ ([] ++ v.dropWhile fun c => !endsTagName c) := hrest
  obtain ⟨m, htag, hstands⟩ := scanRounds_stands hnone hrest rfl
  rw [List.nil_append] at htag hstands
  obtain ⟨m', hcontent, hstands'⟩ := scanContent_stands (f := f) (readStartTag v).1 hstands
  refine ⟨m', ?_, hstands'⟩
  simp only [scanStartTag, hname.slice?_skip hflat, htag, Option.bind_eq_bind, Option.bind_some]
  exact hcontent

/-- Text up to the next `<`, which is not looked for where the text begins. -/
def scanText (s : List Char) (n : Nat) : Option (Piece × Nat) :=
  let start := if peek s n = some '<' then n + 1 else n
  let stop := (find s ['<'] start).getD (byteLength s)
  (slice? s n stop).map fun content => (.text content, stop)

def isAlphaAt (s : List Char) (n : Nat) : Bool := (peek s n).any Char.isAlpha

def scanEnclosed (s opener closer : List Char) (n : Nat) : Option (List Char × Bool × Nat) :=
  scanUntil s closer (n + byteLength opener)

def scanPiece (f : Flavor) (s : List Char) (n : Nat) : Option (Piece × Nat) :=
  if startsWith s commentOpen n then
    (scanEnclosed s commentOpen commentClose n).map fun x => (.comment x.1 x.2.1, x.2.2)
  else if f = .xml ∧ startsWith s cdataOpen n then
    (scanEnclosed s cdataOpen cdataClose n).map fun x => (.cdata x.1 x.2.1, x.2.2)
  else if startsWith s ['<', '/'] n ∧ isAlphaAt s (n + 2) then
    (scanEndTag s n).map fun x => (.endTag x.1, x.2)
  else if startsWith s ['<', '!'] n then
    (scanEnclosed s ['<', '!'] ['>'] n).map fun x => (.declaration x.1 x.2.1, x.2.2)
  else if startsWith s ['<', '?'] n then
    (scanEnclosed s ['<', '?'] ['?', '>'] n).map fun x => (.instruction x.1 x.2.1, x.2.2)
  else if peek s n = some '<' ∧ isAlphaAt s (n + 1) then scanStartTag f s n
  else scanText s n

def joinPiece : Piece → List Piece → List Piece
  | .text a, .text b :: ps => .text (a ++ b) :: ps
  | p, ps => p :: ps

/-- Every round has to move the cursor, to in front of a character or to the end of the text. -/
def scan (f : Flavor) (s : List Char) (n : Nat) : Option (List Piece) :=
  if n < byteLength s then
    match scanPiece f s n with
    | none => none
    | some (p, m) => if n < m ∧ isBoundary s m then (scan f s m).map (joinPiece p) else none
  else some []
termination_by byteLength s - n

theorem scanText_stands (h : Stands s n (c :: v)) :
    ∃ m, scanText s n = some (.text (c :: v.takeWhile (· != '<')), m) ∧
      Stands s m (v.dropWhile (· != '<')) := by
  have hfind : ∀ {k : Nat} {u : List Char}, Stands s k u →
      (find s ['<'] k).getD (byteLength s) = k + byteLength (u.takeWhile (· != '<')) := by
    intro k u hu
    have hnot : '<' ∉ u.takeWhile (· != '<') := by
      intro hmem
      simpa using List.mem_takeWhile_imp hmem
    have htext := List.takeWhile_append_dropWhile (p := (· != '<')) (l := u)
    cases hrest : u.dropWhile (· != '<') with
    | nil =>
      rw [hrest, List.append_nil] at htext
      rw [hu.find_eq_none (by rw [← htext]; exact cutAt_char_eq_none hnot), htext]
      exact hu.length_eq
    | cons d t =>
      have hd : d = '<' := by
        have hhead := List.head?_dropWhile_not (· != '<') u
        rw [hrest] at hhead
        simpa using hhead
      rw [hrest, hd] at htext
      rw [(hu.find_eq_some (by rw [← htext]; exact cutAt_char hnot t)).1]
      rfl
  have hstop : (find s ['<'] (if peek s n = some '<' then n + 1 else n)).getD (byteLength s) =
      n + byteLength (c :: v.takeWhile (· != '<')) := by
    by_cases hc : c = '<'
    · rw [if_pos ((h.peek_eq_some_iff (by decide)).2 (by rw [hc]; rfl)), hc, byteLength_cons,
        hfind (h.succ (by rw [hc]; decide)), Nat.add_assoc]
      rfl
    · rw [if_neg (fun hpeek => hc (Option.some.inj ((h.peek_eq_some_iff (by decide)).1 hpeek))),
        hfind h, List.takeWhile_cons_of_pos (by simpa using hc)]
  have hslice := h
  rw [← List.takeWhile_append_dropWhile (p := (· != '<')) (l := v), ← List.cons_append] at hslice
  refine ⟨n + byteLength (c :: v.takeWhile (· != '<')), ?_, hslice.behind⟩
  simp only [scanText, hstop, hslice.slice?_eq, Option.map_some]

theorem readText_mark (f : Flavor) (v : List Char) : readText f v =
    (v.takeWhile (· != '<') ++ (readText f (v.dropWhile (· != '<'))).1,
      (readText f (v.dropWhile (· != '<'))).2) := by
  induction v with
  | nil => rfl
  | cons c v ih =>
    by_cases hc : c = '<'
    · rw [List.takeWhile_cons_of_neg (by simp [hc]), List.dropWhile_cons_of_neg (by simp [hc])]
      rfl
    · have hopener : ¬(opening? f (c :: v)).isSome = true := by
        rw [isSome_opening]
        intro hopen
        exact hc (Option.some.inj (head_of_isOpener hopen))
      rw [List.takeWhile_cons_of_pos (by simpa using hc),
        List.dropWhile_cons_of_pos (by simpa using hc), readText, if_neg hopener, ih]
      rfl

theorem opening?_eq (f : Flavor) (v : List Char) : opening? f v =
    if commentOpen.isPrefixOf v then some .comment
    else if f = .xml ∧ cdataOpen.isPrefixOf v then some .cdata
    else if ['<', '/'].isPrefixOf v ∧ (v.drop 2).head?.any Char.isAlpha then some .endTag
    else if ['<', '!'].isPrefixOf v then some .declaration
    else if ['<', '?'].isPrefixOf v then some .instruction
    else if v.head? = some '<' ∧ (v.drop 1).head?.any Char.isAlpha then some .startTag
    else none := by
  unfold opening?
  split
  · rename_i r
    simp [commentOpen, cdataOpen, List.isPrefixOf]
  · simp [commentOpen, cdataOpen, List.isPrefixOf]
  · simp [commentOpen, cdataOpen, List.isPrefixOf]
  · rename_i c r hbang hquery hslash
    have hbang' : ¬ '!' = c := fun h => hbang h.symm
    have hquery' : ¬ '?' = c := fun h => hquery h.symm
    have hslash' : '/' = c → r = [] := by
      intro h
      cases r with
      | nil => rfl
      | cons d r => exact (hslash d r h.symm rfl).elim
    by_cases hc : '/' = c
    · have halpha : '/'.isAlpha = false := by decide
      rw [hslash' hc, ← hc]
      simp [commentOpen, cdataOpen, List.isPrefixOf_cons_cons, halpha]
    · simp [commentOpen, cdataOpen, List.isPrefixOf_cons_cons, hbang', hquery', hc]
  · rename_i hany
    rcases v with _ | ⟨c, _ | ⟨d, r⟩⟩
    · simp [commentOpen, cdataOpen]
    · simp [commentOpen, cdataOpen, List.isPrefixOf_cons_cons]
    · have hc : ¬ '<' = c := fun h => hany d r (by rw [h])
      simp [commentOpen, cdataOpen, List.isPrefixOf_cons_cons, hc, Ne.symm hc]

theorem scanEnclosed_stands {opener : List Char} (closer : List Char)
    (hopener : opener.isPrefixOf v = true) (h : Stands s n v) :
    ∃ m, scanEnclosed s opener closer n = some ((readEnclosed opener closer v).1,
        (readEnclosed opener closer v).2.1, m) ∧
      Stands s m (readEnclosed opener closer v).2.2 := by
  obtain ⟨t, rfl⟩ := List.isPrefixOf_iff_prefix.1 hopener
  rw [readEnclosed_eq, List.drop_left]
  exact scanUntil_stands closer h.behind

theorem Stands.endTag_iff (h : Stands s n v) :
    ['<', '/'].isPrefixOf v = true ∧ isAlphaAt s (n + 2) = true ↔
      ['<', '/'].isPrefixOf v = true ∧ (v.drop 2).head?.any Char.isAlpha = true := by
  refine and_congr_right fun hprefix => ?_
  obtain ⟨t, rfl⟩ := List.isPrefixOf_iff_prefix.1 hprefix
  have hbehind : Stands s (n + 2) t := h.behind
  rw [isAlphaAt, hbehind.any_peek flat_isAlpha]
  rfl

theorem Stands.startTag_iff (h : Stands s n v) :
    peek s n = some '<' ∧ isAlphaAt s (n + 1) = true ↔
      v.head? = some '<' ∧ (v.drop 1).head?.any Char.isAlpha = true := by
  rw [h.peek_eq_some_iff (by decide)]
  refine and_congr_right fun hhead => ?_
  obtain ⟨t, rfl⟩ := List.head?_eq_some_iff.1 hhead
  rw [isAlphaAt, (h.succ (by decide)).any_peek flat_isAlpha]
  rfl

theorem scanPiece_stands (f : Flavor) (h : Stands s n v) :
    opening? f v = none ∧ scanPiece f s n = scanText s n ∨ (opening? f v).isSome = true ∧
      ∃ m, scanPiece f s n = some ((readPiece f v).1, m) ∧ Stands s m (readPiece f v).2 := by
  have hstarts : ∀ {w : List Char}, (∀ c ∈ w, c.toNat < 128) → startsWith s w n = w.isPrefixOf v :=
    fun hw => h.startsWith_eq hw
  have hopening := opening?_eq f v
  rw [scanPiece, hstarts (w := commentOpen) (by simp [commentOpen]),
    hstarts (w := cdataOpen) (by simp [cdataOpen]), hstarts (w := ['<', '/']) (by simp),
    hstarts (w := ['<', '!']) (by simp), hstarts (w := ['<', '?']) (by simp)]
  by_cases hcomment : commentOpen.isPrefixOf v = true
  · rw [if_pos hcomment] at hopening ⊢
    obtain ⟨m, hscan, hstands⟩ := scanEnclosed_stands commentClose hcomment h
    simp only [hscan, readPiece, hopening]
    exact Or.inr ⟨rfl, m, rfl, hstands⟩
  rw [if_neg hcomment] at hopening ⊢
  by_cases hcdata : f = .xml ∧ cdataOpen.isPrefixOf v = true
  · rw [if_pos hcdata] at hopening ⊢
    obtain ⟨m, hscan, hstands⟩ := scanEnclosed_stands cdataClose hcdata.2 h
    simp only [hscan, readPiece, hopening]
    exact Or.inr ⟨rfl, m, rfl, hstands⟩
  rw [if_neg hcdata] at hopening ⊢
  by_cases hendTag : ['<', '/'].isPrefixOf v = true ∧ (v.drop 2).head?.any Char.isAlpha = true
  · rw [if_pos hendTag] at hopening
    rw [if_pos (h.endTag_iff.2 hendTag)]
    obtain ⟨t, rfl⟩ := List.isPrefixOf_iff_prefix.1 hendTag.1
    obtain ⟨m, hscan, hstands⟩ := scanEndTag_stands h
    simp only [hscan, readPiece, hopening]
    exact Or.inr ⟨rfl, m, rfl, hstands⟩
  rw [if_neg hendTag] at hopening
  rw [if_neg (fun h' => hendTag (h.endTag_iff.1 h'))]
  by_cases hdeclaration : ['<', '!'].isPrefixOf v = true
  · rw [if_pos hdeclaration] at hopening ⊢
    obtain ⟨m, hscan, hstands⟩ := scanEnclosed_stands ['>'] hdeclaration h
    simp only [hscan, readPiece, hopening]
    exact Or.inr ⟨rfl, m, rfl, hstands⟩
  rw [if_neg hdeclaration] at hopening ⊢
  by_cases hinstruction : ['<', '?'].isPrefixOf v = true
  · rw [if_pos hinstruction] at hopening ⊢
    obtain ⟨m, hscan, hstands⟩ := scanEnclosed_stands ['?', '>'] hinstruction h
    simp only [hscan, readPiece, hopening]
    exact Or.inr ⟨rfl, m, rfl, hstands⟩
  rw [if_neg hinstruction] at hopening ⊢
  by_cases hstartTag : v.head? = some '<' ∧ (v.drop 1).head?.any Char.isAlpha = true
  · rw [if_pos hstartTag] at hopening
    rw [if_pos (h.startTag_iff.2 hstartTag)]
    obtain ⟨t, rfl⟩ := List.head?_eq_some_iff.1 hstartTag.1
    obtain ⟨m, hscan, hstands⟩ := scanStartTag_stands (f := f) h
    simp only [hscan, readPiece, hopening]
    exact Or.inr ⟨rfl, m, rfl, hstands⟩
  · rw [if_neg hstartTag] at hopening
    rw [if_neg (fun h' => hstartTag (h.startTag_iff.1 h'))]
    exact Or.inl ⟨hopening, rfl⟩

theorem readPiece_ne_text (h : (opening? f v).isSome = true) (a : List Char) :
    (readPiece f v).1 ≠ .text a := by
  unfold readPiece
  split
  · simp
  · simp
  · simp
  · simp
  · dsimp only [readContent]
    split
    · split <;> simp
    · simp
  · simp
  · rename_i hnone
    rw [hnone] at h
    cases h

theorem joinPiece_of_ne_text {p : Piece} (hp : ∀ a, p ≠ .text a) (ps : List Piece) :
    joinPiece p ps = p :: ps := by
  cases p with
  | text a => exact absurd rfl (hp a)
  | _ => rfl

theorem readPiece_text (h : opening? f v = none) :
    readPiece f v = (.text (readText f v).1, (readText f v).2) := by
  rw [readPiece, h]

theorem joinPiece_text (h : opening? f (c :: v) = none) :
    joinPiece (.text (c :: v.takeWhile (· != '<'))) (pieces f (v.dropWhile (· != '<'))) =
      pieces f (c :: v) := by
  have hread : readText f (c :: v) =
      (c :: v.takeWhile (· != '<') ++ (readText f (v.dropWhile (· != '<'))).1,
        (readText f (v.dropWhile (· != '<'))).2) := by
    rw [readText, if_neg (by rw [h]; decide), readText_mark]
    rfl
  rw [pieces_of_ne_nil (List.cons_ne_nil c v), readPiece_text h, hread]
  generalize c :: v.takeWhile (· != '<') = a
  generalize v.dropWhile (· != '<') = rest
  cases rest with
  | nil => simp [readText, pieces, joinPiece]
  | cons d r =>
    cases hopening : opening? f (d :: r) with
    | none => rw [pieces_of_ne_nil (List.cons_ne_nil d r), readPiece_text hopening, joinPiece]
    | some o =>
      have hsome : (opening? f (d :: r)).isSome = true := by rw [hopening]; rfl
      have hstop : readText f (d :: r) = ([], d :: r) := by rw [readText, if_pos hsome]
      rw [hstop, List.append_nil, pieces_of_ne_nil (List.cons_ne_nil d r)]
      generalize hp : (readPiece f (d :: r)).1 = p
      have hne := readPiece_ne_text hsome
      rw [hp] at hne
      cases p with
      | text b => exact absurd rfl (hne b)
      | _ => rfl

/-- Every round finds something, moves the cursor, and leaves the rest to the rounds behind it. -/
theorem scanPiece_moves (f : Flavor) (h : Stands s n v) (hv : v ≠ []) :
    ∃ p m rest, scanPiece f s n = some (p, m) ∧ Stands s m rest ∧ n < m ∧
      joinPiece p (pieces f rest) = pieces f v := by
  have hmoves : ∀ {m : Nat} {rest : List Char}, Stands s m rest → rest.length < v.length →
      (∃ w, w ++ rest = v) → n < m := by
    rintro m rest hm hlt ⟨w, rfl⟩
    have hw : w ≠ [] := by
      rintro rfl
      exact absurd hlt (Nat.lt_irrefl _)
    have hpos := byteLength_pos hw
    have hlength := h.length_eq
    rw [hm.length_eq, byteLength_append] at hlength
    omega
  rcases scanPiece_stands f h with ⟨hnone, hscan⟩ | ⟨hsome, m, hscan, hstands⟩
  · cases v with
    | nil => exact absurd rfl hv
    | cons c v =>
      obtain ⟨m, htext, hstands⟩ := scanText_stands h
      refine ⟨_, m, _, hscan.trans htext, hstands, hmoves hstands ?_ ?_, joinPiece_text hnone⟩
      · exact Nat.lt_succ_of_le (List.length_dropWhile_le _ _)
      · refine ⟨c :: v.takeWhile (· != '<'), ?_⟩
        rw [List.cons_append, List.takeWhile_append_dropWhile]
  · refine ⟨_, m, _, hscan, hstands, hmoves hstands (length_readPiece hv) ?_, ?_⟩
    · exact ⟨(readPiece f v).1.source, source_readPiece f v⟩
    · rw [joinPiece_of_ne_text (readPiece_ne_text hsome), ← pieces_of_ne_nil hv]

theorem scan_stands (f : Flavor) (h : Stands s n v) : scan f s n = some (pieces f v) := by
  induction hk : byteLength v using Nat.strong_induction_on generalizing v n with
  | _ k ih =>
    by_cases hv : v = []
    · subst hv
      rw [scan, if_neg (by rw [h.eq_length]; exact Nat.lt_irrefl _), pieces]
      rfl
    · obtain ⟨p, m, rest, hscan, hstands, hlt, hjoin⟩ := scanPiece_moves f h hv
      have hlength := h.length_eq
      rw [hstands.length_eq] at hlength
      have hinside : n < byteLength s := by
        have hpos := byteLength_pos hv
        rw [h.length_eq]
        omega
      rw [scan, if_pos hinside, hscan]
      simp only [if_pos (And.intro hlt hstands.isBoundary)]
      rw [ih (byteLength rest) (by omega) hstands rfl, Option.map_some, hjoin]

theorem Stands.between {m : Nat} {w : List Char} (h : Stands s n v) (h' : Stands s m w)
    (hle : n ≤ m) : ∃ gap, v = gap ++ w := by
  obtain ⟨front, rfl, rfl⟩ := h
  obtain ⟨front', hs, rfl⟩ := h'
  obtain ⟨gap, rfl⟩ := prefix_of_byteLength_le (List.prefix_append front v) ⟨w, hs.symm⟩ hle
  rw [List.append_assoc] at hs
  exact ⟨gap, List.append_cancel_left hs⟩

/-- Reading a text by bytes never leaves the text, never cuts a character and
never stalls: from in front of any character each round of the loop over the
text and of the loop over a tag moves the cursor in front of a character
again, and a round over a tag at the end of the text is its last one. All that
is recorded lies between characters, and no range ends in front of its start. -/
theorem scan_in_bounds (f : Flavor) (text : String) :
    let s := (Document.stripMark text.toList).1
    let d := Document.parse f text
    scan f s 0 = some (pieces f s) ∧
    (∀ n, isBoundary s n = true → n < byteLength s →
      ∃ p m, scanPiece f s n = some (p, m) ∧ n < m ∧ m ≤ byteLength s ∧ isBoundary s m = true) ∧
    (∀ start n, isBoundary s start = true → isBoundary s n = true → start ≤ n →
      ∃ r m, scanRound s start n = some (r, m) ∧ n ≤ m ∧ m ≤ byteLength s ∧
        isBoundary s m = true ∧ (n < byteLength s → n < m) ∧
        (n = byteLength s → ∃ gap, r = .closing gap .cutOff)) ∧
    (∀ r ∈ d.ranges, r.start.offset ≤ r.stop.offset) ∧
    ∀ p ∈ d.positions, isBoundary s p.offset = true ∧ p.offset ≤ byteLength s := by
  intro s d
  refine ⟨scan_stands f (stands_zero s), fun n hn hlt => ?_, fun start n hstart hn hle => ?_,
    fun r hr => Document.ordered_ranges hr, fun p hp => ?_⟩
  · obtain ⟨v, hv⟩ := stands_of_isBoundary hn
    have hne : v ≠ [] := by
      rintro rfl
      exact Nat.lt_irrefl _ (hv.eq_length ▸ hlt)
    obtain ⟨p, m, rest, hscan, hstands, hmove, -⟩ := scanPiece_moves f hv hne
    exact ⟨p, m, hscan, hmove, hstands.le, hstands.isBoundary⟩
  · obtain ⟨v, hv⟩ := stands_of_isBoundary hn
    obtain ⟨w, hw⟩ := stands_of_isBoundary hstart
    obtain ⟨gap, rfl⟩ := hw.between hv hle
    obtain ⟨m, hround, -⟩ := scanRound_stands hw hv
    obtain ⟨hboundary, hle', hinside, hlt⟩ := lt_of_scanRound hw hv hround
    refine ⟨_, m, hround, hle', hinside, hboundary, hlt, fun hend => ⟨gap, ?_⟩⟩
    have hnil : v = [] := by
      have hlength := hv.length_eq
      exact byteLength_eq_zero.1 (by omega)
    rw [hnil, List.takeWhile_nil, List.append_nil]
    rfl
  · obtain ⟨a, ⟨b, hab⟩, rfl⟩ := Document.inside_positions hp
    have hstands : Stands s (byteLength a) b := ⟨a, hab.symm, rfl⟩
    rw [Position.offset_advance_origin]
    exact ⟨hstands.isBoundary, hstands.le⟩

end MarkupSplice.Markup
