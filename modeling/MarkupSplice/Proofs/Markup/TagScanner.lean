import MarkupSplice.Proofs.Markup.Cursor
import MarkupSplice.Proofs.Markup.Growth
import MarkupSplice.Proofs.Markup.Resume

/-!
# Reading tags by bytes

The readers of start tags as loops over one cursor that counts bytes. A reader
fails as soon as it cuts the text inside a character or behind its end, and as
soon as a round of the loop over a tag leaves the cursor where it was. From in
front of a character none of them does, and each finds what the reader of
characters finds (`scanRounds_stands`).
-/
namespace MarkupSplice.Markup
open Text

variable {s v w gap : List Char} {c : Char} {f : Flavor} {n start : Nat}

def scanUntil (s w : List Char) (n : Nat) : Option (List Char × Bool × Nat) :=
  match find s w n with
  | some stop => (slice? s n stop).map fun body => (body, true, stop + byteLength w)
  | none => (slice? s n (byteLength s)).map fun body => (body, false, byteLength s)

def readUntil (w v : List Char) : List Char × Bool × List Char :=
  match cutAt w v with
  | some (body, rest) => (body, true, rest)
  | none => (v, false, [])

theorem scanUntil_stands (w : List Char) (h : Stands s n v) :
    ∃ m, scanUntil s w n = some ((readUntil w v).1, (readUntil w v).2.1, m) ∧
      Stands s m (readUntil w v).2.2 := by
  rw [scanUntil, readUntil]
  cases hcut : cutAt w v with
  | none =>
    rw [h.find_eq_none hcut]
    simp only [h.slice?_rest]
    exact ⟨_, rfl, h.finish⟩
  | some x =>
    obtain ⟨body, rest⟩ := x
    obtain ⟨hfind, hslice, hclose⟩ := h.find_eq_some hcut
    rw [hfind]
    simp only [hslice]
    exact ⟨_, rfl, hclose.behind⟩

theorem readEnclosed_eq (opener closer v : List Char) :
    readEnclosed opener closer v = readUntil closer (v.drop opener.length) := by
  unfold readEnclosed readUntil
  cases cutAt closer (v.drop opener.length) <;> rfl

theorem readQuoted_eq (q : Char) (v : List Char) : readQuoted q v =
    (.quoted q (readUntil [q] v).1 (readUntil [q] v).2.1, (readUntil [q] v).2.2) := by
  rw [readQuoted, readUntil]
  split <;> simp_all

def scanQuoted (s : List Char) (q : Char) (n : Nat) : Option (WrittenValue × Nat) :=
  (scanUntil s [q] (n + 1)).map fun x => (.quoted q x.1 x.2.1, x.2.2)

def scanValue (s : List Char) (n : Nat) : Option (WrittenValue × Nat) :=
  if peek s n = some '"' then scanQuoted s '"' n
  else if peek s n = some '\'' then scanQuoted s '\'' n
  else
    let stop := n + (readUnquoted ((units s).drop n)).1.length
    (slice? s n stop).map fun v => (.unquoted v, stop)

/-- Looks past white space for an equals sign, and goes back behind the name when there is none. -/
def scanAssignment (s : List Char) (n : Nat) : Option (Option Assignment × Nat) :=
  let sign := skip isSpace s n
  if peek s sign = some '=' then do
    let start := skip isSpace s (sign + 1)
    let before ← slice? s n sign
    let after ← slice? s (sign + 1) start
    let found ← scanValue s start
    return (some ⟨before, after, found.1⟩, found.2)
  else some (none, n)

/-- The name takes its first character whatever it is. -/
def scanAttribute (s gap : List Char) (n : Nat) : Option (WrittenAttribute × Nat) := do
  let rest ← cutBytes s n
  let stop := skip (fun c => !endsAttributeName c) s (n + rest.2.head?.elim 1 Char.utf8Size)
  let name ← slice? s n stop
  let found ← scanAssignment s stop
  return (⟨gap, name, found.1⟩, found.2)

theorem scanQuoted_stands {q : Char} (hq : q.toNat < 128) (h : Stands s n (q :: v)) :
    ∃ m, scanQuoted s q n = some ((readQuoted q v).1, m) ∧ Stands s m (readQuoted q v).2 := by
  obtain ⟨m, huntil, hstands⟩ := scanUntil_stands [q] (h.succ hq)
  rw [scanQuoted, huntil, readQuoted_eq]
  exact ⟨m, rfl, hstands⟩

theorem scanValue_stands (h : Stands s n v) :
    ∃ m, scanValue s n = some ((readValue v).1, m) ∧ Stands s m (readValue v).2 := by
  have hdouble : peek s n = some '"' ↔ v.head? = some '"' := h.peek_eq_some_iff (by decide)
  have hsingle : peek s n = some '\'' ↔ v.head? = some '\'' := h.peek_eq_some_iff (by decide)
  unfold readValue
  split
  · rw [scanValue, if_pos (hdouble.2 rfl)]
    exact scanQuoted_stands (by decide) h
  · rw [scanValue, if_neg (by simp [hdouble]), if_pos (hsingle.2 rfl)]
    exact scanQuoted_stands (by decide) h
  · rename_i hnotDouble hnotSingle
    have hdouble' : peek s n ≠ some '"' := fun hpeek => by
      obtain ⟨t, rfl⟩ := List.head?_eq_some_iff.1 (hdouble.1 hpeek)
      exact hnotDouble t rfl
    have hsingle' : peek s n ≠ some '\'' := fun hpeek => by
      obtain ⟨t, rfl⟩ := List.head?_eq_some_iff.1 (hsingle.1 hpeek)
      exact hnotSingle t rfl
    have hsource := source_readUnquoted v
    have hslice := h
    rw [← hsource] at hslice
    have hstop : (readUnquoted ((units s).drop n)).1.length = byteLength (readUnquoted v).1 := by
      obtain ⟨u, rfl, rfl⟩ := h
      rw [drop_units, length_readUnquoted_units]
    rw [scanValue, if_neg hdouble', if_neg hsingle']
    simp only [hstop, hslice.slice?_eq]
    exact ⟨_, rfl, hslice.behind⟩

theorem scanAssignment_stands (h : Stands s n v) :
    ∃ m, scanAssignment s n = some ((readAssignment v).1, m) ∧ Stands s m (readAssignment v).2 := by
  have hsign := h.skip flat_isSpace
  have hpeek : peek s (skip isSpace s n) = some '=' ↔ (v.dropWhile isSpace).head? = some '=' :=
    hsign.peek_eq_some_iff (by decide)
  unfold readAssignment
  split
  · rename_i r hr
    rw [hr] at hsign
    have hbehind := hsign.succ (by decide)
    obtain ⟨m, hvalue, hstands⟩ := scanValue_stands (hbehind.skip flat_isSpace)
    rw [scanAssignment, if_pos (hpeek.2 (by rw [hr]; rfl))]
    simp only [h.slice?_skip flat_isSpace, hbehind.slice?_skip flat_isSpace, hvalue,
      Option.bind_eq_bind, Option.bind_some]
    exact ⟨m, rfl, hstands⟩
  · rename_i hnot
    have hpeek' : peek s (skip isSpace s n) ≠ some '=' := fun hsome => by
      obtain ⟨r, hr⟩ := List.head?_eq_some_iff.1 (hpeek.1 hsome)
      exact hnot r hr
    rw [scanAssignment, if_neg hpeek']
    exact ⟨n, rfl, h⟩

theorem scanAttribute_stands (gap : List Char) (h : Stands s n (c :: v)) :
    ∃ m, scanAttribute s gap n = some ((readAttribute gap c v).1, m) ∧
      Stands s m (readAttribute gap c v).2 := by
  obtain ⟨front, hcut⟩ := h.cutBytes_eq
  have hfirst : Stands s (n + c.utf8Size) v := h.behind (u := [c])
  have hflat : Flat fun c => !endsAttributeName c := flat_endsAttributeName.not
  have hname : slice? s n (skip (fun c => !endsAttributeName c) s (n + c.utf8Size)) =
      some (c :: v.takeWhile fun c => !endsAttributeName c) := by
    rw [hfirst.skip_eq hflat, Nat.add_assoc, ← byteLength_cons]
    apply Stands.slice?_eq (v := v.dropWhile fun c => !endsAttributeName c)
    rwa [List.cons_append, List.takeWhile_append_dropWhile]
  obtain ⟨m, hassignment, hstands⟩ := scanAssignment_stands (hfirst.skip hflat)
  refine ⟨m, ?_, hstands⟩
  simp only [scanAttribute, hcut, Option.bind_eq_bind, Option.bind_some, List.head?_cons,
    Option.elim_some, hname, hassignment]
  rfl

inductive TagRound
  | closing (gap : List Char) (closing : Closing)
  | slash
  | written (a : WrittenAttribute)

def scanRound (s : List Char) (start n : Nat) : Option (TagRound × Nat) :=
  let here := skip isSpace s n
  match peek s here with
  | none => (slice? s start here).map fun gap => (.closing gap .cutOff, here)
  | some c =>
    if startsWith s ['/', '>'] here then
      (slice? s start here).map fun gap => (.closing gap .slash, here + 2)
    else if c = '>' then (slice? s start here).map fun gap => (.closing gap .bracket, here + 1)
    else if c = '/' then some (.slash, here + 1)
    else do
      let gap ← slice? s start here
      let found ← scanAttribute s gap here
      return (.written found.1, found.2)

def readRound (gap : List Char) : List Char → TagRound × List Char
  | [] => (.closing gap .cutOff, [])
  | c :: r =>
    if c = '/' ∧ r.head? = some '>' then (.closing gap .slash, r.tail)
    else if c = '>' then (.closing gap .bracket, r)
    else if c = '/' then (.slash, r)
    else (.written (readAttribute gap c r).1, (readAttribute gap c r).2)

/-- Every round that is not the last one has to move the cursor. -/
def scanRounds (s : List Char) (start n : Nat) :
    Option (List WrittenAttribute × List Char × Closing × Nat) :=
  match scanRound s start n with
  | none => none
  | some (.closing gap closing, m) => some ([], gap, closing, m)
  | some (.slash, m) =>
    if n < m ∧ m ≤ byteLength s then scanRounds s start m else none
  | some (.written a, m) =>
    if n < m ∧ m ≤ byteLength s then (scanRounds s m m).map fun x => (a :: x.1, x.2) else none
termination_by byteLength s - n

theorem scanRound_stands (hgap : Stands s start (gap ++ v)) (h : Stands s n v) :
    ∃ m, scanRound s start n =
        some ((readRound (gap ++ v.takeWhile isSpace) (v.dropWhile isSpace)).1, m) ∧
      Stands s m (readRound (gap ++ v.takeWhile isSpace) (v.dropWhile isSpace)).2 := by
  have hhere := h.skip flat_isSpace
  have hslice : slice? s start (skip isSpace s n) = some (gap ++ v.takeWhile isSpace) := by
    have hlength := hgap.length_eq
    rw [h.length_eq, byteLength_append] at hlength
    have hstart : skip isSpace s n = start + byteLength (gap ++ v.takeWhile isSpace) := by
      rw [h.skip_eq flat_isSpace, byteLength_append]
      omega
    rw [hstart]
    apply Stands.slice?_eq (v := v.dropWhile isSpace)
    rwa [List.append_assoc, List.takeWhile_append_dropWhile]
  have hpeek := hhere.peek_eq
  have hslash := hhere.startsWith_eq (w := ['/', '>']) (by simp)
  rw [scanRound]
  generalize skip isSpace s n = here at *
  generalize v.dropWhile isSpace = u at *
  generalize gap ++ v.takeWhile isSpace = gap' at *
  cases u with
  | nil =>
    simp only [hpeek, units_nil, List.head?_nil, hslice]
    exact ⟨here, rfl, hhere⟩
  | cons c r =>
    obtain ⟨b, hb, hsame⟩ := exists_head_units c r
    have hslash' : startsWith s ['/', '>'] here = true ↔ c = '/' ∧ r.head? = some '>' := by
      rw [hslash, List.isPrefixOf_iff_prefix, List.cons_prefix_cons]
      cases r with
      | nil => simp
      | cons d r =>
        rw [List.cons_prefix_cons, List.head?_cons, Option.some_inj]
        exact and_congr eq_comm ((and_iff_left List.nil_prefix).trans eq_comm)
    simp only [hpeek, hb, hslash', hsame _ (show '>'.toNat < 128 by decide),
      hsame _ (show '/'.toNat < 128 by decide), readRound, hslice, Option.bind_eq_bind,
      Option.bind_some, Option.map_some]
    split
    · rename_i hc
      obtain ⟨rfl, hr⟩ := hc
      obtain ⟨t, rfl⟩ := List.head?_eq_some_iff.1 hr
      exact ⟨here + 2, rfl, (hhere.succ (by decide)).succ (by decide)⟩
    · split
      · rename_i hc
        exact ⟨here + 1, rfl, hhere.succ (by rw [hc]; decide)⟩
      · split
        · rename_i hc
          exact ⟨here + 1, rfl, hhere.succ (by rw [hc]; decide)⟩
        · obtain ⟨m, hattribute, hstands⟩ := scanAttribute_stands gap' hhere
          rw [hattribute]
          exact ⟨m, rfl, hstands⟩

theorem exists_readRound (gap v : List Char) :
    ∃ w, w ++ (readRound gap v).2 = v ∧ (v ≠ [] → w ≠ []) := by
  cases v with
  | nil => exact ⟨[], rfl, fun h => absurd rfl h⟩
  | cons c r =>
    rw [readRound]
    split
    · rename_i hc
      obtain ⟨rfl, hr⟩ := hc
      obtain ⟨t, rfl⟩ := List.head?_eq_some_iff.1 hr
      exact ⟨['/', '>'], rfl, by simp⟩
    · split
      · exact ⟨[c], rfl, by simp⟩
      · split
        · exact ⟨[c], rfl, by simp⟩
        · have hsource := source_readAttribute gap c r
          rw [WrittenAttribute.source, List.append_assoc, List.append_assoc] at hsource
          refine ⟨(readAttribute gap c r).1.name ++
            (readAttribute gap c r).1.assignment.elim [] Assignment.source, ?_, ?_⟩
          · rw [List.append_assoc]
            exact List.append_cancel_left hsource
          · simp [readAttribute]

theorem lt_of_scanRound {m : Nat} {r : TagRound} (hgap : Stands s start (gap ++ v))
    (h : Stands s n v) (hround : scanRound s start n = some (r, m)) :
    isBoundary s m = true ∧ n ≤ m ∧ m ≤ byteLength s ∧ (n < byteLength s → n < m) := by
  obtain ⟨m', hfound, hstands⟩ := scanRound_stands hgap h
  rw [hround] at hfound
  obtain ⟨-, rfl⟩ := Prod.mk.inj (Option.some.inj hfound)
  obtain ⟨w, hw, hne⟩ := exists_readRound (gap ++ v.takeWhile isSpace) (v.dropWhile isSpace)
  have hspace := congrArg byteLength (List.takeWhile_append_dropWhile (p := isSpace) (l := v))
  rw [← hw, byteLength_append, byteLength_append] at hspace
  have hlength := h.length_eq
  rw [hstands.length_eq] at hlength
  refine ⟨hstands.isBoundary, by omega, hstands.le, fun hlt => ?_⟩
  -- either white space was skipped, or the round took something behind it
  by_cases hnil : v.dropWhile isSpace = []
  · rw [hstands.length_eq] at hlt
    have htail : (readRound (gap ++ v.takeWhile isSpace) (v.dropWhile isSpace)).2 = [] := by
      rw [hnil]
      rfl
    rw [htail, byteLength_nil] at hlt
    omega
  · have hpos := byteLength_pos (hne hnil)
    omega

theorem readGap_space (v : List Char) : readGap v =
    (v.takeWhile isSpace ++ (readGap (v.dropWhile isSpace)).1,
      (readGap (v.dropWhile isSpace)).2) := by
  induction v with
  | nil => rfl
  | cons c v ih =>
    by_cases hc : isSpace c = true
    · rw [readGap, if_pos (by simp [hc]), List.takeWhile_cons_of_pos hc,
        List.dropWhile_cons_of_pos hc, ih]
      rfl
    · rw [List.takeWhile_cons_of_neg hc, List.dropWhile_cons_of_neg hc]
      rfl

theorem readGap_of_stop {r : List Char} (hc : isSpace c = false)
    (hr : c = '/' → r.head? = some '>') : readGap (c :: r) = ([], c :: r) := by
  rw [readGap, if_neg]
  rw [hc, Bool.false_or, Bool.and_eq_true, beq_iff_eq, bne_iff_ne]
  exact fun h => h.2 (hr h.1)

theorem readAttributes_of_gap (h : readGap s = (gap, [])) :
    readAttributes s = ([], gap, .cutOff, []) := by
  rw [readAttributes]
  split
  · rename_i hgap
    rw [h] at hgap
    rw [(Prod.mk.inj hgap).1]
  · rename_i hgap
    rw [h] at hgap
    cases (Prod.mk.inj hgap).2

theorem readAttributes_of_gap_cons {r : List Char} (h : readGap s = (gap, c :: r)) :
    readAttributes s =
      if c = '>' then ([], gap, .bracket, r)
      else if c = '/' ∧ r.head? = some '>' then ([], gap, .slash, r.tail)
      else ((readAttribute gap c r).1 :: (readAttributes (readAttribute gap c r).2).1,
        (readAttributes (readAttribute gap c r).2).2) := by
  rw [readAttributes]
  split
  · rename_i hgap
    rw [h] at hgap
    cases (Prod.mk.inj hgap).2
  · rename_i hgap
    rw [h] at hgap
    obtain ⟨rfl, hcons⟩ := Prod.mk.inj hgap
    obtain ⟨rfl, rfl⟩ := List.cons.inj hcons
    rfl

def Joins (gap v : List Char) : Prop :=
  readGap (gap ++ v) = (gap ++ (readGap v).1, (readGap v).2)

def TagRound.Begins (whole rest : List Char) : TagRound → Prop
  | .closing gap kind => readAttributes whole = ([], gap, kind, rest)
  | .slash => ∃ gap, gap ++ rest = whole ∧ Joins gap rest
  | .written a => readAttributes whole = (a :: (readAttributes rest).1, (readAttributes rest).2)

theorem readRound_begins (hjoins : Joins gap v) :
    (readRound (gap ++ v.takeWhile isSpace) (v.dropWhile isSpace)).1.Begins (gap ++ v)
      (readRound (gap ++ v.takeWhile isSpace) (v.dropWhile isSpace)).2 := by
  have htext : gap ++ v = (gap ++ v.takeWhile isSpace) ++ v.dropWhile isSpace := by
    rw [List.append_assoc, List.takeWhile_append_dropWhile]
  have hgap : readGap (gap ++ v) = (gap ++ v.takeWhile isSpace ++ (readGap (v.dropWhile isSpace)).1,
      (readGap (v.dropWhile isSpace)).2) := by
    rw [hjoins, readGap_space v, List.append_assoc]
  generalize gap ++ v.takeWhile isSpace = gap' at *
  cases hu : v.dropWhile isSpace with
  | nil =>
    rw [hu] at hgap
    rw [readGap, List.append_nil] at hgap
    exact readAttributes_of_gap hgap
  | cons c r =>
    have hc : isSpace c = false := by
      have hhead := List.head?_dropWhile_not isSpace v
      rw [hu] at hhead
      simpa using hhead
    rw [hu] at hgap htext
    by_cases hslash : c = '/' ∧ r.head? = some '>'
    · rw [readGap_of_stop hc fun _ => hslash.2, List.append_nil] at hgap
      rw [readRound, if_pos hslash, TagRound.Begins, readAttributes_of_gap_cons hgap,
        if_neg (by rw [hslash.1]; decide), if_pos hslash]
    by_cases hbracket : c = '>'
    · rw [readGap_of_stop hc fun h => absurd (hbracket.symm.trans h) (by decide),
        List.append_nil] at hgap
      rw [readRound, if_neg hslash, if_pos hbracket, TagRound.Begins,
        readAttributes_of_gap_cons hgap, if_pos hbracket]
    by_cases hlone : c = '/'
    · -- the slash joins the gap
      rw [readRound, if_neg hslash, if_neg hbracket, if_pos hlone]
      have hmore : readGap (c :: r) = (c :: (readGap r).1, (readGap r).2) := by
        rw [readGap, if_pos]
        have hr : r.head? ≠ some '>' := fun hr => hslash ⟨hlone, hr⟩
        simp [hlone, hr]
      refine ⟨gap' ++ [c], by rw [htext, List.append_assoc, List.singleton_append], ?_⟩
      rw [Joins, List.append_assoc, List.singleton_append, ← htext, hgap, hmore,
        List.append_assoc, List.singleton_append]
    · rw [readGap_of_stop hc fun h => absurd h hlone, List.append_nil] at hgap
      rw [readRound, if_neg hslash, if_neg hbracket, if_neg hlone, TagRound.Begins,
        readAttributes_of_gap_cons hgap, if_neg hbracket, if_neg hslash]

theorem scanRounds_stands (hgap : Stands s start (gap ++ v)) (h : Stands s n v)
    (hjoins : Joins gap v) :
    ∃ m, scanRounds s start n = some ((readAttributes (gap ++ v)).1,
        (readAttributes (gap ++ v)).2.1, (readAttributes (gap ++ v)).2.2.1, m) ∧
      Stands s m (readAttributes (gap ++ v)).2.2.2 := by
  induction hk : byteLength v using Nat.strong_induction_on generalizing v gap start n with
  | _ k ih =>
    obtain ⟨m, hround, hstands⟩ := scanRound_stands hgap h
    obtain ⟨-, -, hle, hlt⟩ := lt_of_scanRound hgap h hround
    have hbegins := readRound_begins hjoins
    have hend : v = [] → (readRound (gap ++ v.takeWhile isSpace) (v.dropWhile isSpace)).1 =
        .closing gap .cutOff := by
      rintro rfl
      exact congrArg (TagRound.closing · _) (List.append_nil gap)
    have hmove : v ≠ [] → n < m ∧ m ≤ byteLength s := by
      intro hv
      have hpos := byteLength_pos hv
      exact ⟨hlt (by rw [h.length_eq]; omega), hle⟩
    have hlength := h.length_eq
    rw [hstands.length_eq] at hlength
    generalize readRound (gap ++ v.takeWhile isSpace) (v.dropWhile isSpace) = found at *
    obtain ⟨round, rest⟩ := found
    cases round with
    | closing g kind =>
      rw [scanRounds, hround, hbegins]
      exact ⟨m, rfl, hstands⟩
    | slash =>
      obtain ⟨hn, hm⟩ := hmove (fun hv => nomatch hend hv)
      obtain ⟨gap', htext, hjoins'⟩ := hbegins
      rw [scanRounds, hround, ← htext]
      simp only [if_pos (And.intro hn hm)]
      have hshorter : byteLength rest < k := by dsimp only at hlength; omega
      exact ih (byteLength rest) hshorter (htext ▸ hgap) hstands hjoins' rfl
    | written a =>
      obtain ⟨hn, hm⟩ := hmove (fun hv => nomatch hend hv)
      have hnone : Stands s m ([] ++ rest) := hstands
      obtain ⟨m', hrounds, hstands'⟩ :=
        ih (byteLength rest) (by dsimp only at hlength; omega) hnone hstands rfl rfl
      rw [List.nil_append] at hrounds hstands'
      rw [scanRounds, hround, hbegins]
      simp only [if_pos (And.intro hn hm), hrounds]
      exact ⟨m', rfl, hstands'⟩

end MarkupSplice.Markup
