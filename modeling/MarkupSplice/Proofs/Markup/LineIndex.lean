import MarkupSplice.Proofs.Markup.Lines
import MarkupSplice.Proofs.Markup.Rounds

/-!
# An index of lines

Once it is known where the lines of a text start, a position can be looked up by its
offset alone: the line is found by halving the list of starts, the column by counting
the characters behind the start (`LineIndex.position?`). Between any two characters of the
text that leads to the place where a walk from its beginning stands
(`LineIndex.position_append`), and so to every position that a document records
(`positions_exact`).
-/
namespace MarkupSplice
open Markup Text

def Text.feedEnds (n : Nat) : List Char → List Nat
  | [] => []
  | c :: s =>
    if c = '\n' then (n + c.utf8Size) :: feedEnds (n + c.utf8Size) s
    else feedEnds (n + c.utf8Size) s

def Text.lineStarts (s : List Char) : List Nat := 0 :: feedEnds 0 s

structure LineIndex where
  starts : Array Nat

namespace LineIndex

def ofText (s : List Char) : LineIndex := ⟨(lineStarts s).toArray⟩

variable (x : LineIndex)

/-- Halves a stretch of the starts until one is left, and keeps the half whose first start is not
behind the offset `n`. -/
def narrow (n base size : Nat) : Nat :=
  if 1 < size then
    let half := size / 2
    if x.starts[base + half]?.any (· ≤ n) then narrow n (base + half) (size - half)
    else narrow n base (size - half)
  else base
termination_by size

/-- The index of the start at `n`, or the one at which `n` would be put in. -/
def search (n : Nat) : Except Nat Nat :=
  let i := x.narrow n 0 x.starts.size
  match x.starts[i]? with
  | none => .error i
  | some start =>
    if start = n then .ok i
    else if start < n then .error (i + 1)
    else .error i

def line? (n : Nat) : Option Nat :=
  match x.search n with
  | .ok line => some line
  | .error 0 => none
  | .error (next + 1) => some next

def position? (s : List Char) (n : Nat) : Option Position := do
  let line ← x.line? n
  let start ← x.starts[line]?
  guard (start ≤ n)
  return ⟨n, line + 1, ((slice? s start n).elim (n - start) List.length) + 1⟩

end LineIndex

namespace Text

variable {m n : Nat} {s u v : List Char}

theorem feedEnds_append (n : Nat) (u v : List Char) :
    feedEnds n (u ++ v) = feedEnds n u ++ feedEnds (n + byteLength u) v := by
  induction u generalizing n with
  | nil => rfl
  | cons c u ih =>
    rw [List.cons_append, feedEnds, feedEnds, ih, byteLength_cons, Nat.add_assoc]
    split <;> rfl

theorem length_feedEnds (n : Nat) (s : List Char) : (feedEnds n s).length = s.count '\n' := by
  induction s generalizing n with
  | nil => rfl
  | cons c s ih =>
    rw [feedEnds]
    by_cases hc : c = '\n'
    · rw [if_pos hc, List.length_cons, ih, hc, List.count_cons_self]
    · rw [if_neg hc, ih, List.count_cons_of_ne hc]

theorem between_of_mem_feedEnds (h : m ∈ feedEnds n s) : n < m ∧ m ≤ n + byteLength s := by
  induction s generalizing n with
  | nil => cases h
  | cons c s ih =>
    have hpos := c.utf8Size_pos
    have hrest : m ∈ feedEnds (n + c.utf8Size) s → n < m ∧ m ≤ n + byteLength (c :: s) := by
      intro hm
      have hbetween := ih hm
      rw [byteLength_cons]
      omega
    rw [feedEnds] at h
    split at h
    · rcases List.mem_cons.1 h with rfl | h
      · rw [byteLength_cons]
        omega
      · exact hrest h
    · exact hrest h

theorem length_lineStarts (s : List Char) : (lineStarts s).length = s.count '\n' + 1 := by
  rw [lineStarts, List.length_cons, length_feedEnds]

theorem lineStarts_append (u v : List Char) :
    lineStarts (u ++ v) = lineStarts u ++ feedEnds (byteLength u) v := by
  rw [lineStarts, feedEnds_append, Nat.zero_add, lineStarts, List.cons_append]

theorem le_of_mem_lineStarts (h : m ∈ lineStarts s) : m ≤ byteLength s := by
  rcases List.mem_cons.1 h with rfl | h
  · exact Nat.zero_le _
  · have hbetween := between_of_mem_feedEnds h
    omega

theorem last_lineStarts (s : List Char) :
    (lineStarts s)[s.count '\n']? = some (byteLength (earlierLines s)) := by
  induction s using List.reverseRecOn with
  | nil => rfl
  | append_singleton s c ih =>
    have hlength := length_lineStarts s
    rw [lineStarts_append, earlierLines, List.rdropWhile_concat, List.count_append]
    by_cases hc : c = '\n'
    · subst hc
      rw [List.getElem?_append_right (by rw [hlength]; simp)]
      simp [hlength, feedEnds]
    · have hnone : feedEnds (byteLength s) [c] = [] := if_neg hc
      have hzero : [c].count '\n' = 0 := List.count_eq_zero.2 (by simpa using Ne.symm hc)
      rw [hnone, List.append_nil, hzero, Nat.add_zero, ih, if_pos (by simpa using hc)]
      rfl

end Text

namespace LineIndex

variable {x : LineIndex} {k n base size : Nat} {s u v : List Char}

theorem narrow_eq (hk : ∀ i, x.starts[i]?.any (· ≤ n) = true ↔ i < k) (hbase : base < k)
    (hsize : k ≤ base + size) : x.narrow n base size + 1 = k := by
  fun_induction narrow x n base size with
  | case1 base size hlarge half hstart ih =>
    have hhalf : half = size / 2 := rfl
    exact ih ((hk _).1 hstart) (by omega)
  | case2 base size hlarge half hstart ih =>
    have hhalf : half = size / 2 := rfl
    have hmid := mt (hk _).2 hstart
    exact ih hbase (by omega)
  | case3 base size hsmall => omega

theorem line_eq (hk : ∀ i, x.starts[i]?.any (· ≤ n) = true ↔ i < k + 1)
    (hsize : k < x.starts.size) : x.line? n = some k := by
  have hindex : x.narrow n 0 x.starts.size = k :=
    Nat.succ_inj.1 (narrow_eq hk (Nat.succ_pos k) (by omega))
  have hstart := (hk k).2 (Nat.lt_succ_self k)
  rw [Array.getElem?_eq_getElem hsize, Option.any_some, decide_eq_true_iff] at hstart
  rw [line?, search, hindex]
  simp only [Array.getElem?_eq_getElem hsize]
  rcases Nat.eq_or_lt_of_le hstart with heq | hlt
  · rw [if_pos heq]
  · rw [if_neg (Nat.ne_of_lt hlt), if_pos hlt]

theorem starts_le_iff (u v : List Char) (i : Nat) :
    (ofText (u ++ v)).starts[i]?.any (· ≤ byteLength u) = true ↔ i < u.count '\n' + 1 := by
  rw [ofText, List.getElem?_toArray, lineStarts_append, ← length_lineStarts]
  by_cases hi : i < (lineStarts u).length
  · rw [List.getElem?_append_left hi, List.getElem?_eq_getElem hi, Option.any_some,
      decide_eq_true_iff]
    exact iff_of_true (le_of_mem_lineStarts (List.getElem_mem hi)) hi
  · rw [List.getElem?_append_right (Nat.not_lt.1 hi)]
    refine iff_of_false (fun h => ?_) hi
    cases hm : (feedEnds (byteLength u) v)[i - (lineStarts u).length]? with
    | none =>
      rw [hm] at h
      cases h
    | some m =>
      have hbehind := (between_of_mem_feedEnds (List.mem_of_getElem? hm)).1
      rw [hm, Option.any_some, decide_eq_true_iff] at h
      omega

/-- Between two characters the index leads to the place where a walk from the beginning stands. -/
theorem position_append (u v : List Char) :
    (ofText (u ++ v)).position? (u ++ v) (byteLength u) = some (.advance .origin u) := by
  have hstart : (ofText (u ++ v)).starts[u.count '\n']? = some (byteLength (earlierLines u)) := by
    have hlast := last_lineStarts u
    rw [ofText, List.getElem?_toArray, lineStarts_append,
      List.getElem?_append_left (List.getElem?_eq_some_iff.1 hlast).1, hlast]
  have hline : (ofText (u ++ v)).line? (byteLength u) = some (u.count '\n') :=
    line_eq (starts_le_iff u v) (Array.getElem?_eq_some_iff.1 hstart).1
  have hu := earlierLines_append_lastLine u
  have hstands : Stands (u ++ v) (byteLength (earlierLines u)) (lastLine u ++ v) :=
    ⟨earlierLines u, by rw [← List.append_assoc, hu], rfl⟩
  have hlength : byteLength u = byteLength (earlierLines u) + byteLength (lastLine u) := by
    rw [← byteLength_append, hu]
  have hslice := hstands.slice?_eq
  rw [← hlength] at hslice
  have hle : byteLength (earlierLines u) ≤ byteLength u := by omega
  rw [position?, hline]
  simp [hstart, hslice, hle, Position.advance_origin]

end LineIndex

/-- However often the node of a text is extended while the text is read round by round, every
position that the document records counts the line feeds in front of it and the characters behind
the last of them, and is the one that the index of lines leads to from its offset. The positions
come in one order, by their offsets as by their lines and columns. -/
theorem positions_exact (f : Flavor) (text : String) :
    let s := (Document.stripMark text.toList).1
    let d := Document.parse f text
    (rounds f s 0).map (Document.ofRounds f d.hasMark) = some d ∧
    (∀ p ∈ d.positions, ∃ front rest, s = front ++ rest ∧ p.offset = byteLength front ∧
      p.line = front.count '\n' + 1 ∧ p.column = (lastLine front).length + 1 ∧
      (LineIndex.ofText s).position? s p.offset = some p) ∧
    ∀ p ∈ d.positions, ∀ q ∈ d.positions,
      (p.offset < q.offset ↔ p.lineColumn < q.lineColumn) ∧ (p.offset = q.offset ↔ p = q) := by
  intro s d
  refine ⟨Document.ofRounds_eq f _ s, fun p hp => ?_, fun p hp q hq => ?_⟩
  · obtain ⟨front, ⟨rest, hs⟩, rfl⟩ := Document.inside_positions hp
    refine ⟨front, rest, hs.symm, Position.offset_advance_origin front,
      Position.line_advance_origin front, Position.column_advance_origin front, ?_⟩
    rw [Position.offset_advance_origin, ← LineIndex.position_append front rest, hs]
  · have hpin := Document.inside_positions hp
    have hqin := Document.inside_positions hq
    exact ⟨hpin.lt_iff hqin, hpin.eq_of_offset_eq hqin, congrArg Position.offset⟩

theorem positions_exact_extended :
    let s := "<p>\n海 < 猫</p>".toList
    let d := Document.parse .html "<p>\n海 < 猫</p>"
    let start : Position := ⟨3, 1, 4⟩
    let stop : Position := ⟨13, 2, 6⟩
    (rounds .html s 0).map List.length = some 4 ∧ d.nodes.map Node.range =
      #[⟨.origin, start⟩, ⟨start, stop⟩] ∧
    start ∈ d.positions ∧ stop ∈ d.positions ∧ start.lineColumn < stop.lineColumn ∧
    (LineIndex.ofText s).position? s 13 = some stop := by
  intro s d start stop
  have hstart : start ∈ d.positions := by decide +kernel
  have hstop : stop ∈ d.positions := by decide +kernel
  have hs : (Document.stripMark "<p>\n海 < 猫</p>".toList).1 = s := by decide +kernel
  obtain ⟨-, hexact, horder⟩ := positions_exact .html "<p>\n海 < 猫</p>"
  obtain ⟨front, rest, -, -, -, -, hindex⟩ := hexact stop hstop
  rw [hs] at hindex
  exact ⟨by decide +kernel, by decide +kernel, hstart, hstop,
    (horder start hstart stop hstop).1.1 (by decide), hindex⟩

end MarkupSplice
