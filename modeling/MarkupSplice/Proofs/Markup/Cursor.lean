import MarkupSplice.Markup.Piece
import MarkupSplice.Text.Bytes
import MarkupSplice.Proofs.Text.Ascii

/-!
# Cursors over bytes

A cursor counts bytes and may stop at any of them, while texts are cut between
characters only. What is found by looking at single bytes, white space, a
closing character or a word, is the same as what is found by looking at
characters, as long as all characters outside ASCII count as one kind
(`Flat`): a cursor that stands in front of a character then stops in front of
a character again (`Stands`).
-/
namespace MarkupSplice.Markup
open Text

/-- The bytes of a text, each taken for the character of its number. -/
def units (s : List Char) : List Char :=
  s.flatMap fun c => (String.utf8EncodeChar c).map Char.ofUInt8

def Flat (p : Char → Bool) : Prop := ∀ c d : Char, 128 ≤ c.toNat → 128 ≤ d.toNat → p c = p d

variable {s u v w : List Char} {c : Char} {p : Char → Bool}

@[simp] theorem units_nil : units [] = [] := rfl

theorem units_append (s t : List Char) : units (s ++ t) = units s ++ units t := List.flatMap_append

theorem length_units (s : List Char) : (units s).length = byteLength s := by
  induction s with
  | nil => rfl
  | cons c s ih =>
    rw [units, List.flatMap_cons, List.length_append, List.length_map,
      String.length_utf8EncodeChar, byteLength_cons]
    exact congrArg _ ih

theorem units_cons_of_ascii (hc : c.toNat < 128) (s : List Char) :
    units (c :: s) = c :: units s := by
  have hunit : (String.utf8EncodeChar c).map Char.ofUInt8 = [c] := by
    rw [String.utf8EncodeChar_eq_singleton (utf8Size_of_ascii hc), List.map_singleton,
      List.singleton_inj, ← Char.toNat_inj]
    change c.toNat % 256 = c.toNat
    omega
  rw [units, List.flatMap_cons, hunit]
  rfl

theorem le_of_mem_utf8 (hc : 128 ≤ c.toNat) {b : UInt8} (hb : b ∈ String.utf8EncodeChar c) :
    128 ≤ b.toNat := by
  have hbyte : ∀ n k m, 0 < k → 128 ≤ m → k + m ≤ 256 → 128 ≤ (UInt8.ofNat (n % k + m)).toNat := by
    intro n k m hk hm hsum
    have hmod := Nat.mod_lt n hk
    rw [UInt8.toNat_ofNat']
    omega
  have hwide : ¬c.val.toNat ≤ 127 := Nat.not_le.2 hc
  simp only [String.utf8EncodeChar, if_neg hwide] at hb
  split at hb
  · simp only [List.mem_cons, List.not_mem_nil, or_false] at hb
    rcases hb with rfl | rfl <;> exact hbyte _ _ _ (by omega) (by omega) (by omega)
  · split at hb
    · simp only [List.mem_cons, List.not_mem_nil, or_false] at hb
      rcases hb with rfl | rfl | rfl <;> exact hbyte _ _ _ (by omega) (by omega) (by omega)
    · simp only [List.mem_cons, List.not_mem_nil, or_false] at hb
      rcases hb with rfl | rfl | rfl | rfl <;> exact hbyte _ _ _ (by omega) (by omega) (by omega)

theorem units_cons_of_wide (hc : 128 ≤ c.toNat) (s : List Char) :
    ∃ bs, units (c :: s) = bs ++ units s ∧ bs.length = c.utf8Size ∧ ∀ b ∈ bs, 128 ≤ b.toNat := by
  refine ⟨(String.utf8EncodeChar c).map Char.ofUInt8, rfl, ?_, fun d hd => ?_⟩
  · rw [List.length_map, String.length_utf8EncodeChar]
  · obtain ⟨b, hb, rfl⟩ := List.mem_map.1 hd
    exact le_of_mem_utf8 hc hb

theorem drop_units (u v : List Char) : (units (u ++ v)).drop (byteLength u) = units v := by
  rw [units_append, ← length_units, List.drop_left]

theorem head?_units (hc : c.toNat < 128) : (units s).head? = some c ↔ s.head? = some c := by
  cases s with
  | nil => rfl
  | cons d s =>
    by_cases hd : d.toNat < 128
    · rw [units_cons_of_ascii hd]
      rfl
    · obtain ⟨bs, hunits, hlength, hbs⟩ := units_cons_of_wide (Nat.not_lt.1 hd) s
      rw [hunits]
      cases bs with
      | nil => exact absurd hlength (Nat.ne_of_lt d.utf8Size_pos)
      | cons b bs =>
        have hb := hbs b List.mem_cons_self
        simp only [List.cons_append, List.head?_cons, Option.some.injEq]
        constructor
        · rintro rfl
          omega
        · rintro rfl
          omega

theorem exists_head_units (c : Char) (s : List Char) : ∃ b, (units (c :: s)).head? = some b ∧
    ∀ d : Char, d.toNat < 128 → (b = d ↔ c = d) := by
  have hne : units (c :: s) ≠ [] := by
    have hpos := c.utf8Size_pos
    rw [← List.length_pos_iff, length_units, byteLength_cons]
    omega
  refine ⟨(units (c :: s)).head hne, List.head?_eq_some_head hne, fun d hd => ?_⟩
  have hiff := head?_units (s := c :: s) hd
  rwa [List.head?_eq_some_head hne, Option.some_inj, List.head?_cons, Option.some_inj] at hiff

theorem exists_head_of_flat (hp : Flat p) (c : Char) (s : List Char) :
    ∃ b, (units (c :: s)).head? = some b ∧ p b = p c := by
  obtain ⟨b, hb, hsame⟩ := exists_head_units c s
  refine ⟨b, hb, ?_⟩
  by_cases hc : c.toNat < 128
  · rw [(hsame c hc).2 rfl]
  · -- a byte in ASCII would be the character itself
    have hwide : 128 ≤ b.toNat := by
      refine Nat.not_lt.1 fun hb' => ?_
      have hbc := (hsame b hb').1 rfl
      exact hc (hbc ▸ hb')
    exact hp b c hwide (Nat.not_lt.1 hc)

theorem units_of_ascii (hs : ∀ c ∈ s, c.toNat < 128) (v : List Char) :
    units (s ++ v) = s ++ units v := by
  induction s with
  | nil => rfl
  | cons c s ih =>
    obtain ⟨hc, hs⟩ := List.forall_mem_cons.1 hs
    rw [List.cons_append, units_cons_of_ascii hc, ih hs, List.cons_append]

theorem isPrefixOf_units (hw : ∀ c ∈ w, c.toNat < 128) :
    w.isPrefixOf (units s) = w.isPrefixOf s := by
  induction w generalizing s with
  | nil => rfl
  | cons c w ih =>
    obtain ⟨hc, hw⟩ := List.forall_mem_cons.1 hw
    by_cases hhead : s.head? = some c
    · obtain ⟨s, rfl⟩ := List.head?_eq_some_iff.1 hhead
      rw [units_cons_of_ascii hc, List.isPrefixOf_cons_cons, List.isPrefixOf_cons_cons, ih hw]
    · have hnot : ∀ t : List Char, t.head? ≠ some c → (c :: w).isPrefixOf t = false := by
        intro t ht
        cases t with
        | nil => rfl
        | cons d t =>
          have hne : c ≠ d := fun heq => ht (by rw [heq, List.head?_cons])
          simp [List.isPrefixOf_cons_cons, hne]
      rw [hnot s hhead, hnot _ (by rwa [Ne, head?_units hc])]

theorem length_takeWhile_units (hp : Flat p) (s : List Char) :
    ((units s).takeWhile p).length = byteLength (s.takeWhile p) := by
  induction s with
  | nil => rfl
  | cons c s ih =>
    by_cases hc : c.toNat < 128
    · rw [units_cons_of_ascii hc]
      cases hpc : p c with
      | false => simp [hpc]
      | true =>
        rw [List.takeWhile_cons_of_pos hpc, List.takeWhile_cons_of_pos hpc, List.length_cons, ih,
          byteLength_cons, utf8Size_of_ascii hc, Nat.add_comm]
    · obtain ⟨bs, hunits, hlength, hbs⟩ := units_cons_of_wide (Nat.not_lt.1 hc) s
      have hsame : ∀ b ∈ bs, p b = p c := fun b hb => hp b c (hbs b hb) (Nat.not_lt.1 hc)
      rw [hunits]
      cases hpc : p c with
      | true =>
        rw [List.takeWhile_append_of_pos (fun b hb => (hsame b hb).trans hpc),
          List.takeWhile_cons_of_pos hpc, List.length_append, ih, hlength, byteLength_cons]
      | false =>
        cases bs with
        | nil => exact absurd hlength (Nat.ne_of_lt c.utf8Size_pos)
        | cons b bs =>
          have hb := (hsame b List.mem_cons_self).trans hpc
          simp [hb, hpc]

theorem flat_of_ascii (h : ∀ c : Char, 128 ≤ c.toNat → p c = false) : Flat p :=
  fun c d hc hd => (h c hc).trans (h d hd).symm

theorem Flat.not (hp : Flat p) : Flat fun c => !p c :=
  fun c d hc hd => congrArg _ (hp c d hc hd)

theorem beq_of_wide {d : Char} (hd : d.toNat < 128) (hc : 128 ≤ c.toNat) : (c == d) = false := by
  rw [beq_eq_false_iff_ne]
  rintro rfl
  omega

theorem isSpace_of_wide (hc : 128 ≤ c.toNat) : isSpace c = false := by
  simp [isSpace, beq_of_wide _ hc]

theorem endsTagName_of_wide (hc : 128 ≤ c.toNat) : endsTagName c = false := by
  simp [endsTagName, isSpace_of_wide hc, beq_of_wide _ hc]

theorem endsAttributeName_of_wide (hc : 128 ≤ c.toNat) : endsAttributeName c = false := by
  simp [endsAttributeName, endsTagName_of_wide hc, beq_of_wide _ hc]

theorem isAlpha_of_wide (hc : 128 ≤ c.toNat) : c.isAlpha = false := by
  rw [Bool.eq_false_iff, ne_eq, isAlpha_iff]
  omega

theorem flat_isAlpha : Flat Char.isAlpha := flat_of_ascii fun _ => isAlpha_of_wide

theorem flat_isSpace : Flat isSpace := flat_of_ascii fun _ => isSpace_of_wide

theorem flat_endsTagName : Flat endsTagName := flat_of_ascii fun _ => endsTagName_of_wide

theorem flat_endsAttributeName : Flat endsAttributeName :=
  flat_of_ascii fun _ => endsAttributeName_of_wide

/-- Looking one byte ahead for the end of `/>` comes to the same as looking one character ahead. -/
theorem length_readUnquoted_units (s : List Char) :
    (readUnquoted (units s)).1.length = byteLength (readUnquoted s).1 := by
  induction s with
  | nil => rfl
  | cons c s ih =>
    by_cases hc : c.toNat < 128
    · have hhead : ((units s).head? == some '>') = (s.head? == some '>') := by
        rw [Bool.eq_iff_iff, beq_iff_eq, beq_iff_eq, head?_units (by decide)]
      rw [units_cons_of_ascii hc, readUnquoted, readUnquoted, hhead]
      split
      · rfl
      · rw [List.length_cons, ih, byteLength_cons, utf8Size_of_ascii hc, Nat.add_comm]
    · obtain ⟨bs, hunits, hlength, hbs⟩ := units_cons_of_wide (Nat.not_lt.1 hc) s
      have htaken : ∀ d : Char, 128 ≤ d.toNat → ∀ t : List Char,
          (isSpace d || d == '>' || (d == '/' && t.head? == some '>')) = false := by
        intro d hd t
        simp [isSpace_of_wide hd, beq_of_wide _ hd]
      have hwide : ∀ t, (readUnquoted (bs ++ t)).1 = bs ++ (readUnquoted t).1 := by
        intro t
        clear hunits hlength
        induction bs with
        | nil => rfl
        | cons b bs ihb =>
          obtain ⟨hb, hbs⟩ := List.forall_mem_cons.1 hbs
          rw [List.cons_append, readUnquoted, htaken b hb, List.cons_append, ← ihb hbs]
          rfl
      rw [hunits, hwide, List.length_append, hlength, ih, readUnquoted, htaken c (Nat.not_lt.1 hc)]
      rfl

/-- Whether a cursor stands in front of `v`, which runs to the end of the text `s`. -/
def Stands (s : List Char) (n : Nat) (v : List Char) : Prop := ∃ u, s = u ++ v ∧ n = byteLength u

def slice? (s : List Char) (a b : Nat) : Option (List Char) :=
  if a ≤ b then (cutBytes s a).bind fun x => (cutBytes x.2 (b - a)).map Prod.fst else none

def peek (s : List Char) (n : Nat) : Option Char := (units s)[n]?

def startsWith (s w : List Char) (n : Nat) : Bool := w.isPrefixOf ((units s).drop n)

def skip (p : Char → Bool) (s : List Char) (n : Nat) : Nat :=
  n + (((units s).drop n).takeWhile p).length

def find (s w : List Char) (n : Nat) : Option Nat :=
  (cutBytes s n).bind fun x => (cutAt w x.2).map fun y => n + byteLength y.1

variable {n m : Nat}

theorem stands_zero (s : List Char) : Stands s 0 s := ⟨[], rfl, rfl⟩

namespace Stands

theorem behind (h : Stands s n (u ++ v)) : Stands s (n + byteLength u) v := by
  obtain ⟨front, rfl, rfl⟩ := h
  exact ⟨front ++ u, (List.append_assoc _ _ _).symm, (byteLength_append _ _).symm⟩

theorem succ (h : Stands s n (c :: v)) (hc : c.toNat < 128) : Stands s (n + 1) v := by
  have hbehind := h.behind (u := [c])
  rwa [byteLength_cons, utf8Size_of_ascii hc, byteLength_nil] at hbehind

theorem length_eq (h : Stands s n v) : byteLength s = n + byteLength v := by
  obtain ⟨front, rfl, rfl⟩ := h
  exact byteLength_append _ _

theorem le (h : Stands s n v) : n ≤ byteLength s := h.length_eq ▸ Nat.le_add_right _ _

theorem eq_length (h : Stands s n []) : n = byteLength s := h.length_eq.symm

theorem cutBytes_eq (h : Stands s n v) : ∃ u, cutBytes s n = some (u, v) := by
  obtain ⟨front, rfl, rfl⟩ := h
  exact ⟨front, cutBytes_byteLength _ _⟩

theorem isBoundary (h : Stands s n v) : isBoundary s n = true := by
  obtain ⟨u, hcut⟩ := h.cutBytes_eq
  rw [Text.isBoundary, hcut]
  rfl

theorem slice?_eq (h : Stands s n (u ++ v)) : slice? s n (n + byteLength u) = some u := by
  obtain ⟨front, hcut⟩ := h.cutBytes_eq
  rw [slice?, if_pos (Nat.le_add_right _ _), hcut, Option.bind_some, Nat.add_sub_cancel_left,
    cutBytes_byteLength]
  rfl

theorem slice?_rest (h : Stands s n v) : slice? s n (byteLength s) = some v := by
  rw [h.length_eq]
  apply slice?_eq (v := [])
  rwa [List.append_nil]

theorem finish (h : Stands s n v) : Stands s (byteLength s) [] := by
  obtain ⟨front, rfl, rfl⟩ := h
  exact ⟨front ++ v, (List.append_nil _).symm, rfl⟩

theorem peek_eq (h : Stands s n v) : peek s n = (units v).head? := by
  obtain ⟨front, rfl, rfl⟩ := h
  rw [peek, ← drop_units front v, List.head?_drop]

theorem all_peek (h : Stands s n v) (hp : Flat p) : (peek s n).all p = v.head?.all p := by
  rw [h.peek_eq]
  cases v with
  | nil => rfl
  | cons c v =>
    obtain ⟨b, hb, hsame⟩ := exists_head_of_flat hp c v
    rw [hb, Option.all_some, List.head?_cons, Option.all_some, hsame]

theorem any_peek (h : Stands s n v) (hp : Flat p) : (peek s n).any p = v.head?.any p := by
  rw [h.peek_eq]
  cases v with
  | nil => rfl
  | cons c v =>
    obtain ⟨b, hb, hsame⟩ := exists_head_of_flat hp c v
    rw [hb, Option.any_some, List.head?_cons, Option.any_some, hsame]

theorem drop_eq (h : Stands s n v) : (units s).drop n = units v := by
  obtain ⟨front, rfl, rfl⟩ := h
  exact drop_units front v

theorem peek_eq_some_iff (h : Stands s n v) (hc : c.toNat < 128) :
    peek s n = some c ↔ v.head? = some c := by
  rw [h.peek_eq, head?_units hc]

theorem startsWith_eq (h : Stands s n v) (hw : ∀ c ∈ w, c.toNat < 128) :
    startsWith s w n = w.isPrefixOf v := by
  obtain ⟨front, rfl, rfl⟩ := h
  rw [startsWith, drop_units, isPrefixOf_units hw]

theorem skip_eq (h : Stands s n v) (hp : Flat p) : skip p s n = n + byteLength (v.takeWhile p) := by
  obtain ⟨front, rfl, rfl⟩ := h
  rw [skip, drop_units, length_takeWhile_units hp]

theorem skip (h : Stands s n v) (hp : Flat p) : Stands s (skip p s n) (v.dropWhile p) := by
  rw [h.skip_eq hp]
  apply behind
  rwa [List.takeWhile_append_dropWhile]

theorem slice?_skip (h : Stands s n v) (hp : Flat p) :
    slice? s n (Markup.skip p s n) = some (v.takeWhile p) := by
  rw [h.skip_eq hp]
  apply slice?_eq (v := v.dropWhile p)
  rwa [List.takeWhile_append_dropWhile]

theorem find_eq_none (h : Stands s n v) (hcut : cutAt w v = none) : find s w n = none := by
  obtain ⟨front, hv⟩ := h.cutBytes_eq
  rw [find, hv, Option.bind_some, hcut]
  rfl

theorem find_eq_some (h : Stands s n v) {a b : List Char} (hcut : cutAt w v = some (a, b)) :
    find s w n = some (n + byteLength a) ∧ slice? s n (n + byteLength a) = some a ∧
      Stands s (n + byteLength a) (w ++ b) := by
  have hv := append_of_cutAt hcut
  rw [List.append_assoc] at hv
  subst hv
  obtain ⟨front, hfront⟩ := h.cutBytes_eq
  refine ⟨?_, h.slice?_eq, h.behind⟩
  rw [find, hfront, Option.bind_some, hcut]
  rfl

end Stands

theorem le_of_find (h : find s w n = some m) : n ≤ m ∧ m + byteLength w ≤ byteLength s := by
  obtain ⟨⟨u, v⟩, hcut, hfound⟩ := Option.bind_eq_some_iff.1 h
  obtain ⟨⟨a, b⟩, hword, rfl⟩ := Option.map_eq_some_iff.1 hfound
  obtain ⟨rfl, rfl⟩ := append_of_cutBytes hcut
  have hv := congrArg byteLength (append_of_cutAt hword)
  simp only [byteLength_append] at hv ⊢
  omega

theorem stands_of_isBoundary (h : isBoundary s n = true) : ∃ v, Stands s n v := by
  obtain ⟨⟨u, v⟩, hcut⟩ := Option.isSome_iff_exists.1 h
  obtain ⟨hs, hn⟩ := append_of_cutBytes hcut
  exact ⟨v, u, hs.symm, hn.symm⟩

end MarkupSplice.Markup
