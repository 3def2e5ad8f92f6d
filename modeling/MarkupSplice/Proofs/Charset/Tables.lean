import Mathlib.Data.Nat.Bitwise
import MarkupSplice.Charset.Codec

/-!
# What the tables hold

A table that is laid out in runs holds the characters of the runs and nothing else
(`filter_laid`), at as many places as the runs need (`length_laid`). How many these
are, and that a table has no character twice and none of ASCII, is found out by going
through the characters once.
-/
namespace MarkupSplice.Charset
open Text

inductive Spelled : String → List Char → Prop
  | append {s t : String} {cs ds : List Char} : Spelled s cs → Spelled t ds →
    Spelled (s ++ t) (cs ++ ds)
  | text (cs : List Char) : Spelled (String.ofList cs) cs

theorem Spelled.toList_eq {s : String} {cs : List Char} (h : Spelled s cs) : s.toList = cs := by
  induction h with
  | text cs => exact String.toList_ofList
  | append _ _ ihs iht => rw [String.toList_append, ihs, iht]

/-- The characters are different from each other, and from those that were seen. -/
def distinct (seen : Nat) : List Char → Bool
  | [] => true
  | c :: s => !seen.testBit c.toNat && distinct (seen ||| 1 <<< c.toNat) s

theorem nodup_of_distinct {seen : Nat} {s : List Char} (h : distinct seen s = true) :
    s.Nodup ∧ ∀ c ∈ s, seen.testBit c.toNat = false := by
  induction s generalizing seen with
  | nil => exact ⟨List.nodup_nil, by simp⟩
  | cons c s ih =>
    rw [distinct, Bool.and_eq_true, Bool.not_eq_true'] at h
    obtain ⟨hnodup, hseen⟩ := ih h.2
    have hnew : ∀ d ∈ s, seen.testBit d.toNat = false ∧ d ≠ c := by
      intro d hd
      have hbit := hseen d hd
      rw [Nat.testBit_or, Bool.or_eq_false_iff] at hbit
      refine ⟨hbit.1, ?_⟩
      rintro rfl
      simp at hbit
    refine ⟨List.nodup_cons.2 ⟨fun hc => (hnew c hc).2 rfl, hnodup⟩, ?_⟩
    intro d hd
    rcases List.mem_cons.1 hd with rfl | hd
    · exact h.1
    · exact (hnew d hd).1

structure IsOneToOne (t : List Char) : Prop where
  unique : ∀ {i j : Nat} {c : Char}, t[i]? = some c → t[j]? = some c → c ≠ Index.absent → i = j
  wide : ∀ c ∈ t, 0x80 ≤ c.toNat

def seenAscii : Nat := 2 ^ 0x80 - 1

theorem isOneToOne_of_distinct {s t : List Char} (h : distinct seenAscii s = true)
    (hs : (t.filter (· != Index.absent)).Sublist s) : IsOneToOne t := by
  obtain ⟨hnodup, hseen⟩ := nodup_of_distinct h
  have hfilter := hnodup.sublist hs
  constructor
  · intro i j c hi hj hc
    obtain ⟨hi, hgeti⟩ := List.getElem?_eq_some_iff.1 hi
    obtain ⟨hj, hgetj⟩ := List.getElem?_eq_some_iff.1 hj
    have hpairs := List.pairwise_iff_getElem.1 (List.pairwise_filter.1 hfilter)
    rcases Nat.lt_trichotomy i j with hlt | heq | hgt
    · exact absurd (hgeti.trans hgetj.symm)
        (hpairs i j hi hj hlt (by simpa [hgeti] using hc) (by simpa [hgetj] using hc))
    · exact heq
    · exact absurd (hgetj.trans hgeti.symm)
        (hpairs j i hj hi hgt (by simpa [hgetj] using hc) (by simpa [hgeti] using hc))
  · intro c hc
    by_cases habsent : c = Index.absent
    · rw [habsent]
      decide
    · have hbit := hseen c (hs.subset (List.mem_filter.2 ⟨hc, by simpa using habsent⟩))
      rw [seenAscii, Nat.testBit_two_pow_sub_one] at hbit
      simpa using hbit

namespace Index

inductive SpelledRuns : List (Nat × String) → List (Nat × List Char) → Prop
  | nil : SpelledRuns [] []
  | cons (first : Nat) (cs : List Char) {runs : List (Nat × String)}
    {spelled : List (Nat × List Char)} : SpelledRuns runs spelled →
      SpelledRuns ((first, String.ofList cs) :: runs) ((first, cs) :: spelled)

def laid (t : List Char) (spelled : List (Nat × List Char)) : List Char :=
  spelled.foldl (fun t run => t ++ List.replicate (run.1 - t.length) absent ++ run.2) t

variable {runs : List (Nat × String)} {spelled : List (Nat × List Char)}

theorem SpelledRuns.toList_ofRuns (h : SpelledRuns runs spelled) :
    (ofRuns runs).toList = laid [] spelled := by
  have hall : ∀ t : Array Char, (runs.foldl (fun t run =>
      run.2.toList.foldl Array.push (t ++ Array.replicate (run.1 - t.size) absent)) t).toList =
        laid t.toList spelled := by
    induction h with
    | nil => exact fun t => rfl
    | cons first cs _ ih =>
      intro t
      rw [List.foldl_cons, ih]
      simp [laid]
  exact hall #[]

theorem length_laid (t : List Char) (spelled : List (Nat × List Char)) :
    (laid t spelled).length =
      spelled.foldl (fun n run => max n run.1 + run.2.length) t.length := by
  induction spelled generalizing t with
  | nil => rfl
  | cons run spelled ih =>
    have hlength : (t ++ List.replicate (run.1 - t.length) absent ++ run.2).length =
        max t.length run.1 + run.2.length := by
      simp only [List.length_append, List.length_replicate]
      omega
    rw [laid, List.foldl_cons, ← laid, ih, List.foldl_cons, hlength]

theorem filter_laid (t : List Char) (spelled : List (Nat × List Char)) :
    (laid t spelled).filter (· != absent) =
      t.filter (· != absent) ++ (spelled.flatMap Prod.snd).filter (· != absent) := by
  induction spelled generalizing t with
  | nil => simp [laid]
  | cons run spelled ih =>
    rw [laid, List.foldl_cons, ← laid, ih]
    simp

theorem size_le_of_spelled {n : Nat} (h : SpelledRuns runs spelled)
    (hn : spelled.foldl (fun n run => max n run.1 + run.2.length) 0 ≤ n) :
    (ofRuns runs).size ≤ n := by
  rw [← Array.length_toList, h.toList_ofRuns, length_laid]
  exact hn

theorem isOneToOne_of_spelled (h : SpelledRuns runs spelled)
    (hdistinct : distinct seenAscii (spelled.flatMap Prod.snd) = true) :
    IsOneToOne (ofRuns runs).toList := by
  refine isOneToOne_of_distinct hdistinct ?_
  rw [h.toList_ofRuns, filter_laid]
  exact List.filter_sublist

theorem getElem?_laid {t : List Char} {p : Nat} {c : Char} (h : t[p]? = some c)
    (spelled : List (Nat × List Char)) : (laid t spelled)[p]? = some c := by
  induction spelled generalizing t with
  | nil => exact h
  | cons run spelled ih =>
    rw [laid, List.foldl_cons, ← laid]
    apply ih
    have hp := (List.getElem?_eq_some_iff.1 h).1
    rw [List.append_assoc, List.getElem?_append_left hp, h]

theorem char?_of_spelled {p : Nat} {c : Char} (h : SpelledRuns runs spelled) (n : Nat)
    (hlaid : (laid [] (spelled.take n))[p]? = some c) (hc : c ≠ absent) :
    (ofRuns runs).char? p = some c := by
  have hall : (laid [] spelled)[p]? = some c := by
    have hsplit : laid [] spelled = laid (laid [] (spelled.take n)) (spelled.drop n) := by
      rw [laid, laid, laid, ← List.foldl_append, List.take_append_drop]
    rw [hsplit]
    exact getElem?_laid hlaid _
  rw [char?, ← Array.getElem?_toList, h.toList_ofRuns, hall]
  exact if_neg hc

theorem size_withBlocks_le {t : Index} {blocks : List (Nat × Nat × Nat)} {n : Nat}
    (ht : t.size ≤ n) (hblocks : ∀ block ∈ blocks, block.1 + block.2.2 ≤ n) :
    (withBlocks t blocks).size ≤ n := by
  have hset : ∀ (first code count : Nat) (t : Index), ((List.range count).foldl (fun t i =>
      t.setIfInBounds (first + i) (Char.ofNat (code + i))) t).size = t.size := by
    intro first code count t
    induction List.range count generalizing t with
    | nil => rfl
    | cons i is ih => rw [List.foldl_cons, ih, Array.size_setIfInBounds]
  induction blocks generalizing t with
  | nil => exact ht
  | cons block blocks ih =>
    obtain ⟨first, code, count⟩ := block
    have hblock : first + count ≤ n := hblocks (first, code, count) List.mem_cons_self
    rw [withBlocks, List.foldl_cons, ← withBlocks]
    refine ih ?_ fun b hb => hblocks b (List.mem_cons_of_mem _ hb)
    rw [hset, Array.size_append, Array.size_replicate]
    omega

set_option maxRecDepth 100000 in
theorem size_jis0208_le : jis0208.size ≤ 11280 := by
  rw [jis0208, jis0208Runs]
  apply size_le_of_spelled
  · repeat constructor
  · decide +kernel

set_option maxRecDepth 100000 in
theorem jis0208_repeated : ∀ p ∈ [159, 1207], jis0208.char? p = some '≒' := by
  intro p hp
  rw [jis0208, jis0208Runs]
  apply char?_of_spelled (n := 23)
  · repeat constructor
  · revert p
    decide +kernel
  · decide

set_option maxRecDepth 100000 in
theorem size_big5_le : big5.size ≤ 19782 := by
  rw [big5, big5Runs]
  apply size_le_of_spelled
  · repeat constructor
  · decide +kernel

set_option maxRecDepth 100000 in
theorem size_chinese_le : chinese.size ≤ 23940 := by
  have hruns : (ofRuns chineseRuns).size ≤ 23940 := by
    rw [chineseRuns]
    apply size_le_of_spelled
    · repeat constructor
    · decide +kernel
  exact size_withBlocks_le hruns (by decide)

set_option maxRecDepth 100000 in
theorem isOneToOne_korean : IsOneToOne korean.toList := by
  rw [korean, koreanRuns]
  apply isOneToOne_of_spelled
  · repeat constructor
  · decide +kernel

end Index

set_option maxRecDepth 10000 in
theorem isOneToOne_upper (t : SingleByte) : IsOneToOne t.upper := by
  have hplain : ∀ {s : String} {cs : List Char}, Spelled s cs →
      distinct seenAscii (cs.filter (· != Index.absent)) = true → IsOneToOne s.toList := by
    intro s cs hs hdistinct
    rw [hs.toList_eq]
    exact isOneToOne_of_distinct hdistinct (List.Sublist.refl _)
  have hcontrols : ∀ {s : String} {cs : List Char}, Spelled s cs →
      distinct seenAscii ((SingleByte.controls ++ cs).filter (· != Index.absent)) = true →
        IsOneToOne (SingleByte.controls ++ s.toList) := by
    intro s cs hs hdistinct
    rw [hs.toList_eq]
    exact isOneToOne_of_distinct hdistinct (List.Sublist.refl _)
  cases t with
  | ibm866 | koi8r | koi8u | macintosh | windows874 | windows1250 | windows1251 | windows1252
    | windows1253 | windows1254 | windows1255 | windows1256 | windows1257 | windows1258
    | macCyrillic =>
    simp only [SingleByte.upper]
    apply hplain
    · repeat first | with_reducible exact Spelled.text _ | apply Spelled.append
    · decide +kernel
  | _ =>
    simp only [SingleByte.upper]
    apply hcontrols
    · repeat first | with_reducible exact Spelled.text _ | apply Spelled.append
    · decide +kernel

end MarkupSplice.Charset
