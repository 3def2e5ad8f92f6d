import MarkupSplice.Proofs.Css.Nth

/-!
# The numbers that `An+B` stands for

An expression selects the numbers of an arithmetic progression that starts at the offset
(`Nth.selects_iff`). Whether it selects a number of 32 bits can be worked out in words of 64
bits: no value on the way is too large for them (`Nth.selectsWord_eq`).
-/
namespace MarkupSplice.Css.Nth
open Text

variable {a d n : Int} {x y : Int64}

theorem exists_mul_iff (ha : 0 < a) : (∃ k : Nat, d = a * k) ↔ 0 ≤ d ∧ d.tmod a = 0 := by
  constructor
  · rintro ⟨k, rfl⟩
    exact ⟨Int.mul_nonneg (Int.le_of_lt ha) (Int.natCast_nonneg k), Int.mul_tmod_right a k⟩
  · rintro ⟨hd, hmod⟩
    obtain ⟨q, rfl⟩ := Int.dvd_of_tmod_eq_zero hmod
    have hq : 0 ≤ q := Int.nonneg_of_mul_nonneg_left (Int.mul_comm a q ▸ hd) ha
    exact ⟨q.toNat, by rw [Int.toNat_of_nonneg hq]⟩

/-- A step backwards goes through the differences turned round. -/
theorem exists_mul_iff_of_neg (ha : a < 0) :
    (∃ k : Nat, d = a * k) ↔ d ≤ 0 ∧ d.tmod a = 0 := by
  have hturned : (∃ k : Nat, d = a * k) ↔ ∃ k : Nat, -d = -a * k :=
    exists_congr fun k => by rw [Int.neg_mul, Int.neg_inj]
  rw [hturned, exists_mul_iff (Int.neg_pos_of_neg ha), Int.neg_nonneg, Int.neg_tmod, Int.tmod_neg,
    Int.neg_eq_zero]

theorem selects_iff (e : Nth) (n : Int) :
    e.selects n = true ↔ ∃ k : Nat, n = e.step.toInt * k + e.offset.toInt := by
  have hshift : (∃ k : Nat, n = e.step.toInt * k + e.offset.toInt) ↔
      ∃ k : Nat, n - e.offset.toInt = e.step.toInt * k :=
    exists_congr fun k => ⟨fun h => by omega, fun h => by omega⟩
  rw [hshift, selects]
  rcases Int.lt_trichotomy e.step.toInt 0 with hneg | hzero | hpos
  · rw [exists_mul_iff_of_neg hneg, if_neg (Int.ne_of_lt hneg), if_neg (Int.lt_asymm hneg),
      decide_eq_true_iff]
  · simp [hzero]
  · rw [exists_mul_iff hpos, if_neg (Int.ne_of_gt hpos), if_pos hpos, decide_eq_true_iff]

def word? (n : Int) : Option Int64 :=
  if Int64.minValue.toInt ≤ n ∧ n ≤ Int64.maxValue.toInt then some (Int64.ofInt n) else none

def difference? (x y : Int64) : Option Int64 := word? (x.toInt - y.toInt)

/-- A remainder is worked out together with a quotient, which has to be a word too. -/
def remainder? (x y : Int64) : Option Int64 :=
  if y = 0 then none
  else (word? (x.toInt.tdiv y.toInt)).bind fun _ => word? (x.toInt.tmod y.toInt)

def selectsWord? (e : Nth) (n : Int32) : Option Bool :=
  let a := e.step.toInt64
  let b := e.offset.toInt64
  if a = 0 then some (n.toInt64 = b)
  else
    (difference? n.toInt64 b).bind fun d =>
      if 0 < a then
        if 0 ≤ d then (remainder? d a).map fun r => r = 0 else some false
      else
        if d ≤ 0 then (remainder? d a).map fun r => r = 0 else some false

theorem exists_word (h : n.natAbs ≤ Int64.maxValue.toInt) :
    ∃ w, word? n = some w ∧ w.toInt = n := by
  rw [Int64.toInt_maxValue] at h
  refine ⟨Int64.ofInt n, if_pos ⟨?_, ?_⟩, Int64.toInt_ofInt_of_le (by omega) (by omega)⟩
  · rw [Int64.toInt_minValue]
    omega
  · rw [Int64.toInt_maxValue]
    omega

theorem exists_difference (m n : Int32) :
    ∃ w, difference? m.toInt64 n.toInt64 = some w ∧ w.toInt = m.toInt - n.toInt := by
  have hm := And.intro m.le_toInt m.toInt_lt
  have hn := And.intro n.le_toInt n.toInt_lt
  rw [difference?, Int32.toInt_toInt64, Int32.toInt_toInt64]
  apply exists_word
  rw [Int64.toInt_maxValue]
  omega

theorem exists_remainder (hx : x ≠ Int64.minValue) (hy : y ≠ 0) :
    ∃ w, remainder? x y = some w ∧ w.toInt = x.toInt.tmod y.toInt := by
  have hbound : x.toInt.natAbs ≤ Int64.maxValue.toInt := by
    have hlower := x.le_toInt
    have hupper := x.toInt_lt
    have hleast : x.toInt ≠ Int64.minValue.toInt := mt Int64.toInt_inj.1 hx
    rw [Int64.toInt_minValue] at hleast
    rw [Int64.toInt_maxValue]
    omega
  have hquotient := Int.natAbs_tdiv_le_natAbs x.toInt y.toInt
  have hremainder : (x.toInt.tmod y.toInt).natAbs ≤ x.toInt.natAbs := by
    rw [Int.natAbs_tmod]
    exact Nat.mod_le _ _
  obtain ⟨q, hq, -⟩ := exists_word (Int.le_trans (Int.ofNat_le.2 hquotient) hbound)
  obtain ⟨r, hr, hvalue⟩ := exists_word (Int.le_trans (Int.ofNat_le.2 hremainder) hbound)
  exact ⟨r, by rw [remainder?, if_neg hy, hq, Option.bind_some, hr], hvalue⟩

theorem selectsWord_eq (e : Nth) (n : Int32) :
    e.selectsWord? n = some (e.selects n.toInt) := by
  have hstep : e.step.toInt64 = 0 ↔ e.step.toInt = 0 := by
    rw [← Int64.toInt_inj, Int32.toInt_toInt64, Int64.toInt_zero]
  have hsign : 0 < e.step.toInt64 ↔ e.step.toInt > 0 := by
    rw [Int64.lt_iff_toInt_lt, Int32.toInt_toInt64, Int64.toInt_zero]
  by_cases hzero : e.step.toInt = 0
  · have hsame : n.toInt64 = e.offset.toInt64 ↔ n.toInt - e.offset.toInt = 0 := by
      rw [← Int64.toInt_inj, Int32.toInt_toInt64, Int32.toInt_toInt64, Int.sub_eq_zero]
    simp only [selectsWord?, selects, if_pos hzero, if_pos (hstep.2 hzero), hsame]
  · have hne : e.step.toInt64 ≠ 0 := fun h => hzero (hstep.1 h)
    obtain ⟨w, hw, hvalue⟩ := exists_difference n e.offset
    have hleast : w ≠ Int64.minValue := by
      rintro rfl
      have hn := n.le_toInt
      have hb := e.offset.toInt_lt
      rw [Int64.toInt_minValue] at hvalue
      omega
    obtain ⟨r, hr, hrest⟩ := exists_remainder hleast hne
    have hforth : 0 ≤ w ↔ 0 ≤ n.toInt - e.offset.toInt := by
      rw [Int64.le_iff_toInt_le, hvalue, Int64.toInt_zero]
    have hback : w ≤ 0 ↔ n.toInt - e.offset.toInt ≤ 0 := by
      rw [Int64.le_iff_toInt_le, hvalue, Int64.toInt_zero]
    have hmultiple : r = 0 ↔ (n.toInt - e.offset.toInt).tmod e.step.toInt = 0 := by
      rw [← Int64.toInt_inj, hrest, hvalue, Int32.toInt_toInt64, Int64.toInt_zero]
    simp only [selectsWord?, selects, if_neg hzero, if_neg hne, hw, Option.bind_some, hr,
      Option.map_some, hsign, hforth, hback, hmultiple, Bool.decide_and]
    split
    all_goals
      split
      · rename_i hside
        rw [decide_eq_true hside, Bool.true_and]
      · rename_i hside
        rw [decide_eq_false hside, Bool.false_and]

/-- An expression selects just the numbers that some number of steps, none
included, leads to from its offset; no value on the way to the answer takes more
than 64 bits. Any text that writes the expression is read as that expression. -/
theorem progression_exact (e : Nth) :
    (∀ n : Int32, e.selectsWord? n = some (e.selects n.toInt) ∧
      (e.selects n.toInt = true ↔ ∃ k : Nat, n.toInt = e.step.toInt * k + e.offset.toInt)) ∧
    parse? e.written = some e ∧
    ∀ text, e.Writes (compact text) → parse? text = some e :=
  ⟨fun n => ⟨selectsWord_eq e n, selects_iff e n.toInt⟩, parse_written e,
    fun _ h => parse_of_writes h⟩

theorem progression_exact_spaced :
    let e : Nth := ⟨1, Int32.minValue⟩
    let text := " +N - 2147483648".toList
    e.Writes (compact text) ∧ parse? text = some e ∧
      e.selectsWord? Int32.maxValue = some true := by
  intro e text
  have hcompact : compact text = ['+'] ++ 'n' :: signed e.offset.toInt := by decide +kernel
  have hwrites : e.Writes (compact text) := hcompact ▸ .parts (.plus rfl) .signed
  obtain ⟨hselects, -, hparse⟩ := progression_exact e
  refine ⟨hwrites, hparse text hwrites, ?_⟩
  rw [(hselects Int32.maxValue).1]
  decide

end MarkupSplice.Css.Nth
