import MarkupSplice.Text.Digits

/-!
# Numbers in decimal digits

A number is read from its decimal digits, an integer with or without its sign, and what
holds anything but digits is no number.
-/
namespace MarkupSplice.Text

variable {c : Char} {s t : List Char}

theorem decimalDigit_of_isDigit (h : c.isDigit = true) :
    decimalDigit? c = some (c.toNat - '0'.toNat) := by
  unfold Char.isDigit at h
  rw [Bool.and_eq_true, decide_eq_true_eq, decide_eq_true_eq] at h
  exact if_pos h

theorem foldlM_digits (h : ∀ c ∈ s, c.isDigit = true) (init : Nat) :
    s.foldlM (fun n c => (decimalDigit? c).map (n * 10 + ·)) init =
      some (Nat.ofDigitChars 10 s init) := by
  induction s generalizing init with
  | nil => simp
  | cons c s ih =>
    have hc := decimalDigit_of_isDigit (h c List.mem_cons_self)
    rw [List.foldlM_cons, hc, Nat.ofDigitChars_cons, Nat.mul_comm]
    exact ih (fun c' hc' => h c' (List.mem_cons_of_mem _ hc')) _

theorem isDigit_of_mem_digits {n : Nat} (h : c ∈ Nat.toDigits 10 n) : c.isDigit = true :=
  Nat.isDigit_of_mem_toDigits (by decide) (by decide) h

theorem decimal_toDigits (n : Nat) : decimal? (Nat.toDigits 10 n) = some n := by
  have hne : (Nat.toDigits 10 n).isEmpty = false :=
    List.isEmpty_eq_false_iff.2 Nat.toDigits_ne_nil
  rw [decimal?, number?, hne, if_neg Bool.false_ne_true,
    foldlM_digits (fun _ => isDigit_of_mem_digits), Nat.ofDigitChars_ten_toDigits]

theorem decimal_eq_none (hc : c ∈ s) (hdigit : decimalDigit? c = none) : decimal? s = none := by
  have hfold : ∀ init, s.foldlM (fun n c => (decimalDigit? c).map (n * 10 + ·)) init = none := by
    induction s with
    | nil => cases hc
    | cons c' s ih =>
      intro init
      rw [List.foldlM_cons]
      rcases List.mem_cons.1 hc with rfl | hc
      · rw [hdigit]
        rfl
      · cases hc' : decimalDigit? c' with
        | none => rfl
        | some d => exact ih hc _
  unfold decimal? number?
  split
  · rfl
  · exact hfold 0

def writtenInt (n : Int) : List Char :=
  if n < 0 then '-' :: Nat.toDigits 10 n.natAbs else Nat.toDigits 10 n.natAbs

def signed (n : Int) : List Char := (if n < 0 then '-' else '+') :: Nat.toDigits 10 n.natAbs

theorem integer_minus (n : Nat) : integer? ('-' :: Nat.toDigits 10 n) = some (-n : Int) := by
  simp [integer?, decimal_toDigits]

theorem integer_plus (n : Nat) : integer? ('+' :: Nat.toDigits 10 n) = some (n : Int) := by
  simp [integer?, decimal_toDigits]

theorem integer_digits (n : Nat) : integer? (Nat.toDigits 10 n) = some (n : Int) := by
  have hsign : ∀ c r, Nat.toDigits 10 n = c :: r → c.isDigit = true := fun c r h =>
    isDigit_of_mem_digits (h ▸ List.mem_cons_self)
  unfold integer?
  split
  · rename_i h
    cases hsign _ _ h
  · rename_i h
    cases hsign _ _ h
  · rw [decimal_toDigits]
    rfl

theorem integer_writtenInt (n : Int) : integer? (writtenInt n) = some n := by
  unfold writtenInt
  split
  · rw [integer_minus]
    congr 1
    omega
  · rw [integer_digits]
    congr 1
    omega

theorem integer_signed (n : Int) : integer? (signed n) = some n := by
  unfold signed
  split
  · rw [integer_minus]
    congr 1
    omega
  · rw [integer_plus]
    congr 1
    omega

theorem integer_eq_none (hc : c ∈ s) (hdigit : decimalDigit? c = none) (hminus : c ≠ '-')
    (hplus : c ≠ '+') : integer? s = none := by
  unfold integer?
  split
  · rw [decimal_eq_none ((List.mem_cons.1 hc).resolve_left hminus) hdigit]
    rfl
  · rw [decimal_eq_none ((List.mem_cons.1 hc).resolve_left hplus) hdigit]
    rfl
  · rw [decimal_eq_none hc hdigit]
    rfl

theorem int32_of_integer {n : Int32} (h : integer? s = some n.toInt) : int32? s = some n := by
  have hlower := n.le_toInt
  have hupper := n.toInt_lt
  rw [int32?, h]
  simp only [Int32.ofInt_toInt]
  exact if_pos ⟨by omega, by omega⟩

end MarkupSplice.Text
