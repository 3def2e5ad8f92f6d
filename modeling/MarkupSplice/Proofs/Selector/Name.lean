import MarkupSplice.Selector
import MarkupSplice.Proofs.Css.Reading
import MarkupSplice.Proofs.XPath.Reading
import MarkupSplice.Proofs.Text.Ascii

/-!
# Names that both query languages write

A name of ASCII letters, digits, `-` and `_` that begins with a letter or `_` is
written as it is in CSS and in XPath, and is read there as one name.
-/
namespace MarkupSplice
open Markup Text

def isPlainStart (c : Char) : Bool := c.isAlpha || c == '_'

def isPlain (c : Char) : Bool := c.isAlphanum || c == '-' || c == '_'

structure PlainName where
  first : Char
  rest : List Char
  start : isPlainStart first = true
  plain : ∀ c ∈ rest, isPlain c = true

def PlainName.chars (n : PlainName) : List Char := n.first :: n.rest

def PlainName.text (n : PlainName) : String := String.ofList n.chars

section Characters

variable {c : Char}

theorem toNat_of_isPlainStart (h : isPlainStart c = true) : 65 ≤ c.toNat ∧ c.toNat ≤ 122 := by
  rw [isPlainStart, Bool.or_eq_true, beq_iff_eq, isAlpha_iff] at h
  rcases h with h | rfl
  · omega
  · decide

theorem isBlank_of_isPlainStart (h : isPlainStart c = true) : isBlank c = false := by
  have hbounds := toNat_of_isPlainStart h
  simp [isBlank, inRanges, blankRanges]
  omega

theorem isDigit_of_isPlainStart (h : isPlainStart c = true) : isDigit c = false := by
  have hbounds := toNat_of_isPlainStart h
  have hnine : ¬c ≤ '9' := by
    rw [Char.le_def, UInt32.le_iff_toNat_le]
    change ¬c.toNat ≤ 57
    omega
  rw [isDigit, decimalDigit?, if_neg fun h => hnine h.2]
  rfl

theorem isPlain_of_isPlainStart (h : isPlainStart c = true) : isPlain c = true := by
  rw [isPlainStart, Bool.or_eq_true] at h
  rw [isPlain, Char.isAlphanum]
  rcases h with h | h <;> simp [h]

theorem Css.isNameStart_of_isPlainStart (h : isPlainStart c = true) : Css.isNameStart c = true := by
  rw [isPlainStart, Bool.or_eq_true] at h
  rw [Css.isNameStart]
  rcases h with h | h <;> simp [h]

theorem Css.isNameChar_of_isPlain (h : isPlain c = true) : Css.isNameChar c = true := by
  rw [isPlain, Bool.or_eq_true, Bool.or_eq_true] at h
  rw [Css.isNameChar]
  rcases h with (h | h) | h <;> simp [h]

theorem XPath.isNameStart_of_isPlainStart (h : isPlainStart c = true) :
    XPath.isNameStart c = true := by
  rw [isPlainStart] at h
  rw [XPath.isNameStart, h, Bool.true_or]

theorem XPath.isNameChar_of_isPlain (h : isPlain c = true) : XPath.isNameChar c = true := by
  rw [isPlain, Bool.or_eq_true, Bool.or_eq_true] at h
  rw [XPath.isNameChar]
  rcases h with (h | h) | h <;> simp [h]

end Characters

namespace PlainName

variable {r : List Char}

theorem plain_chars (n : PlainName) : ∀ c ∈ n.chars, isPlain c = true := by
  intro c hc
  rcases List.mem_cons.1 hc with rfl | hc
  · exact isPlain_of_isPlainStart n.start
  · exact n.plain c hc

theorem isName (n : PlainName) : Css.IsName n.chars where
  ne_nil := List.cons_ne_nil _ _
  chars c hc := Css.isNameChar_of_isPlain (n.plain_chars c hc)
  head c hc := by
    cases hc
    exact isBlank_of_isPlainStart n.start

theorem tokenized {ts : List XPath.Token} (n : PlainName) (hr : XPath.EndsName r)
    (h : XPath.Tokenized r ts) : XPath.Tokenized (n.chars ++ r) (.name n.text :: ts) := by
  have hread := XPath.readToken_name (XPath.isNameStart_of_isPlainStart n.start)
    (isDigit_of_isPlainStart n.start) (fun c hc => XPath.isNameChar_of_isPlain (n.plain c hc)) hr
  exact XPath.tokenized_cons (isBlank_of_isPlainStart n.start) hread h

end PlainName
end MarkupSplice
