import MarkupSplice.Proofs.Text.Cutting
import MarkupSplice.Template

/-!
# Templates for all texts

Any text can stand for itself in a template: `literal` writes a `#` more in front
of each pair of characters that would begin a variable. A template written from
such texts with variables between them is filled in piece by piece, whatever the
values hold (`interpolate_written`). What one has to look out for is a `#` at the
end of a text, which would make a literal of the variable behind it.
-/
namespace MarkupSplice
namespace Template
open Text

def literalChars : List Char → List Char
  | [] => []
  | '#' :: '\x7b' :: s => '#' :: '#' :: '\x7b' :: literalChars s
  | c :: s => c :: literalChars s

def literal (s : String) : String := String.ofList (literalChars s.toList)

/-- A template: literal texts, each with the variable behind it, and a last literal text. -/
def written (pieces : List (String × String)) (last : String) : String :=
  String.join (pieces.map fun (text, name) => literal text ++ "#\x7b" ++ name ++ "\x7d") ++
    literal last

def filled (lookup : String → Option String) (pieces : List (String × String)) (last : String) :
    String :=
  String.join (pieces.map fun (text, name) =>
    text ++ (lookup name).getD ("#\x7b" ++ name ++ "\x7d")) ++ last

variable {lookup : String → Option String} {s t : List Char}

/-- Whether a `#` in front of the text is more than a character of its own. -/
def Marks (s : List Char) : Prop :=
  s.head? = some '\x7b' ∨ (s.head? = some '#' ∧ s.tail.head? = some '\x7b')

@[simp] theorem expand_nil : expand lookup [] = [] := by rw [expand]

theorem expand_escaped (s : List Char) :
    expand lookup ('#' :: '#' :: '\x7b' :: s) = '#' :: '\x7b' :: expand lookup s := by rw [expand]

theorem expand_variable {name : List Char} (hname : '\x7d' ∉ name) (s : List Char) :
    expand lookup ('#' :: '\x7b' :: (name ++ '\x7d' :: s)) =
      value lookup name ++ expand lookup s := by
  rw [expand]
  split
  · rename_i name' rest h
    rw [cutAt_char hname] at h
    cases h
    rfl
  · rename_i h
    rw [cutAt_char hname] at h
    cases h

theorem expand_cons {c : Char} (h : c = '#' → ¬Marks s) :
    expand lookup (c :: s) = c :: expand lookup s := by
  rw [expand]
  · intro r hc hs
    exact h hc (Or.inr (by simp [hs]))
  · intro r hc hs
    exact h hc (Or.inl (by simp [hs]))

theorem head_literalChars (s : List Char) : (literalChars s).head? = s.head? := by
  fun_cases literalChars s <;> rfl

theorem not_marks_literal (hs : s.head? ≠ some '\x7b') (ht : s = [] ∨ s = ['#'] → ¬Marks t) :
    ¬Marks (literalChars s ++ t) := by
  fun_cases literalChars s with
  | case1 => exact ht (Or.inl rfl)
  | case2 s => simp [Marks]
  | case3 c s hopen =>
    rw [List.head?_cons, Ne, Option.some.injEq] at hs
    simp only [Marks, List.cons_append, List.head?_cons, List.tail_cons, Option.some.injEq, hs,
      false_or]
    rintro ⟨rfl, hbrace⟩
    cases s with
    | nil => exact ht (Or.inr rfl) (Or.inl hbrace)
    | cons d s =>
      obtain ⟨r, hr⟩ : ∃ r, literalChars (d :: s) = d :: r :=
        List.head?_eq_some_iff.1 (head_literalChars (d :: s))
      rw [hr, List.cons_append, List.head?_cons, Option.some.injEq] at hbrace
      exact hopen s rfl (by rw [hbrace])

theorem expand_literal (s : List Char) (h : s.getLast? = some '#' → ¬Marks t) :
    expand lookup (literalChars s ++ t) = s ++ expand lookup t := by
  fun_induction literalChars s with
  | case1 => rfl
  | case2 s ih =>
    have hrest := ih fun hlast => h (by simp [List.getLast?_cons, hlast])
    simp only [List.cons_append, expand_escaped, hrest]
  | case3 c s hopen ih =>
    have hrest := ih fun hlast => h (by simp [List.getLast?_cons, hlast])
    rw [List.cons_append, expand_cons, hrest, List.cons_append]
    rintro rfl
    refine not_marks_literal (fun hhead => ?_) (fun hshort => h ?_)
    · obtain ⟨r, rfl⟩ := List.head?_eq_some_iff.1 hhead
      exact hopen r rfl rfl
    · rcases hshort with rfl | rfl <;> rfl

theorem expand_literalChars (s : List Char) : expand lookup (literalChars s) = s := by
  have hexpand : expand lookup (literalChars s ++ []) = s ++ expand lookup [] :=
    expand_literal s fun _ => by simp [Marks]
  simpa using hexpand

theorem interpolate_literal (lookup : String → Option String) (s : String) :
    interpolate (literal s) lookup = s := by
  rw [interpolate, literal, String.toList_ofList, expand_literalChars, String.ofList_toList]

theorem toList_value (lookup : String → Option String) (name : String) :
    value lookup name.toList = ((lookup name).getD ("#\x7b" ++ name ++ "\x7d")).toList := by
  rw [value, String.ofList_toList]
  cases lookup name <;> simp

theorem expand_written (pieces : List (String × String)) (last : String)
    (h : ∀ p ∈ pieces, p.1.toList.getLast? ≠ some '#' ∧ '\x7d' ∉ p.2.toList) :
    expand lookup (written pieces last).toList = (filled lookup pieces last).toList := by
  induction pieces with
  | nil => simp [written, filled, literal, expand_literalChars]
  | cons p pieces ih =>
    obtain ⟨text, name⟩ := p
    obtain ⟨htext, hname⟩ := h _ List.mem_cons_self
    have hrest := ih fun q hq => h q (List.mem_cons_of_mem _ hq)
    have hwritten : (written ((text, name) :: pieces) last).toList = literalChars text.toList ++
        '#' :: '\x7b' :: (name.toList ++ '\x7d' :: (written pieces last).toList) := by
      simp [written, literal]
    rw [hwritten, expand_literal _ fun hlast => absurd hlast htext, expand_variable hname, hrest,
      toList_value]
    simp [filled]

end Template

/-- A template expands to its texts with the values between them. -/
theorem interpolate_written (lookup : String → Option String) (pieces : List (String × String))
    (last : String) (h : ∀ p ∈ pieces, p.1.toList.getLast? ≠ some '#' ∧ '\x7d' ∉ p.2.toList) :
    interpolate (Template.written pieces last) lookup = Template.filled lookup pieces last ∧
      ∀ s, interpolate (Template.literal s) lookup = s := by
  refine ⟨?_, Template.interpolate_literal lookup⟩
  rw [interpolate, Template.expand_written pieces last h, String.ofList_toList]

theorem interpolate_written_nested :
    let lookup := fun name => if name = "x" then some "#\x7by\x7d" else none
    interpolate "a##\x7b#\x7bx\x7d\x7d#\x7by\x7d##\x7bz\x7d#" lookup =
        "a#\x7b#\x7by\x7d\x7d#\x7by\x7d#\x7bz\x7d#" ∧
      ∀ s, interpolate (Template.literal s) lookup = s :=
  interpolate_written _ [("a#\x7b", "x"), ("\x7d", "y")] "#\x7bz\x7d#" (by decide)

end MarkupSplice
