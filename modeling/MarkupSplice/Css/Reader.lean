import MarkupSplice.Css.Selector
import MarkupSplice.Text.Shorter

/-!
# Reading CSS selectors

Each reader answers with what it read and with a shorter rest, or with a fault
and the rest at which the fault was met. White space separates, escapes take
the next character as it is, and `:not()` nests at most 32 levels deep.
-/
namespace MarkupSplice.Css
open Text

inductive Fault
  | unexpected (c : Char)
  | expectedSelector (found : Option Char)
  | expectedIdentifier
  | expectedEquals (operator : Char)
  | expectedOperator
  | expectedBracket
  | expectedParenthesis
  | danglingEscape
  | unterminatedString
  | pseudoElement
  | unsupported (name : String)
  | unsupportedFunction (name : String)
  | nestedTooDeep
  | invalidNth (argument : String)
deriving DecidableEq, Repr

structure Failure where
  fault : Fault
  rest : List Char
deriving Repr

abbrev Reader (α : Type) := (s : List Char) → Except Failure (α × Shorter s)

def maxNesting : Nat := 32

def Fault.message : Fault → String
  | .unexpected c => "unexpected '" ++ c.toString ++ "'"
  | .expectedSelector none => "expected a selector"
  | .expectedSelector (some c) => "expected a selector, found '" ++ c.toString ++ "'"
  | .expectedIdentifier => "expected an identifier"
  | .expectedEquals op => "expected '=' after '" ++ op.toString ++ "'"
  | .expectedOperator => "expected an attribute operator or ']'"
  | .expectedBracket => "expected ']'"
  | .expectedParenthesis => "expected ')'"
  | .danglingEscape => "dangling escape"
  | .unterminatedString => "unterminated string"
  | .pseudoElement => "pseudo-elements are not supported"
  | .unsupported name => "unsupported pseudo-class ':" ++ name ++ "'"
  | .unsupportedFunction name => "unsupported pseudo-class ':" ++ name ++ "()'"
  | .nestedTooDeep => ":not() nested deeper than " ++ toString maxNesting ++ " levels"
  | .invalidNth argument => "invalid An+B expression '" ++ argument ++ "'"

/-- Characters outside ASCII all count as letters. -/
def isNameChar (c : Char) : Bool := c.isAlphanum || c == '_' || c == '-' || c.toNat ≥ 0x80

def isNameStart (c : Char) : Bool :=
  c.isAlpha || c == '_' || c == '-' || c == '\\' || c.toNat ≥ 0x80

def nameChars : List Char → Except Failure (List Char × List Char)
  | [] => .ok ([], [])
  | ['\\'] => .error ⟨.danglingEscape, []⟩
  | '\\' :: c :: s => (nameChars s).map fun (name, r) => (c :: name, r)
  | c :: s =>
    if isNameChar c then (nameChars s).map fun (name, r) => (c :: name, r)
    else .ok ([], c :: s)

theorem length_nameChars {s name r : List Char} (h : nameChars s = .ok (name, r)) :
    name.length + r.length ≤ s.length := by
  fun_induction nameChars s generalizing name with
  | case1 => cases h; simp
  | case2 => cases h
  | case3 c s ih =>
    cases hs : nameChars s with
    | error => simp [hs, Except.map] at h
    | ok p =>
      simp only [hs, Except.map, Except.ok.injEq, Prod.mk.injEq] at h
      obtain ⟨rfl, rfl⟩ := h
      have := ih hs
      simp only [List.length_cons]
      omega
  | case4 c s _ _ _ ih =>
    cases hs : nameChars s with
    | error => simp [hs, Except.map] at h
    | ok p =>
      simp only [hs, Except.map, Except.ok.injEq, Prod.mk.injEq] at h
      obtain ⟨rfl, rfl⟩ := h
      have := ih hs
      simp only [List.length_cons]
      omega
  | case5 => cases h; simp

def identifier : Reader String := fun s =>
  match h : nameChars s with
  | .error e => .error e
  | .ok ([], r) => .error ⟨.expectedIdentifier, r⟩
  | .ok (c :: name, r) => .ok (String.ofList (c :: name), ⟨r, by
      have := length_nameChars h
      simp only [List.length_cons] at this
      omega⟩)

def stringChars? (q : Char) : List Char → Option (List Char × List Char)
  | [] => none
  | c :: s =>
    if c = q then some ([], s)
    else if c = '\\' then
      match s with
      | [] => none
      | c' :: s' => (stringChars? q s').map fun (text, r) => (c' :: text, r)
    else (stringChars? q s).map fun (text, r) => (c :: text, r)

theorem length_stringChars {q : Char} {s text r : List Char}
    (h : stringChars? q s = some (text, r)) : r.length < s.length := by
  fun_induction stringChars? q s generalizing text with
  | case1 => cases h
  | case2 => cases h; simp
  | case3 => cases h
  | case4 c' s' _ ih =>
    obtain ⟨⟨t, r'⟩, hs, he⟩ := Option.map_eq_some_iff.1 h
    obtain ⟨rfl, rfl⟩ := Prod.mk.inj he
    have := ih hs
    simp only [List.length_cons]
    omega
  | case5 c s _ _ ih =>
    obtain ⟨⟨t, r'⟩, hs, he⟩ := Option.map_eq_some_iff.1 h
    obtain ⟨rfl, rfl⟩ := Prod.mk.inj he
    have := ih hs
    simp only [List.length_cons]
    omega

def value : Reader String := fun s =>
  match s with
  | '"' :: r => quoted '"' r
  | '\'' :: r => quoted '\'' r
  | r => identifier r
where
  quoted (q : Char) (r : List Char) : Except Failure (String × Shorter (q :: r)) :=
    match h : stringChars? q r with
    | none => .error ⟨.unterminatedString, q :: r⟩
    | some (text, r') => .ok (String.ofList text, ⟨r', by
        have := length_stringChars h
        simp only [List.length_cons]
        omega⟩)

def operator? : Char → Option Operator
  | '~' => some .word
  | '|' => some .dash
  | '^' => some .start
  | '$' => some .finish
  | '*' => some .inside
  | _ => none

def operator : Reader Operator := fun s =>
  match s with
  | '=' :: r => .ok (.exact, .tail _ r)
  | c :: r =>
    match operator? c with
    | none => .error ⟨.expectedOperator, c :: r⟩
    | some op =>
      match r with
      | '=' :: r' => .ok (op, (Shorter.tail _ r').behind c)
      | _ => .error ⟨.expectedEquals c, r⟩
  | [] => .error ⟨.expectedOperator, []⟩

/-- The flag behind a value, `i` to ignore case or `s` to heed it. -/
def caseFlag (s : List Char) : Bool × NoLonger s :=
  match s with
  | c :: r =>
    let behind := (NoLonger.dropWhile isBlank r).behind c |>.noLonger
    if c = 'i' ∨ c = 'I' then (true, behind)
    else if c = 's' ∨ c = 'S' then (false, behind)
    else (false, .all _)
  | [] => (false, .all _)

theorem length_trimStart (s : List Char) : (trimStart s).length ≤ s.length :=
  length_dropWhile_le isBlank s

def attributeTest : Reader AttributeTest := fun s => do
  let (name, ⟨r₁, h₁⟩) ← identifier (trimStart s)
  have h₀ := length_trimStart s
  match hb : trimStart r₁ with
  | ']' :: r => return (⟨name, none, false⟩, ⟨r, by
      have := length_trimStart r₁
      simp only [hb, List.length_cons] at this
      omega⟩)
  | r₂ =>
    let (op, ⟨r₃, h₃⟩) ← operator r₂
    let (text, ⟨r₄, h₄⟩) ← value (trimStart r₃)
    let (ignoreCase, ⟨r₅, h₅⟩) := caseFlag (trimStart r₄)
    match r₅, h₅ with
    | ']' :: r, h₅ => return (⟨name, some (op, text), ignoreCase⟩, ⟨r, by
        have g₁ := length_trimStart r₁
        have g₃ := length_trimStart r₃
        have g₄ := length_trimStart r₄
        rw [hb] at g₁
        simp only [List.length_cons] at h₅
        omega⟩)
    | r, _ => throw ⟨.expectedBracket, r⟩

def separated {α : Type} (one : Reader α) (s : List Char) : Except Failure (List α × Shorter s) := do
  let (x, ⟨r, h⟩) ← one (trimStart s)
  have h₀ := length_trimStart s
  have h₁ := length_trimStart r
  match hr : trimStart r with
  | ',' :: r' =>
    have : r'.length < s.length := by simp only [hr, List.length_cons] at h₁; omega
    let (xs, ⟨r'', h'⟩) ← separated one r'
    return (x :: xs, ⟨r'', by omega⟩)
  | r' => return ([x], ⟨r', by rw [hr] at h₁; omega⟩)
termination_by s.length
decreasing_by exact this

def simplePseudo? : String → Option Component
  | "root" => some .root
  | "empty" => some .empty
  | "first-child" => some (.child .first)
  | "last-child" => some (.child .last)
  | "only-child" => some (.child .only)
  | "first-of-type" => some (.ofType .first)
  | "last-of-type" => some (.ofType .last)
  | "only-of-type" => some (.ofType .only)
  | _ => none

def nthPseudo? : String → Option (Nth → Component)
  | "nth-child" => some fun e => .child (.nth e)
  | "nth-last-child" => some fun e => .child (.nthLast e)
  | "nth-of-type" => some fun e => .ofType (.nth e)
  | "nth-last-of-type" => some fun e => .ofType (.nthLast e)
  | _ => none

def closeParenthesis {α : Type} {s : List Char} (x : α) (r : List Char) (h : r.length < s.length) :
    Except Failure (α × Shorter s) :=
  match r, h with
  | ')' :: r', h => .ok (x, ⟨r', length_lt_of_cons_lt h⟩)
  | r, _ => .error ⟨.expectedParenthesis, r⟩

def pseudoClass (inner : Option (Reader (List Compound))) : Reader Component := fun s => do
  if s.head? = some ':' then throw ⟨.pseudoElement, s⟩
  let (written, ⟨r, h⟩) ← identifier s
  let name := written.map Char.toLower
  match simplePseudo? name with
  | some c => return (c, ⟨r, h⟩)
  | none =>
    match r, h with
    | '(' :: r, h =>
      have h := length_lt_of_cons_lt h
      if name = "not" then
        match inner with
        | none => throw ⟨.nestedTooDeep, s⟩
        | some alternatives =>
          let (cs, ⟨r', h'⟩) ← alternatives r
          closeParenthesis (.not cs) r' (by omega)
      else
        match nthPseudo? name with
        | none => throw ⟨.unsupportedFunction name, s⟩
        | some build =>
          let argument := r.takeWhile (· != ')')
          match Nth.parse? argument with
          | none => throw ⟨.invalidNth (String.ofList argument), r⟩
          | some e =>
            closeParenthesis (build e) (r.dropWhile (· != ')')) (by
              have := length_dropWhile_le (· != ')') r
              omega)
    | _, _ => throw ⟨.unsupported name, s⟩

def component? (inner : Option (Reader (List Compound))) (s : List Char) :
    Option (Except Failure (Component × Shorter s)) :=
  match s with
  | '#' :: r => some do
    let (name, r') ← identifier r
    return (.id name, r'.behind _)
  | '.' :: r => some do
    let (name, r') ← identifier r
    return (.hasClass name, r'.behind _)
  | '[' :: r => some do
    let (test, r') ← attributeTest r
    return (.attribute test, r'.behind _)
  | ':' :: r => some do
    let (c, r') ← pseudoClass inner r
    return (c, r'.behind _)
  | _ => none

def components (inner : Option (Reader (List Compound))) (s : List Char) :
    Except Failure (List Component × NoLonger s) :=
  match component? inner s with
  | none => .ok ([], .all s)
  | some read => do
    let (c, ⟨r, h⟩) ← read
    let (cs, ⟨r', h'⟩) ← components inner r
    return (c :: cs, ⟨r', by omega⟩)
termination_by s.length
decreasing_by exact h

def leading (s : List Char) : Except Failure (List Component × NoLonger s) :=
  match s with
  | [] => .ok ([], .all _)
  | c :: r =>
    if c = '*' then .ok ([.universal], .drop 1 _)
    else if isNameStart c then do
      let (name, r') ← identifier (c :: r)
      return ([.tag name], r'.noLonger)
    else .ok ([], .all _)

def compoundWith (inner : Option (Reader (List Compound))) : Reader Compound := fun s => do
  let (front, ⟨r, _⟩) ← leading s
  let (behind, ⟨r', _⟩) ← components inner r
  if hl : r'.length < s.length then return (front ++ behind, ⟨r', hl⟩)
  else throw ⟨.expectedSelector s.head?, s⟩

def compound : Nat → Reader Compound
  | 0 => compoundWith none
  | n + 1 => compoundWith (some (separated (compound n)))

def combinator? : Char → Option Combinator
  | '>' => some .child
  | '+' => some .next
  | '~' => some .subsequent
  | _ => none

/-- The combinators and compounds that follow, up to a comma, a parenthesis or the end. -/
def joined (left : Complex) (s : List Char) : Except Failure (Complex × NoLonger s) :=
  have h₀ := length_trimStart s
  match hs : trimStart s with
  | [] => .ok (left, ⟨[], Nat.zero_le _⟩)
  | c :: r =>
    if c = ',' ∨ c = ')' then .ok (left, ⟨c :: r, by rw [hs] at h₀; exact h₀⟩)
    else
      match combinator? c with
      | some k => do
        let (right, ⟨r', h⟩) ← compound maxNesting (trimStart r)
        have := length_trimStart r
        have : r'.length < s.length := by simp only [hs, List.length_cons] at h₀; omega
        let (all, ⟨r'', h'⟩) ← joined (.join left k right) r'
        return (all, ⟨r'', by omega⟩)
      | none =>
        if (s.head?.any isBlank) then do
          let (right, ⟨r', h⟩) ← compound maxNesting (c :: r)
          have : r'.length < s.length := by rw [hs] at h₀; omega
          let (all, ⟨r'', h'⟩) ← joined (.join left .descendant right) r'
          return (all, ⟨r'', by omega⟩)
        else .error ⟨.unexpected c, c :: r⟩
termination_by s.length
decreasing_by all_goals exact this

def complex : Reader Complex := fun s => do
  let (first, ⟨r, h⟩) ← compound maxNesting s
  let (all, ⟨r', h'⟩) ← joined (.compound first) r
  return (all, ⟨r', by omega⟩)

def selectors (s : List Char) : Except Failure (List Complex) := do
  let (list, ⟨r, _⟩) ← separated complex s
  match trimStart r with
  | [] => return list
  | c :: r' => throw ⟨.unexpected c, c :: r'⟩

end MarkupSplice.Css
