import MarkupSplice.Text.Digits
import MarkupSplice.Markup.EntityTable

/-!
# Character references

`unescape` replaces each reference `&name;` that stands for a character and
leaves all else as it is. A name is a number, decimal or hexadecimal, one of
the five names of XML, or one of the names of HTML. Between `&` and `;` a
reference holds neither of the two, so references never overlap, and what one
stands for is not read again.
-/
namespace MarkupSplice.Markup
open Text

/-- Control characters other than tab, line feed, form feed and carriage return have no number. -/
def numbered? (n : Nat) : Option Char :=
  if n < 0x20 ∧ n ≠ 9 ∧ n ≠ 10 ∧ n ≠ 12 ∧ n ≠ 13 then none
  else if h : n.isValidChar then some ⟨n.toUInt32, by
      simp only [UInt32.isValidChar, Nat.toUInt32, UInt32.toNat_ofNat']
      rcases h with h | h <;> simp only [Nat.isValidChar] <;> omega⟩
  else none

def predefined : List (String × Char) :=
  [("amp", '&'), ("lt", '<'), ("gt", '>'), ("quot", '"'), ("apos", '\'')]

def entityPairs : List String → List (String × Char)
  | name :: code :: rest =>
    match (number? hexDigit? 16 code.toList).bind numbered? with
    | some c => (name, c) :: entityPairs rest
    | none => entityPairs rest
  | _ => []

def entityTable : List (String × Char) :=
  entityNames.flatMap fun line => entityPairs ((line.toList.splitOn ' ').map String.ofList)

def named? (name : List Char) : Option Char :=
  let name := String.ofList name
  (predefined.lookup name).or (entityTable.lookup name)

def referenced? : List Char → Option Char
  | '#' :: 'x' :: s => (number? hexDigit? 16 s).bind numbered?
  | '#' :: 'X' :: s => (number? hexDigit? 16 s).bind numbered?
  | '#' :: s => (number? decimalDigit? 10 s).bind numbered?
  | s => named? s

def referenceName? : List Char → Option (List Char × List Char)
  | [] => none
  | c :: s =>
    if c = ';' then some ([], s)
    else if c = '&' then none
    else (referenceName? s).map fun (name, r) => (c :: name, r)

theorem length_referenceName {s name r : List Char} (h : referenceName? s = some (name, r)) :
    r.length < s.length := by
  induction s generalizing name with
  | nil => cases h
  | cons c s ih =>
    simp only [referenceName?] at h
    split at h
    · cases h
      exact Nat.lt_succ_self _
    · split at h
      · cases h
      · obtain ⟨⟨name', r'⟩, hn, he⟩ := Option.map_eq_some_iff.1 h
        obtain ⟨rfl, rfl⟩ := Prod.mk.inj he
        exact Nat.lt_succ_of_lt (ih hn)

def reference? (s : List Char) : Option (Char × List Char) :=
  match referenceName? s with
  | some (name, r) => (referenced? name).map fun c => (c, r)
  | none => none

theorem length_reference {s r : List Char} {c : Char} (h : reference? s = some (c, r)) :
    r.length < s.length := by
  unfold reference? at h
  split at h
  · rename_i hn
    obtain ⟨c', -, he⟩ := Option.map_eq_some_iff.1 h
    obtain ⟨-, rfl⟩ := Prod.mk.inj he
    exact length_referenceName hn
  · cases h

def unescapeChars (s : List Char) : List Char :=
  match s with
  | [] => []
  | c :: s =>
    if c = '&' then
      match h : reference? s with
      | some (c', r) =>
        have := length_reference h
        c' :: unescapeChars r
      | none => '&' :: unescapeChars s
    else c :: unescapeChars s
termination_by s.length

def unescape (s : String) : String := String.ofList (unescapeChars s.toList)

end MarkupSplice.Markup
