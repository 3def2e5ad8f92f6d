import MarkupSplice.Css.Reader
import MarkupSplice.Proofs.Css.Nth

/-!
# Writing CSS selectors

`written` writes a list of selectors as a text. Names have a backslash in front of what is
no ASCII letter or digit, underscore or hyphen, and values stand in double quotes.
`Complex.Fits` tells the selectors that can be written at all: those without empty names,
compounds and lists, with a type name or star at the head of a compound only.
-/
namespace MarkupSplice.Css
open Text

def isBare (c : Char) : Bool := c.isAlphanum || c == '_' || c == '-'

def escaped (bare : Char → Bool) (c : Char) : List Char := if bare c then [c] else ['\\', c]

def writtenName (name : String) : List Char := name.toList.flatMap (escaped isBare)

/-- A name that nothing announces; what it cannot begin with is escaped too. -/
def writtenType (name : String) : List Char :=
  match name.toList with
  | [] => []
  | c :: s => escaped (fun c => isBare c && isNameStart c) c ++ s.flatMap (escaped isBare)

def writtenValue (v : String) : List Char :=
  '"' :: (v.toList.flatMap (escaped fun c => c != '"' && c != '\\') ++ ['"'])

def Operator.written : Operator → List Char
  | .exact => ['=']
  | .word => ['~', '=']
  | .dash => ['|', '=']
  | .start => ['^', '=']
  | .finish => ['$', '=']
  | .inside => ['*', '=']

def writtenFlag (ignoreCase : Bool) : List Char := if ignoreCase then [' ', 'i'] else []

def AttributeTest.written (t : AttributeTest) : List Char :=
  writtenName t.name ++
    match t.matcher with
    | none => []
    | some (op, v) => op.written ++ writtenValue v ++ writtenFlag t.ignoreCase

def Place.pseudoName (ofType : Bool) : Place → String
  | .first => if ofType then "first-of-type" else "first-child"
  | .last => if ofType then "last-of-type" else "last-child"
  | .only => if ofType then "only-of-type" else "only-child"
  | .nth _ => if ofType then "nth-of-type" else "nth-child"
  | .nthLast _ => if ofType then "nth-last-of-type" else "nth-last-child"

def Place.argument : Place → List Char
  | .nth e => '(' :: (e.written ++ [')'])
  | .nthLast e => '(' :: (e.written ++ [')'])
  | _ => []

def Place.written (ofType : Bool) (p : Place) : List Char :=
  (p.pseudoName ofType).toList ++ p.argument

mutual

def Component.written : Component → List Char
  | .universal => ['*']
  | .tag name => writtenType name
  | .id v => '#' :: writtenName v
  | .hasClass name => '.' :: writtenName name
  | .attribute t => '[' :: (t.written ++ [']'])
  | .root => ':' :: "root".toList
  | .empty => ':' :: "empty".toList
  | .child p => ':' :: p.written false
  | .ofType p => ':' :: p.written true
  | .not alternatives => ':' :: ("not".toList ++ '(' :: (writtenAlternatives alternatives ++ [')']))

def writtenCompound : List Component → List Char
  | [] => []
  | c :: cs => c.written ++ writtenCompound cs

def writtenAlternatives : List (List Component) → List Char
  | [] => []
  | [c] => writtenCompound c
  | c :: cs => writtenCompound c ++ ',' :: ' ' :: writtenAlternatives cs

end

def Combinator.written : Combinator → List Char
  | .descendant => [' ']
  | .child => [' ', '>', ' ']
  | .next => [' ', '+', ' ']
  | .subsequent => [' ', '~', ' ']

def Complex.written : Complex → List Char
  | .compound c => writtenCompound c
  | .join left k right => left.written ++ k.written ++ writtenCompound right

def listed {α : Type} (write : α → List Char) : List α → List Char
  | [] => []
  | [x] => write x
  | x :: xs => write x ++ ',' :: ' ' :: listed write xs

def written (selectors : List Complex) : List Char := listed Complex.written selectors

example : String.ofList (written
    [.join (.compound [.tag "31", .attribute ⟨"b", some (.exact, "c"), true⟩]) .child
      [.not [[.universal], [.child (.nth ⟨-1, 2⟩)]]]]) =
    "\\31[b=\"c\" i] > :not(*, :nth-child(-1n+2))" := by
  decide +kernel

def Component.leads : Component → Bool
  | .universal => true
  | .tag _ => true
  | _ => false

def AttributeTest.Fits (t : AttributeTest) : Prop :=
  t.name ≠ "" ∧ (t.matcher = none → t.ignoreCase = false)

def Component.Fits (inner : Compound → Prop) : Component → Prop
  | .tag name => name ≠ ""
  | .id v => v ≠ ""
  | .hasClass name => name ≠ ""
  | .attribute t => t.Fits
  | .not alternatives => alternatives ≠ [] ∧ ∀ c ∈ alternatives, inner c
  | _ => True

structure Compound.FitsOver (inner : Compound → Prop) (cs : Compound) : Prop where
  ne_nil : cs ≠ []
  leads : ∀ c ∈ cs.tail, c.leads = false
  fits : ∀ c ∈ cs, c.Fits inner

def Compound.Fits : Nat → Compound → Prop
  | 0 => Compound.FitsOver fun _ => False
  | n + 1 => Compound.FitsOver (Compound.Fits n)

def Complex.Fits (n : Nat) : Complex → Prop
  | .compound c => c.Fits n
  | .join left _ right => left.Fits n ∧ right.Fits n

instance (t : AttributeTest) : Decidable t.Fits :=
  inferInstanceAs (Decidable (t.name ≠ "" ∧ (t.matcher = none → t.ignoreCase = false)))

instance (inner : Compound → Prop) [DecidablePred inner] : DecidablePred (Component.Fits inner)
  | .tag name => inferInstanceAs (Decidable (name ≠ ""))
  | .id v => inferInstanceAs (Decidable (v ≠ ""))
  | .hasClass name => inferInstanceAs (Decidable (name ≠ ""))
  | .attribute t => inferInstanceAs (Decidable t.Fits)
  | .not alternatives =>
    inferInstanceAs (Decidable (alternatives ≠ [] ∧ ∀ c ∈ alternatives, inner c))
  | .universal | .root | .empty | .child _ | .ofType _ => isTrue trivial

instance (inner : Compound → Prop) [DecidablePred inner] :
    DecidablePred (Compound.FitsOver inner) := fun cs =>
  decidable_of_iff (cs ≠ [] ∧ (∀ c ∈ cs.tail, c.leads = false) ∧ ∀ c ∈ cs, c.Fits inner)
    ⟨fun ⟨hne, hleads, hfits⟩ => ⟨hne, hleads, hfits⟩, fun h => ⟨h.ne_nil, h.leads, h.fits⟩⟩

instance decidableCompoundFits : (n : Nat) → DecidablePred (Compound.Fits n)
  | 0 => inferInstanceAs (DecidablePred (Compound.FitsOver fun _ => False))
  | n + 1 =>
    have := decidableCompoundFits n
    inferInstanceAs (DecidablePred (Compound.FitsOver (Compound.Fits n)))

instance decidableComplexFits (n : Nat) : DecidablePred (Complex.Fits n)
  | .compound c => inferInstanceAs (Decidable (c.Fits n))
  | .join left _ right =>
    have := decidableComplexFits n left
    inferInstanceAs (Decidable (left.Fits n ∧ right.Fits n))

end MarkupSplice.Css
