import MarkupSplice.Decimal.Binary

/-!
# The fewest digits that read back

Between two neighbouring doubles lies the interval of the reals that round to
the one at hand. The shortest decimal of a double is the multiple of the
highest power of ten in its interval, of several the nearest, of two equally
near ones the greater. It is found by going down the powers of ten, with exact
arithmetic: at each power only the two multiples around the double can be hits.
-/
namespace MarkupSplice.Decimal

structure Digits where
  digits : Nat
  exponent : Int
deriving DecidableEq, Repr

/-- Four times a mantissa, so that the bounds of its interval are whole numbers as well. -/
structure Interval where
  low : Nat
  center : Nat
  high : Nat
  closed : Bool
  exponent : Int
deriving Repr

/-- Below a power of two the doubles lie twice as close. -/
def Interval.of (b : Binary) : Interval :=
  let m := b.mantissa
  let below := if m = mantissaBits ∧ b.exponent > -1074 then 1 else 2
  ⟨4 * m - below, 4 * m, 4 * m + 2, m % 2 == 0, b.exponent - 2⟩

def binaryFactor (e k : Int) : Nat := Nat.pow 2 e.toNat * Nat.pow 10 (-k).toNat

def decimalFactor (e k : Int) : Nat := Nat.pow 10 k.toNat * Nat.pow 2 (-e).toNat

def Interval.contains (i : Interval) (k : Int) (d : Nat) : Bool :=
  let x := d * decimalFactor i.exponent k
  let low := i.low * binaryFactor i.exponent k
  let high := i.high * binaryFactor i.exponent k
  if i.closed then low ≤ x && x ≤ high else low < x && x < high

/-- The multiple of `10 ^ k` in the interval that is nearest to its center. -/
def Interval.multiple? (i : Interval) (k : Int) : Option Nat :=
  let unit := decimalFactor i.exponent k
  let center := i.center * binaryFactor i.exponent k
  let d := center / unit
  match i.contains k d && d != 0, i.contains k (d + 1) with
  | true, true => if 2 * (center - d * unit) < unit then some d else some (d + 1)
  | true, false => some d
  | false, true => some (d + 1)
  | false, false => none

def Interval.search (i : Interval) : Nat → Int → Option Digits
  | 0, _ => none
  | fuel + 1, k =>
    match i.multiple? k with
    | some d => some ⟨d, k⟩
    | none => i.search fuel (k - 1)

/-- No double reaches ten to the power of 310, and none needs a lower power than -1100. -/
def shortest (b : Binary) : Digits :=
  if b.mantissa = 0 then ⟨0, 0⟩ else ((Interval.of b).search 1410 310).getD ⟨0, 0⟩

def Digits.text (d : Digits) : List Char := Nat.toDigits 10 d.digits

def Digits.magnitude (d : Digits) : Int := d.exponent + d.text.length - 1

def Digits.positional (d : Digits) (fraction : String) : String :=
  let text := d.text
  if 0 ≤ d.exponent then
    String.ofList (text ++ List.replicate d.exponent.toNat '0') ++ fraction
  else
    let places := (-d.exponent).toNat
    let padded := List.replicate (places + 1 - text.length) '0' ++ text
    let cut := padded.length - places
    String.ofList (padded.take cut ++ '.' :: padded.drop cut)

def Digits.scientific (d : Digits) : String :=
  let mantissa := match d.text with
    | [] => []
    | [c] => [c]
    | c :: rest => c :: '.' :: rest
  String.ofList mantissa ++ "e" ++ toString d.magnitude

structure Style where
  nan : String
  infinity : String
  fraction : String
  isPositional : Int → Bool

def Style.write (s : Style) (x : Float) : String :=
  match Binary.ofFloat? x with
  | none =>
    if x.isNaN then s.nan else (if isNegative x then "-" else "") ++ s.infinity
  | some b =>
    let d := shortest b
    let text :=
      if b.mantissa == 0 || s.isPositional d.magnitude then d.positional s.fraction else d.scientific
    (if b.negative then "-" else "") ++ text

def plain : Style := ⟨"NaN", "Infinity", "", fun _ => true⟩

/-- A number shows that it is one; very great and very small ones have an exponent. -/
def marked : Style := ⟨"NaN", "inf", ".0", fun e => -4 ≤ e && e < 16⟩

end MarkupSplice.Decimal
