/-!
# Doubles as exact numbers

A finite double is a mantissa times a power of two, with a sign. On that form
the remainder of a division, which keeps the sign of the dividend, is exact.
-/
namespace MarkupSplice.Decimal

structure Binary where
  negative : Bool
  mantissa : Nat
  exponent : Int
deriving DecidableEq, Repr

def mantissaBits : Nat := 0x10000000000000

def isNegative (x : Float) : Bool := x.toBits.toNat / 0x8000000000000000 == 1

/-- An infinity and what is no number have no exact form. -/
def Binary.ofFloat? (x : Float) : Option Binary :=
  let bits := x.toBits.toNat
  let e := bits / mantissaBits % 2048
  let m := bits % mantissaBits
  if e = 2047 then none
  else if e = 0 then some ⟨isNegative x, m, -1074⟩
  else some ⟨isNegative x, m + mantissaBits, e - 1075⟩

def Binary.toFloat (b : Binary) : Float :=
  let x := (Float.ofNat b.mantissa).scaleB b.exponent
  if b.negative then -x else x

/-- The remainder with the sign of `x`, both numbers brought to the lesser exponent. -/
def Binary.remainder (x y : Binary) : Binary :=
  let e := min x.exponent y.exponent
  let a := x.mantissa * Nat.pow 2 (x.exponent - e).toNat
  let b := y.mantissa * Nat.pow 2 (y.exponent - e).toNat
  ⟨x.negative, a % b, e⟩

def nan : Float := 0.0 / 0.0

def remainder (x y : Float) : Float :=
  match Binary.ofFloat? x, Binary.ofFloat? y with
  | some a, some b => if b.mantissa = 0 then nan else (a.remainder b).toFloat
  | some _, none => if y.isNaN then nan else x
  | none, _ => nan

end MarkupSplice.Decimal
