import MarkupSplice.Text.Bytes
import MarkupSplice.Text.Shorter

/-!
# Unicode encodings

UTF-8 and UTF-16 of both byte orders. A reader takes the first character off
the bytes; it refuses what no character is written as, such as overlong forms,
halves of a surrogate pair and characters cut off by the end.
-/
namespace MarkupSplice.Charset
open Text

def continuation? (b : UInt8) : Option Nat :=
  if 0x80 ≤ b.toNat ∧ b.toNat < 0xC0 then some (b.toNat - 0x80) else none

/-- The character of a code point that is not too small for its form. -/
def scalar? (least n : Nat) : Option Char :=
  if least ≤ n ∧ n.isValidChar then some (Char.ofNat n) else none

def utf8Char? (b : UInt8) (r : Bytes) : Option (Char × NoLonger r) :=
  let n := b.toNat
  if n < 0x80 then some (Char.ofNat n, .all r)
  else if n < 0xC0 then none
  else if n < 0xE0 then
    match r with
    | b₁ :: _ => do
      let c ← scalar? 0x80 ((n - 0xC0) * 64 + (← continuation? b₁))
      return (c, .drop 1 _)
    | _ => none
  else if n < 0xF0 then
    match r with
    | b₁ :: b₂ :: _ => do
      let c ← scalar? 0x800 (((n - 0xE0) * 64 + (← continuation? b₁)) * 64 + (← continuation? b₂))
      return (c, .drop 2 _)
    | _ => none
  else if n < 0xF8 then
    match r with
    | b₁ :: b₂ :: b₃ :: _ => do
      let c ← scalar? 0x10000 ((((n - 0xF0) * 64 + (← continuation? b₁)) * 64 +
        (← continuation? b₂)) * 64 + (← continuation? b₃))
      return (c, .drop 3 _)
    | _ => none
  else none

def utf8Bytes (c : Char) : Bytes := String.utf8EncodeChar c

inductive ByteOrder
  | little
  | big
deriving DecidableEq, Repr

def ByteOrder.join (o : ByteOrder) (a b : UInt8) : Nat :=
  match o with
  | .little => b.toNat * 256 + a.toNat
  | .big => a.toNat * 256 + b.toNat

def ByteOrder.split (o : ByteOrder) (n : Nat) : Bytes :=
  let high := (n / 256).toUInt8
  let low := (n % 256).toUInt8
  match o with
  | .little => [low, high]
  | .big => [high, low]

def utf16Char? (o : ByteOrder) (a : UInt8) (r : Bytes) : Option (Char × NoLonger r) :=
  match r with
  | [] => none
  | b :: r =>
    let n := o.join a b
    if n < 0xD800 ∨ 0xE000 ≤ n then some (Char.ofNat n, .drop 1 _)
    else if n < 0xDC00 then
      match r with
      | a' :: b' :: _ =>
        let n' := o.join a' b'
        if 0xDC00 ≤ n' ∧ n' < 0xE000 then
          some (Char.ofNat (0x10000 + (n - 0xD800) * 0x400 + (n' - 0xDC00)), .drop 3 _)
        else none
      | _ => none
    else none

def utf16Bytes (o : ByteOrder) (c : Char) : Bytes :=
  let n := c.toNat
  if n < 0x10000 then o.split n
  else o.split (0xD800 + (n - 0x10000) / 0x400) ++ o.split (0xDC00 + (n - 0x10000) % 0x400)

end MarkupSplice.Charset
