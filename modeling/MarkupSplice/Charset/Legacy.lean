import MarkupSplice.Charset.Basic
import MarkupSplice.Charset.Index
import MarkupSplice.Charset.Utf

/-!
# Encodings older than Unicode

All of these write ASCII characters as single bytes, so only the bytes from
0x80 on and the characters outside ASCII concern them. A reader is given the
first such byte and what follows it; a writer answers only for a character
that the encoding has.
-/
namespace MarkupSplice.Charset
open Text

abbrev ByteReader := (b : UInt8) → (r : Bytes) → Option (List Char × NoLonger r)

def one {r : Bytes} (c : Char) : List Char × NoLonger r := ([c], .all r)

def pair (char? : Nat → Nat → Option Char) : ByteReader := fun b r =>
  match r with
  | b' :: _ => (char? b.toNat b'.toNat).map fun c => ([c], .drop 1 _)
  | [] => none

def within (low high n : Nat) : Bool := low ≤ n && n ≤ high

def byte (n : Nat) : UInt8 := n.toUInt8

def singleByteReader (t : SingleByte) : ByteReader := fun b _ =>
  match t.upper[b.toNat - 0x80]? with
  | some c => if c = Index.absent then none else some (one c)
  | none => none

def singleByteBytes? (t : SingleByte) (c : Char) : Option Bytes :=
  if c = Index.absent then none
  else
    let n := t.upper.idxOf c
    if n < t.upper.length then some [byte (0x80 + n)] else none

def userDefinedReader : ByteReader := fun b _ => some (one (Char.ofNat (0xF700 + b.toNat)))

def userDefinedBytes? (c : Char) : Option Bytes :=
  if within 0xF780 0xF7FF c.toNat then some [byte (c.toNat - 0xF700)] else none

def halfwidth (n : Nat) : Char := Char.ofNat (0xFF61 + n)

def isHalfwidth (c : Char) : Bool := within 0xFF61 0xFF9F c.toNat

/-- The minus sign has no place of its own but shares that of the full-width one. -/
def japanesePlaceWhere? (admits : Nat → Bool) (c : Char) : Option Nat :=
  Index.jis0208.placeWhere? admits (if c = '\u2212' then '\uff0d' else c)

def shiftJisChar? (b b' : Nat) : Option Char :=
  if (within 0x81 0x9F b || within 0xE0 0xFC b) && (within 0x40 0x7E b' || within 0x80 0xFC b') then
    let place := (b - if b < 0xA0 then 0x81 else 0xC1) * 188 + (b' - if b' < 0x7F then 0x40 else 0x41)
    if within 8836 10715 place then some (Char.ofNat (0xE000 - 8836 + place))
    else Index.jis0208.char? place
  else none

def shiftJisReader : ByteReader := fun b r =>
  if b = 0x80 then some (one '\u0080')
  else if within 0xA1 0xDF b.toNat then some (one (halfwidth (b.toNat - 0xA1)))
  else pair shiftJisChar? b r

/-- The extensions that another row repeats are not written. -/
def shiftJisBytes? (c : Char) : Option Bytes :=
  if c = '\u0080' then some [0x80]
  else if c = '¥' then some [0x5C]
  else if c = '‾' then some [0x7E]
  else if isHalfwidth c then some [byte (c.toNat - 0xFF61 + 0xA1)]
  else
    (japanesePlaceWhere? (fun p => !within 8272 8835 p) c).map fun p =>
      let lead := p / 188
      let trail := p % 188
      [byte (lead + if lead < 0x1F then 0x81 else 0xC1),
        byte (trail + if trail < 0x3F then 0x40 else 0x41)]

def eucChar? (t : Index) (b b' : Nat) : Option Char :=
  if within 0xA1 0xFE b && within 0xA1 0xFE b' then t.char? ((b - 0xA1) * 94 + (b' - 0xA1)) else none

def eucJpReader : ByteReader := fun b r =>
  if b = 0x8E then
    pair (fun _ b' => if within 0xA1 0xDF b' then some (halfwidth (b' - 0xA1)) else none) b r
  else if b = 0x8F then
    match r with
    | b₁ :: b₂ :: _ => (eucChar? Index.jis0212 b₁.toNat b₂.toNat).map fun c => ([c], .drop 2 _)
    | _ => none
  else pair (eucChar? Index.jis0208) b r

def eucJpBytes? (c : Char) : Option Bytes :=
  if c = '¥' then some [0x5C]
  else if c = '‾' then some [0x7E]
  else if isHalfwidth c then some [0x8E, byte (c.toNat - 0xFF61 + 0xA1)]
  else (japanesePlaceWhere? (fun _ => true) c).map fun p => [byte (p / 94 + 0xA1), byte (p % 94 + 0xA1)]

def eucKrChar? (b b' : Nat) : Option Char :=
  if within 0x81 0xFE b && within 0x41 0xFE b' then
    Index.korean.char? ((b - 0x81) * 190 + (b' - 0x41))
  else none

def eucKrBytes? (c : Char) : Option Bytes :=
  (Index.korean.place? c).map fun p => [byte (p / 190 + 0x81), byte (p % 190 + 0x41)]

def chineseChar? (b b' : Nat) : Option Char :=
  if within 0x81 0xFE b && (within 0x40 0x7E b' || within 0x80 0xFE b') then
    Index.chinese.char? ((b - 0x81) * 190 + (b' - if b' < 0x7F then 0x40 else 0x41))
  else none

/-- A character of four bytes, of which the second is a digit. -/
def fourByteChar? (b b₁ b₂ b₃ : Nat) : Option Char :=
  if within 0x81 0xFE b && within 0x30 0x39 b₁ && within 0x81 0xFE b₂ && within 0x30 0x39 b₃ then
    Index.rangeChar? ((((b - 0x81) * 10 + (b₁ - 0x30)) * 126 + (b₂ - 0x81)) * 10 + (b₃ - 0x30))
  else none

def chineseReader : ByteReader := fun b r =>
  if b = 0x80 then some (one '€')
  else
    match r with
    | b₁ :: b₂ :: b₃ :: r' =>
      match fourByteChar? b.toNat b₁.toNat b₂.toNat b₃.toNat with
      | some c => some ([c], .drop 3 _)
      | none => pair chineseChar? b (b₁ :: b₂ :: b₃ :: r')
    | r => pair chineseChar? b r

def chinesePair? (c : Char) : Option Bytes :=
  (Index.chinesePlace? c).map fun p =>
    let trail := p % 190
    [byte (p / 190 + 0x81), byte (trail + if trail < 0x3F then 0x40 else 0x41)]

def gbkBytes? (c : Char) : Option Bytes := if c = '€' then some [0x80] else chinesePair? c

def gb18030Bytes? (c : Char) : Option Bytes :=
  if c = '\ue5e5' then none
  else (chinesePair? c).or
    (let p := Index.rangePlace c
    some [byte (p / 12600 + 0x81), byte (p / 1260 % 10 + 0x30), byte (p / 10 % 126 + 0x81),
      byte (p % 10 + 0x30)])

/-- Four places of Big5 hold a letter with a mark. -/
def big5Marked? (place : Nat) : Option (List Char) :=
  match place with
  | 1133 => some ['\u00ca', '\u0304']
  | 1135 => some ['\u00ca', '\u030c']
  | 1164 => some ['\u00ea', '\u0304']
  | 1166 => some ['\u00ea', '\u030c']
  | _ => none

def big5Reader : ByteReader := fun b r =>
  match r with
  | b' :: _ =>
    if within 0x81 0xFE b.toNat && (within 0x40 0x7E b'.toNat || within 0xA1 0xFE b'.toNat) then
      let place := (b.toNat - 0x81) * 157 + (b'.toNat - if b'.toNat < 0x7F then 0x40 else 0x62)
      ((big5Marked? place).or ((Index.big5.char? place).map ([·]))).map fun cs => (cs, .drop 1 _)
    else none
  | [] => none

/-- Written at the last of their places, as all others are at the first one. -/
def big5Repeated : List Char := ['\u2550', '\u255e', '\u2561', '\u256a', '\u5341', '\u5345']

/-- The supplement is only read. -/
def big5Bytes? (c : Char) : Option Bytes :=
  let first := Index.big5.placeWhere? (fun p => 5024 ≤ p) c
  let place := if big5Repeated.contains c then
      first.bind fun p => (Index.big5.placeWhere? (fun q => p < q) c).or (some p)
    else first
  place.map fun p =>
    let trail := p % 157
    [byte (p / 157 + 0x81), byte (trail + if trail < 0x3F then 0x40 else 0x62)]

end MarkupSplice.Charset
