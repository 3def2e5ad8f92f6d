import MarkupSplice.Charset.Iso2022Jp

/-!
# Decoding and encoding

Decoding is strict: bytes that stand for nothing are an error at the first of
them. A byte-order mark is a character like any other. Encoding never fails:
a character that the encoding lacks is written as a numeric reference.
-/
namespace MarkupSplice.Charset
open Text

inductive CharsetError
  | malformed (charset : Charset) (offset : Nat)
deriving DecidableEq, Repr

def CharsetError.message : CharsetError → String
  | .malformed c offset => "malformed " ++ c.name ++ " input at byte " ++ toString offset

/-- Character by character; an error is the number of bytes from the malformed ones on. -/
def decodeWith (read : ByteReader) (s : Bytes) : Except Nat (List Char) :=
  match s with
  | [] => .ok []
  | b :: r =>
    match read b r with
    | none => .error (b :: r).length
    | some (cs, ⟨r', h⟩) =>
      have := length_lt_cons_of_le b h
      (decodeWith read r').map (cs ++ ·)
termination_by s.length
decreasing_by exact this

def overAscii (read : ByteReader) : ByteReader := fun b r =>
  if b.toNat < 0x80 then some (one (Char.ofNat b.toNat)) else read b r

def reader : Charset → ByteReader
  | .utf8 => fun b r => (utf8Char? b r).map fun (c, r) => ([c], r)
  | .utf16le => fun b r => (utf16Char? .little b r).map fun (c, r) => ([c], r)
  | .utf16be => fun b r => (utf16Char? .big b r).map fun (c, r) => ([c], r)
  | .singleByte t => overAscii (singleByteReader t)
  | .gbk | .gb18030 => overAscii chineseReader
  | .big5 => overAscii big5Reader
  | .eucJp => overAscii eucJpReader
  | .iso2022Jp => overAscii fun _ _ => none
  | .shiftJis => overAscii shiftJisReader
  | .eucKr => overAscii (pair eucKrChar?)
  | .userDefined => overAscii userDefinedReader

def decodeChars (c : Charset) (s : Bytes) : Except Nat (List Char) :=
  match c with
  | .iso2022Jp => Iso2022Jp.decode .ascii none s
  | c => decodeWith c.reader s

def decode (c : Charset) (s : Bytes) : Except CharsetError String :=
  match c.decodeChars s with
  | .ok text => .ok (String.ofList text)
  | .error left => .error (.malformed c (s.length - left))

def asciiOr (write? : Char → Option Bytes) (c : Char) : Option Bytes :=
  if c.toNat < 0x80 then some [byte c.toNat] else write? c

def charBytes? : Charset → Char → Option Bytes
  | .utf8, c => some (utf8Bytes c)
  | .utf16le, c => some (utf16Bytes .little c)
  | .utf16be, c => some (utf16Bytes .big c)
  | .singleByte t, c => asciiOr (singleByteBytes? t) c
  | .gbk, c => asciiOr gbkBytes? c
  | .gb18030, c => asciiOr gb18030Bytes? c
  | .big5, c => asciiOr big5Bytes? c
  | .eucJp, c => asciiOr eucJpBytes? c
  | .iso2022Jp, c => (Iso2022Jp.write? .ascii c).map Prod.snd
  | .shiftJis, c => asciiOr shiftJisBytes? c
  | .eucKr, c => asciiOr eucKrBytes? c
  | .userDefined, c => asciiOr userDefinedBytes? c

def reference (c : Char) : Bytes := ("&#" ++ toString c.toNat ++ ";").toList.map fun c => byte c.toNat

def encode (c : Charset) (text : String) : Bytes :=
  match c with
  | .iso2022Jp => Iso2022Jp.encode reference .ascii text.toList
  | c => text.toList.flatMap fun x => (c.charBytes? x).getD (reference x)

def lacks (c : Charset) (text : String) : Bool := text.toList.any fun x => (c.charBytes? x).isNone

end MarkupSplice.Charset
