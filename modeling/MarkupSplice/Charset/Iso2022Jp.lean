import MarkupSplice.Charset.Legacy

/-!
# Japanese with escape sequences

A text in this encoding switches between sets of characters by escape
sequences and is in the ASCII set where it begins and ends. Two sequences with
nothing between them are refused.
-/
namespace MarkupSplice.Charset.Iso2022Jp
open Text

inductive Mode
  | ascii
  | roman
  | katakana
  | kanji
deriving DecidableEq, Repr

def escapeByte : UInt8 := 0x1B

def switch? : Bytes → Option (Mode × Bytes)
  | 0x28 :: 0x42 :: r => some (.ascii, r)
  | 0x28 :: 0x4A :: r => some (.roman, r)
  | 0x28 :: 0x49 :: r => some (.katakana, r)
  | 0x24 :: 0x40 :: r => some (.kanji, r)
  | 0x24 :: 0x42 :: r => some (.kanji, r)
  | _ => none

theorem length_switch {s r : Bytes} {m : Mode} (h : switch? s = some (m, r)) :
    r.length < s.length := by
  unfold switch? at h
  split at h <;> cases h <;> simp only [List.length_cons] <;> omega

def Mode.char? (m : Mode) (b : UInt8) (r : Bytes) : Option (Char × NoLonger r) :=
  let n := b.toNat
  let plain : Option (Char × NoLonger r) :=
    if n < 0x80 ∧ n ≠ 0x0E ∧ n ≠ 0x0F then some (Char.ofNat n, .all r) else none
  match m with
  | .ascii => plain
  | .roman =>
    if n = 0x5C then some ('¥', .all r)
    else if n = 0x7E then some ('‾', .all r)
    else plain
  | .katakana =>
    if within 0x21 0x5F n then some (halfwidth (n - 0x21), .all r) else none
  | .kanji =>
    match r with
    | b' :: _ =>
      if within 0x21 0x7E n && within 0x21 0x7E b'.toNat then
        (Index.jis0208.char? ((n - 0x21) * 94 + (b'.toNat - 0x21))).map fun c => (c, .drop 1 _)
      else none
    | [] => none

/-- `switched` is the length of the bytes from an escape sequence on that nothing followed yet. -/
def decode (m : Mode) (switched : Option Nat) (s : Bytes) : Except Nat (List Char) :=
  match s with
  | [] => .ok []
  | b :: r =>
    if b = escapeByte then
      match h : switch? r with
      | none => .error (b :: r).length
      | some (m', r') =>
        match switched with
        | some n => .error n
        | none =>
          have := length_switch h
          decode m' (some (b :: r).length) r'
    else
      match m.char? b r with
      | none => .error (b :: r).length
      | some (c, ⟨r', _⟩) => (decode m none r').map (c :: ·)
termination_by s.length
decreasing_by all_goals simp only [List.length_cons]; omega

def fullwidth : List Char :=
  "。「」、・ヲァィゥェォャュョッーアイウエオカキクケコサシスセソタチツテトナニヌネノハヒフヘホマミムメモヤユヨラリルレロワン゛゜".toList

def Mode.enter : Mode → Bytes
  | .ascii => [0x1B, 0x28, 0x42]
  | .roman => [0x1B, 0x28, 0x4A]
  | .katakana => [0x1B, 0x28, 0x49]
  | .kanji => [0x1B, 0x24, 0x42]

/-- The mode to write a character in, and its bytes there; the present mode where it has it. -/
def write? (m : Mode) (c : Char) : Option (Mode × Bytes) :=
  let n := c.toNat
  if n = 0x0E ∨ n = 0x0F ∨ n = 0x1B then none
  else if n < 0x80 then
    if m = .roman ∧ n ≠ 0x5C ∧ n ≠ 0x7E then some (.roman, [byte n]) else some (.ascii, [byte n])
  else if c = '¥' then some (.roman, [0x5C])
  else if c = '‾' then some (.roman, [0x7E])
  else
    let c := if isHalfwidth c then fullwidth.getD (n - 0xFF61) c else c
    (japanesePlaceWhere? (fun _ => true) c).map fun p => (.kanji, [byte (p / 94 + 0x21), byte (p % 94 + 0x21)])

/-- What stands in for a character that cannot be written: a reference, outside the kanji. -/
def encode (reference : Char → Bytes) (m : Mode) : List Char → Bytes
  | [] => if m = .ascii then [] else Mode.ascii.enter
  | c :: s =>
    match write? m c with
    | some (m', bytes) => (if m' = m then [] else m'.enter) ++ bytes ++ encode reference m' s
    | none =>
      let c := if c.toNat < 0x80 then Index.absent else c
      if m = .kanji then Mode.ascii.enter ++ reference c ++ encode reference .ascii s
      else reference c ++ encode reference m s

end MarkupSplice.Charset.Iso2022Jp
