import MarkupSplice.Charset.Codec
import MarkupSplice.Proofs.Edit.Shift

/-!
# Unicode encodings lose nothing

A reader of one character and a writer of one undo each other (`Inverts`): the
reader takes off just the bytes that are written for the character it finds,
and finds a character wherever one is written. The same then holds of whole
texts (`decode_eq_ok_iff`), and since these encodings write each character for
itself, a document that is rewritten keeps the bytes of all that stays.
-/
namespace MarkupSplice.Charset
open Text

theorem isValidChar_iff {n : Nat} :
    n.isValidChar ↔ n < 0xD800 ∨ 0xE000 ≤ n ∧ n < 0x110000 := Iff.rfl

theorem isValidChar_toNat (c : Char) :
    c.toNat < 0xD800 ∨ 0xE000 ≤ c.toNat ∧ c.toNat < 0x110000 :=
  isValidChar_iff.1 c.valid

theorem toNat_ofNat_of_valid {n : Nat} (h : n.isValidChar) : (Char.ofNat n).toNat = n := by
  rw [Char.ofNat, dif_pos h]
  rfl

namespace ByteOrder

theorem join_split (o : ByteOrder) {n : Nat} (h : n < 0x10000) :
    ∃ a b, o.split n = [a, b] ∧ o.join a b = n := by
  have hhigh : (n / 256).toUInt8.toNat = n / 256 := by
    rw [Nat.toUInt8_eq, UInt8.toNat_ofNat']
    omega
  have hlow : (n % 256).toUInt8.toNat = n % 256 := by
    rw [Nat.toUInt8_eq, UInt8.toNat_ofNat']
    omega
  cases o with
  | little => exact ⟨_, _, rfl, by rw [join, hhigh, hlow]; omega⟩
  | big => exact ⟨_, _, rfl, by rw [join, hhigh, hlow]; omega⟩

theorem split_join (o : ByteOrder) (a b : UInt8) : o.split (o.join a b) = [a, b] := by
  have ha := a.toNat_lt
  have hb := b.toNat_lt
  have hbyte : ∀ {n : Nat} {x : UInt8}, n = x.toNat → n.toUInt8 = x := by
    rintro n x rfl
    exact UInt8.ofNat_toNat
  cases o with
  | little =>
    have hhigh : ((b.toNat * 256 + a.toNat) / 256).toUInt8 = b := hbyte (by omega)
    have hlow : ((b.toNat * 256 + a.toNat) % 256).toUInt8 = a := hbyte (by omega)
    simp only [join, split, hhigh, hlow]
  | big =>
    have hhigh : ((a.toNat * 256 + b.toNat) / 256).toUInt8 = a := hbyte (by omega)
    have hlow : ((a.toNat * 256 + b.toNat) % 256).toUInt8 = b := hbyte (by omega)
    simp only [join, split, hhigh, hlow]

theorem join_lt (o : ByteOrder) (a b : UInt8) : o.join a b < 0x10000 := by
  have ha := a.toNat_lt
  have hb := b.toNat_lt
  cases o with
  | little => simp only [join]; omega
  | big => simp only [join]; omega

end ByteOrder

structure Inverts (read : (b : UInt8) → (r : Bytes) → Option (Char × NoLonger r))
    (write : Char → Bytes) : Prop where
  read_write : ∀ c r, ∃ b s, ∃ r' : NoLonger s,
    write c ++ r = b :: s ∧ read b s = some (c, r') ∧ r'.val = r
  write_read : ∀ {b s c r}, read b s = some (c, r) → write c ++ r.val = b :: s

variable {o : ByteOrder} {a b : UInt8} {s : Bytes} {c : Char} {r : NoLonger s}

theorem utf16Char?_cases (h : utf16Char? o a s = some (c, r)) :
    (∃ b, s = b :: r.val ∧ c.toNat = o.join a b ∧ c.toNat < 0x10000) ∨
    ∃ b a' b', s = b :: a' :: b' :: r.val ∧ 0xD800 ≤ o.join a b ∧ 0xDC00 ≤ o.join a' b' ∧
      o.join a' b' < 0xE000 ∧
      c.toNat = 0x10000 + (o.join a b - 0xD800) * 0x400 + (o.join a' b' - 0xDC00) := by
  cases s with
  | nil => cases h
  | cons b s =>
    have hlt := o.join_lt a b
    simp only [utf16Char?] at h
    split at h
    · rename_i hunit
      simp only [Option.some.injEq, Prod.mk.injEq] at h
      obtain ⟨rfl, rfl⟩ := h
      have hvalue : (Char.ofNat (o.join a b)).toNat = o.join a b :=
        toNat_ofNat_of_valid (isValidChar_iff.2 (by omega))
      exact Or.inl ⟨b, rfl, hvalue, by omega⟩
    · split at h
      · split at h
        · split at h
          · rename_i htrail
            simp only [Option.some.injEq, Prod.mk.injEq] at h
            obtain ⟨rfl, rfl⟩ := h
            refine Or.inr ⟨b, _, _, rfl, by omega, htrail.1, htrail.2, ?_⟩
            exact toNat_ofNat_of_valid (isValidChar_iff.2 (by omega))
          · cases h
        · cases h
      · cases h

theorem utf16Char?_utf16Bytes (o : ByteOrder) (c : Char) (r : Bytes) :
    ∃ b s, ∃ r' : NoLonger s,
      utf16Bytes o c ++ r = b :: s ∧ utf16Char? o b s = some (c, r') ∧ r'.val = r := by
  have hchar := isValidChar_toNat c
  by_cases hsmall : c.toNat < 0x10000
  · obtain ⟨a, b, hsplit, hjoin⟩ := o.join_split hsmall
    refine ⟨a, b :: r, .drop 1 _, ?_, ?_, rfl⟩
    · simp [utf16Bytes, hsmall, hsplit]
    · have hrange : c.toNat < 0xD800 ∨ 0xE000 ≤ c.toNat := by omega
      simp [utf16Char?, hjoin, hrange]
  · obtain ⟨a, b, hsplit, hjoin⟩ :=
      o.join_split (n := 0xD800 + (c.toNat - 0x10000) / 0x400) (by omega)
    obtain ⟨a', b', hsplit', hjoin'⟩ :=
      o.join_split (n := 0xDC00 + (c.toNat - 0x10000) % 0x400) (by omega)
    refine ⟨a, b :: a' :: b' :: r, .drop 3 _, ?_, ?_, rfl⟩
    · simp [utf16Bytes, hsmall, hsplit, hsplit']
    · have hhigh : ¬(o.join a b < 0xD800 ∨ 0xE000 ≤ o.join a b) := by omega
      have hlead : o.join a b < 0xDC00 := by omega
      have htrail : 0xDC00 ≤ o.join a' b' ∧ o.join a' b' < 0xE000 := by omega
      have hvalue : 0x10000 + (o.join a b - 0xD800) * 0x400 + (o.join a' b' - 0xDC00) =
          c.toNat := by omega
      simp only [utf16Char?, if_neg hhigh, if_pos hlead, if_pos htrail, hvalue, Char.ofNat_toNat]

theorem utf16Bytes_of_utf16Char? (h : utf16Char? o a s = some (c, r)) :
    utf16Bytes o c ++ r.val = a :: s := by
  rcases utf16Char?_cases h with ⟨b, hs, hvalue, hsmall⟩ |
    ⟨b, a', b', hs, hlead, htrail, hend, hvalue⟩
  · have hunit : o.split c.toNat = [a, b] := by rw [hvalue, o.split_join]
    simp [utf16Bytes, hsmall, hunit, hs]
  · have hfirst : 0xD800 + (c.toNat - 0x10000) / 0x400 = o.join a b := by omega
    have hsecond : 0xDC00 + (c.toNat - 0x10000) % 0x400 = o.join a' b' := by omega
    have hlarge : ¬c.toNat < 0x10000 := by omega
    simp [utf16Bytes, hlarge, hfirst, hsecond, o.split_join, hs]

theorem inverts_utf16 (o : ByteOrder) : Inverts (utf16Char? o) (utf16Bytes o) :=
  ⟨utf16Char?_utf16Bytes o, utf16Bytes_of_utf16Char?⟩

theorem continuation?_eq_some {n : Nat} :
    continuation? b = some n ↔ b.toNat = 0x80 + n ∧ n < 0x40 := by
  unfold continuation?
  split
  · simp only [Option.some.injEq]
    omega
  · simp only [reduceCtorEq, false_iff]
    omega

theorem continuation?_add {n : Nat} (h : n < 0x40) :
    continuation? (UInt8.ofNat (n + 0x80)) = some n := by
  rw [continuation?_eq_some, UInt8.toNat_ofNat']
  omega

theorem scalar?_eq_some {least n : Nat} :
    scalar? least n = some c ↔ c.toNat = n ∧ least ≤ n := by
  unfold scalar?
  split
  · rename_i h
    rw [Option.some.injEq, ← Char.toNat_inj, toNat_ofNat_of_valid h.2]
    exact ⟨fun heq => ⟨heq.symm, h.1⟩, fun heq => heq.1.symm⟩
  · rename_i h
    simp only [reduceCtorEq, false_iff]
    rintro ⟨rfl, hle⟩
    exact h ⟨hle, c.valid⟩

/-- A character is read from as many bytes as its code point needs, and from no more. -/
theorem utf8Char?_cases (h : utf8Char? b s = some (c, r)) :
    (s = r.val ∧ c.toNat < 0x80 ∧ b.toNat = c.toNat) ∨
    (∃ b₁ m, s = b₁ :: r.val ∧ continuation? b₁ = some m ∧ 0x80 ≤ c.toNat ∧ b.toNat < 0xE0 ∧
      c.toNat = (b.toNat - 0xC0) * 64 + m) ∨
    (∃ b₁ b₂ m n, s = b₁ :: b₂ :: r.val ∧ continuation? b₁ = some m ∧ continuation? b₂ = some n ∧
      0x800 ≤ c.toNat ∧ (0xE0 ≤ b.toNat ∧ b.toNat < 0xF0) ∧
      c.toNat = ((b.toNat - 0xE0) * 64 + m) * 64 + n) ∨
    ∃ b₁ b₂ b₃ m n k, s = b₁ :: b₂ :: b₃ :: r.val ∧ continuation? b₁ = some m ∧
      continuation? b₂ = some n ∧ continuation? b₃ = some k ∧ 0x10000 ≤ c.toNat ∧
      (0xF0 ≤ b.toNat ∧ b.toNat < 0xF8) ∧
      c.toNat = (((b.toNat - 0xF0) * 64 + m) * 64 + n) * 64 + k := by
  simp only [utf8Char?] at h
  split at h
  · rename_i hn
    simp only [Option.some.injEq, Prod.mk.injEq] at h
    obtain ⟨rfl, rfl⟩ := h
    have hvalue : (Char.ofNat b.toNat).toNat = b.toNat :=
      toNat_ofNat_of_valid (isValidChar_iff.2 (by omega))
    exact Or.inl ⟨rfl, by omega, hvalue.symm⟩
  · split at h
    · cases h
    · split at h
      · rename_i hn
        split at h
        · obtain ⟨m, hm, h⟩ := Option.bind_eq_some_iff.1 h
          obtain ⟨c', hc, h⟩ := Option.bind_eq_some_iff.1 h
          cases h
          obtain ⟨hvalue, hle⟩ := scalar?_eq_some.1 hc
          exact Or.inr (Or.inl ⟨_, m, rfl, hm, hvalue ▸ hle, hn, hvalue⟩)
        · cases h
      · split at h
        · rename_i hn
          split at h
          · obtain ⟨m, hm, h⟩ := Option.bind_eq_some_iff.1 h
            obtain ⟨n, hn', h⟩ := Option.bind_eq_some_iff.1 h
            obtain ⟨c', hc, h⟩ := Option.bind_eq_some_iff.1 h
            cases h
            obtain ⟨hvalue, hle⟩ := scalar?_eq_some.1 hc
            exact Or.inr (Or.inr (Or.inl ⟨_, _, m, n, rfl, hm, hn', hvalue ▸ hle, ⟨by omega, hn⟩,
              hvalue⟩))
          · cases h
        · split at h
          · rename_i hn
            split at h
            · obtain ⟨m, hm, h⟩ := Option.bind_eq_some_iff.1 h
              obtain ⟨n, hn', h⟩ := Option.bind_eq_some_iff.1 h
              obtain ⟨k, hk, h⟩ := Option.bind_eq_some_iff.1 h
              obtain ⟨c', hc, h⟩ := Option.bind_eq_some_iff.1 h
              cases h
              obtain ⟨hvalue, hle⟩ := scalar?_eq_some.1 hc
              exact Or.inr (Or.inr (Or.inr
                ⟨_, _, _, m, n, k, rfl, hm, hn', hk, hvalue ▸ hle, ⟨by omega, hn⟩, hvalue⟩))
            · cases h
          · cases h

theorem byte_eq {n : Nat} (h : b.toNat = n) : UInt8.ofNat n = b := by
  rw [← h, UInt8.ofNat_toNat]

theorem utf8Bytes_of_utf8Char? (h : utf8Char? b s = some (c, r)) :
    utf8Bytes c ++ r.val = b :: s := by
  have hvalid := isValidChar_toNat c
  unfold utf8Bytes String.utf8EncodeChar
  simp only [Char.toNat_val]
  rcases utf8Char?_cases h with ⟨hs, hc, hb⟩ | ⟨b₁, m, hs, hm, hc, hb, hvalue⟩ |
    ⟨b₁, b₂, m, n, hs, hm, hn, hc, hb, hvalue⟩ |
    ⟨b₁, b₂, b₃, m, n, k, hs, hm, hn, hk, hc, hb, hvalue⟩
  · rw [if_pos (by omega), byte_eq hb]
    exact congrArg (b :: ·) hs.symm
  · obtain ⟨h₁, hm⟩ := continuation?_eq_some.1 hm
    rw [if_neg (by omega), if_pos (by omega), byte_eq (b := b) (by omega),
      byte_eq (b := b₁) (by omega)]
    exact congrArg (b :: ·) hs.symm
  · obtain ⟨h₁, hm⟩ := continuation?_eq_some.1 hm
    obtain ⟨h₂, hn⟩ := continuation?_eq_some.1 hn
    rw [if_neg (by omega), if_neg (by omega), if_pos (by omega), byte_eq (b := b) (by omega),
      byte_eq (b := b₁) (by omega), byte_eq (b := b₂) (by omega)]
    exact congrArg (b :: ·) hs.symm
  · obtain ⟨h₁, hm⟩ := continuation?_eq_some.1 hm
    obtain ⟨h₂, hn⟩ := continuation?_eq_some.1 hn
    obtain ⟨h₃, hk⟩ := continuation?_eq_some.1 hk
    rw [if_neg (by omega), if_neg (by omega), if_neg (by omega), byte_eq (b := b) (by omega),
      byte_eq (b := b₁) (by omega), byte_eq (b := b₂) (by omega), byte_eq (b := b₃) (by omega)]
    exact congrArg (b :: ·) hs.symm

theorem scalar?_toNat {least : Nat} (h : least ≤ c.toNat) : scalar? least c.toNat = some c :=
  scalar?_eq_some.2 ⟨rfl, h⟩

section Reading

variable {b₁ b₂ b₃ : UInt8} {m n k : Nat} {rest : Bytes}

theorem utf8Char?_one (hb : b.toNat = c.toNat) (hc : c.toNat < 0x80) :
    utf8Char? b rest = some (c, .all rest) := by
  simp only [utf8Char?, hb, if_pos hc, Char.ofNat_toNat]

theorem utf8Char?_two (hb : 0xC0 ≤ b.toNat ∧ b.toNat < 0xE0) (hm : continuation? b₁ = some m)
    (hvalue : (b.toNat - 0xC0) * 64 + m = c.toNat) (hc : 0x80 ≤ c.toNat) :
    utf8Char? b (b₁ :: rest) = some (c, .drop 1 (b₁ :: rest)) := by
  simp only [utf8Char?]
  rw [if_neg (by omega), if_neg (by omega), if_pos (by omega)]
  simp only [hm, hvalue, scalar?_toNat hc, Option.bind_eq_bind, Option.bind_some, Option.pure_def]

theorem utf8Char?_three (hb : 0xE0 ≤ b.toNat ∧ b.toNat < 0xF0) (hm : continuation? b₁ = some m)
    (hn : continuation? b₂ = some n) (hvalue : ((b.toNat - 0xE0) * 64 + m) * 64 + n = c.toNat)
    (hc : 0x800 ≤ c.toNat) :
    utf8Char? b (b₁ :: b₂ :: rest) = some (c, .drop 2 (b₁ :: b₂ :: rest)) := by
  simp only [utf8Char?]
  rw [if_neg (by omega), if_neg (by omega), if_neg (by omega), if_pos (by omega)]
  simp only [hm, hn, hvalue, scalar?_toNat hc, Option.bind_eq_bind, Option.bind_some,
    Option.pure_def]

theorem utf8Char?_four (hb : 0xF0 ≤ b.toNat ∧ b.toNat < 0xF8) (hm : continuation? b₁ = some m)
    (hn : continuation? b₂ = some n) (hk : continuation? b₃ = some k)
    (hvalue : (((b.toNat - 0xF0) * 64 + m) * 64 + n) * 64 + k = c.toNat)
    (hc : 0x10000 ≤ c.toNat) :
    utf8Char? b (b₁ :: b₂ :: b₃ :: rest) = some (c, .drop 3 (b₁ :: b₂ :: b₃ :: rest)) := by
  simp only [utf8Char?]
  rw [if_neg (by omega), if_neg (by omega), if_neg (by omega), if_neg (by omega),
    if_pos (by omega)]
  simp only [hm, hn, hk, hvalue, scalar?_toNat hc, Option.bind_eq_bind, Option.bind_some,
    Option.pure_def]

end Reading

theorem utf8Char?_utf8Bytes (c : Char) (r : Bytes) :
    ∃ b s, ∃ r' : NoLonger s,
      utf8Bytes c ++ r = b :: s ∧ utf8Char? b s = some (c, r') ∧ r'.val = r := by
  have hvalid := isValidChar_toNat c
  unfold utf8Bytes String.utf8EncodeChar
  simp only [Char.toNat_val]
  by_cases h1 : c.toNat ≤ 0x7f
  · rw [if_pos h1]
    have hb : (UInt8.ofNat c.toNat).toNat = c.toNat := by rw [UInt8.toNat_ofNat']; omega
    exact ⟨_, _, _, rfl, utf8Char?_one hb (by omega), rfl⟩
  · rw [if_neg h1]
    by_cases h2 : c.toNat ≤ 0x7ff
    · rw [if_pos h2]
      have hb : (UInt8.ofNat (c.toNat / 64 % 32 + 0xc0)).toNat = c.toNat / 64 + 0xC0 := by
        rw [UInt8.toNat_ofNat']; omega
      exact ⟨_, _, _, rfl, utf8Char?_two (by omega)
        (continuation?_add (n := c.toNat % 64) (by omega)) (by omega) (by omega), rfl⟩
    · rw [if_neg h2]
      by_cases h3 : c.toNat ≤ 0xffff
      · rw [if_pos h3]
        have hb : (UInt8.ofNat (c.toNat / 4096 % 16 + 0xe0)).toNat = c.toNat / 4096 + 0xE0 := by
          rw [UInt8.toNat_ofNat']; omega
        exact ⟨_, _, _, rfl, utf8Char?_three (by omega)
          (continuation?_add (n := c.toNat / 64 % 64) (by omega))
          (continuation?_add (n := c.toNat % 64) (by omega)) (by omega) (by omega), rfl⟩
      · rw [if_neg h3]
        have hb : (UInt8.ofNat (c.toNat / 262144 % 8 + 0xf0)).toNat =
            c.toNat / 262144 + 0xF0 := by
          rw [UInt8.toNat_ofNat']; omega
        exact ⟨_, _, _, rfl, utf8Char?_four (by omega)
          (continuation?_add (n := c.toNat / 4096 % 64) (by omega))
          (continuation?_add (n := c.toNat / 64 % 64) (by omega))
          (continuation?_add (n := c.toNat % 64) (by omega)) (by omega) (by omega), rfl⟩

theorem inverts_utf8 : Inverts utf8Char? utf8Bytes :=
  ⟨utf8Char?_utf8Bytes, utf8Bytes_of_utf8Char?⟩

section Texts

variable {read : (b : UInt8) → (r : Bytes) → Option (Char × NoLonger r)} {write : Char → Bytes}
  {cs : List Char} {bytes : Bytes}

def single (read : (b : UInt8) → (r : Bytes) → Option (Char × NoLonger r)) : ByteReader :=
  fun b r => (read b r).map fun (c, r) => ([c], r)

theorem decodeWith_cons {rd : ByteReader} :
    decodeWith rd (b :: s) =
      match rd b s with
      | none => .error (b :: s).length
      | some (cs, r) => (decodeWith rd r.val).map (cs ++ ·) := by
  rw [decodeWith]
  cases rd b s with
  | none => rfl
  | some found => rfl

theorem decodeWith_eq_ok {rd : ByteReader} (h : decodeWith rd (b :: s) = .ok cs) :
    ∃ front r rest, rd b s = some (front, r) ∧ decodeWith rd r.val = .ok rest ∧
      cs = front ++ rest := by
  rw [decodeWith_cons] at h
  cases hread : rd b s with
  | none =>
    simp only [hread] at h
    cases h
  | some found =>
    obtain ⟨front, r⟩ := found
    simp only [hread] at h
    cases hrest : decodeWith rd r.val with
    | error left =>
      rw [hrest] at h
      cases h
    | ok rest =>
      rw [hrest] at h
      exact ⟨front, r, rest, rfl, hrest, (Except.ok.inj h).symm⟩

theorem Inverts.decodeWith_flatMap (h : Inverts read write) (cs : List Char) :
    decodeWith (single read) (cs.flatMap write) = .ok cs := by
  induction cs with
  | nil => rw [List.flatMap_nil, decodeWith]
  | cons c cs ih =>
    obtain ⟨b, s, r, hwrite, hread, hrest⟩ := h.read_write c (cs.flatMap write)
    rw [List.flatMap_cons, hwrite, decodeWith_cons]
    simp only [single, hread, Option.map_some]
    rw [hrest]
    exact congrArg (Except.map ([c] ++ ·)) ih

theorem Inverts.flatMap_of_decodeWith (h : Inverts read write)
    (hdecode : decodeWith (single read) bytes = .ok cs) : cs.flatMap write = bytes := by
  induction hn : bytes.length using Nat.strong_induction_on generalizing bytes cs with
  | _ n ih =>
  cases bytes with
  | nil =>
    rw [decodeWith] at hdecode
    obtain rfl := Except.ok.inj hdecode
    rfl
  | cons b s =>
    obtain ⟨front, r, rest, hread, hrest, rfl⟩ := decodeWith_eq_ok hdecode
    obtain ⟨⟨c, r'⟩, hchar, heq⟩ := Option.map_eq_some_iff.1 hread
    obtain ⟨rfl, rfl⟩ := Prod.mk.inj heq
    have hbehind := ih r'.val.length (hn ▸ length_lt_cons_of_le b r'.property) hrest rfl
    rw [List.flatMap_append, hbehind, List.flatMap_singleton]
    exact h.write_read hchar

end Texts

section Documents

variable {c : Charset} {t : String} {bytes : Bytes}

def unicode : List Charset := [.utf8, .utf16le, .utf16be]

theorem exists_inverts (h : c ∈ unicode) :
    ∃ read write, Inverts read write ∧ c.decodeChars = decodeWith (single read) ∧
      ∀ t, c.encode t = t.toList.flatMap write := by
  simp only [unicode, List.mem_cons, List.not_mem_nil, or_false] at h
  rcases h with rfl | rfl | rfl
  · exact ⟨_, _, inverts_utf8, rfl, fun _ => rfl⟩
  · exact ⟨_, _, inverts_utf16 .little, rfl, fun _ => rfl⟩
  · exact ⟨_, _, inverts_utf16 .big, rfl, fun _ => rfl⟩

theorem decode_eq_ok : c.decode bytes = .ok t ↔ c.decodeChars bytes = .ok t.toList := by
  unfold decode
  cases c.decodeChars bytes with
  | error left => simp only [reduceCtorEq]
  | ok cs =>
    simp only [Except.ok.injEq]
    rw [← String.toList_inj, String.toList_ofList]

theorem decode_eq_ok_iff (h : c ∈ unicode) : c.decode bytes = .ok t ↔ c.encode t = bytes := by
  obtain ⟨read, write, hinverts, hdecode, hencode⟩ := exists_inverts h
  rw [decode_eq_ok, hdecode, hencode]
  constructor
  · exact hinverts.flatMap_of_decodeWith
  · rintro rfl
    exact hinverts.decodeWith_flatMap _

theorem encode_append (h : c ∈ unicode) (x y : List Char) :
    c.encode (String.ofList (x ++ y)) =
      c.encode (String.ofList x) ++ c.encode (String.ofList y) := by
  obtain ⟨read, write, -, -, hencode⟩ := exists_inverts h
  simp only [hencode, String.toList_ofList, List.flatMap_append]

theorem encode_flatMap (h : c ∈ unicode) {α : Type} (f : α → List Char) (xs : List α) :
    c.encode (String.ofList (xs.flatMap f)) =
      xs.flatMap fun x => c.encode (String.ofList (f x)) := by
  obtain ⟨read, write, -, -, hencode⟩ := exists_inverts h
  simp only [hencode, String.toList_ofList, List.flatMap_assoc]

end Documents

/-- What is decoded is encoded as it was, and the bytes of the characters that no edit was planned
for stay when a document is rewritten. -/
theorem unicode_lossless (c : Charset) (hc : c ∈ unicode) :
    (∀ t, c.decode (c.encode t) = .ok t) ∧
    (∀ bytes t, c.decode bytes = .ok t → c.encode t = bytes) ∧
    ∀ bytes text es out, c.decode bytes = .ok text →
      applyEdits text (Edit.shiftPastMark text.toList es) = .ok out →
      ∃ xs : List Stretch,
        bytes = c.encode (String.ofList (Stretch.mark text.toList)) ++
          xs.flatMap (fun x => c.encode (String.ofList x.old)) ∧
        c.encode out = c.encode (String.ofList (Stretch.mark text.toList)) ++
          xs.flatMap (fun x => c.encode (String.ofList (x.new.getD x.old))) ∧
        ∀ e ∈ Stretch.edits 0 xs, ∃ e' ∈ es, e.interval = e'.interval := by
  refine ⟨fun t => (decode_eq_ok_iff hc).2 rfl, fun bytes t => (decode_eq_ok_iff hc).1, ?_⟩
  intro bytes text es out hdecode happly
  obtain ⟨xs, hold, hnew, hedits⟩ := Edit.exists_stretches_of_applyEdits happly
  have htext := Stretch.mark_append text.toList
  refine ⟨xs, ?_, ?_, hedits⟩
  · rw [← (decode_eq_ok_iff hc).1 hdecode, ← encode_flatMap hc, ← encode_append hc,
      ← Stretch.oldText, ← hold, htext, String.ofList_toList]
  · rw [← encode_flatMap hc, ← encode_append hc, ← Stretch.newText, ← hnew, String.ofList_toList]

theorem unicode_lossless_surrogates :
    ∃ bytes : Bytes, bytes = [0xFF, 0xFE, 0x3C, 0, 0x61, 0, 0x3E, 0, 0x3D, 0xD8, 0, 0xDE] ∧
      utf16le.encode "\ufeff<a>😀" = bytes ∧ utf16le.decode bytes = .ok "\ufeff<a>😀" ∧
      ∃ xs : List Stretch,
        bytes = utf16le.encode "\ufeff" ++
          xs.flatMap (fun x => utf16le.encode (String.ofList x.old)) ∧
        utf16le.encode "\ufeff<a b=\"c\">😀" = utf16le.encode "\ufeff" ++
          xs.flatMap (fun x => utf16le.encode (String.ofList (x.new.getD x.old))) ∧
        ∀ e ∈ Stretch.edits 0 xs, e.interval = (2, 2) := by
  have hmem : utf16le ∈ unicode := by decide
  have hbytes : utf16le.encode "\ufeff<a>😀" =
      [0xFF, 0xFE, 0x3C, 0, 0x61, 0, 0x3E, 0, 0x3D, 0xD8, 0, 0xDE] := by decide +kernel
  have happly : applyEdits "\ufeff<a>😀"
      (Edit.shiftPastMark "\ufeff<a>😀".toList [.insert 2 " b=\"c\""]) =
        .ok "\ufeff<a b=\"c\">😀" := by decide +kernel
  obtain ⟨hdecode, -, hrewrite⟩ := unicode_lossless utf16le hmem
  have htext := hdecode "\ufeff<a>😀"
  rw [hbytes] at htext
  obtain ⟨xs, hold, hnew, hedits⟩ := hrewrite _ _ _ _ htext happly
  refine ⟨_, rfl, hbytes, htext, xs, hold, hnew, fun e he => ?_⟩
  obtain ⟨e', he', heq⟩ := hedits e he
  rw [heq, List.mem_singleton.1 he']
  rfl

end MarkupSplice.Charset
