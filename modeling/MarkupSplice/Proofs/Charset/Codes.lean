import MarkupSplice.Proofs.Charset.Unicode

/-!
# Codes that are written back

In the encodings older than Unicode a character can have several codes, and only
one of them is written. What is decoded is encoded as it was just when each code is
the one that is written for what it is read as (`canonicalWith_iff`): the codes that are
written never run together to bytes that are read in another way, since a code is
as long as the one that begins with the same bytes (`Fits`).
-/
namespace MarkupSplice.Charset
open Text

def Iso2022Jp.code (x : Char) : Bytes :=
  ((write? .ascii x).map Prod.snd).getD (reference (if x.toNat < 0x80 then Index.absent else x))

def written : Charset → Char → Bytes
  | .iso2022Jp, x => Iso2022Jp.code x
  | c, x => (c.charBytes? x).getD (reference x)

/-- Whether each code in a text is the one that is written for the characters it is read as. -/
inductive CanonicalWith (read : ByteReader) (write : Char → Bytes) : Bytes → Prop
  | nil : CanonicalWith read write []
  | code {b : UInt8} {r : Bytes} {cs : List Char} {r' : NoLonger r} :
    read b r = some (cs, r') → b :: r = cs.flatMap write ++ r'.val →
      CanonicalWith read write r'.val → CanonicalWith read write (b :: r)

/-- Whether what is written for the characters that are read is never longer or shorter than what
they are read from. -/
def Fits (read : ByteReader) (write : Char → Bytes) : Prop :=
  ∀ {b : UInt8} {r : Bytes} {cs : List Char} {r' : NoLonger r} {e : Bytes},
    read b r = some (cs, r') → b :: r = cs.flatMap write ++ e → r'.val = e

variable {read : ByteReader} {write : Char → Bytes} {write? : Char → Option Bytes} {b : UInt8}
  {r s w e : Bytes} {r' : NoLonger r} {x : Char} {cs : List Char}

theorem CanonicalWith.flatMap_eq (h : CanonicalWith read write s)
    (hdecode : decodeWith read s = .ok cs) : cs.flatMap write = s := by
  induction h generalizing cs with
  | nil =>
    rw [decodeWith] at hdecode
    obtain rfl := Except.ok.inj hdecode
    rfl
  | code hread hcode _ ih =>
    obtain ⟨front, r, rest, hread', hrest, rfl⟩ := decodeWith_eq_ok hdecode
    obtain ⟨rfl, rfl⟩ := Prod.mk.inj (Option.some.inj (hread.symm.trans hread'))
    rw [List.flatMap_append, ih hrest, hcode]

theorem canonicalWith_flatMap (hfits : Fits read write)
    (hdecode : decodeWith read (cs.flatMap write) = .ok cs) :
    CanonicalWith read write (cs.flatMap write) := by
  generalize hs : cs.flatMap write = s at hdecode ⊢
  induction hn : s.length using Nat.strong_induction_on generalizing s cs with
  | _ n ih =>
  cases s with
  | nil => exact .nil
  | cons b s =>
    obtain ⟨front, r, rest, hread, hrest, rfl⟩ := decodeWith_eq_ok hdecode
    rw [List.flatMap_append] at hs
    have hbehind := hfits hread hs.symm
    have hlength := length_lt_cons_of_le b r.property
    refine .code hread (by rw [hbehind, hs]) ?_
    exact ih r.val.length (hn ▸ hlength) r.val hbehind.symm hrest rfl

theorem canonicalWith_iff (hfits : Fits read write) (hdecode : decodeWith read s = .ok cs) :
    CanonicalWith read write s ↔ cs.flatMap write = s := by
  constructor
  · exact fun h => h.flatMap_eq hdecode
  · rintro rfl
    exact canonicalWith_flatMap hfits hdecode

def KeepsAll (read : ByteReader) (write : Char → Bytes) : Prop :=
  ∀ {b : UInt8} {r : Bytes} {cs : List Char} {r' : NoLonger r},
    read b r = some (cs, r') → b :: r = cs.flatMap write ++ r'.val

theorem KeepsAll.canonicalWith (hkeeps : KeepsAll read write)
    (hdecode : decodeWith read s = .ok cs) : CanonicalWith read write s := by
  induction hn : s.length using Nat.strong_induction_on generalizing s cs with
  | _ n ih =>
  cases s with
  | nil => exact .nil
  | cons b s =>
    obtain ⟨front, r, rest, hread, hrest, rfl⟩ := decodeWith_eq_ok hdecode
    exact .code hread (hkeeps hread) (ih _ (hn ▸ length_lt_cons_of_le b r.property) hrest rfl)

def LosesSome (read : ByteReader) (write : Char → Bytes) : Prop :=
  ∃ (b : UInt8) (r : Bytes) (cs : List Char) (r' : NoLonger r),
    read b r = some (cs, r') ∧ r'.val = [] ∧ cs.flatMap write ≠ b :: r

theorem LosesSome.exists_not_canonicalWith (h : LosesSome read write) :
    ∃ s cs, decodeWith read s = .ok cs ∧ ¬CanonicalWith read write s := by
  obtain ⟨b, r, cs, r', hread, hend, hne⟩ := h
  have hdecode : decodeWith read (b :: r) = .ok cs := by
    rw [decodeWith_cons]
    simp only [hread]
    rw [hend, decodeWith]
    exact congrArg Except.ok (List.append_nil cs)
  exact ⟨b :: r, cs, hdecode, fun h => hne (h.flatMap_eq hdecode)⟩

theorem losesSome_of_repeated {b₂ : UInt8} {s' : NoLonger s} (hr : read b r = some (cs, r'))
    (hs : read b₂ s = some (cs, s')) (hends : r'.val = [] ∧ s'.val = [])
    (hne : b :: r ≠ b₂ :: s) : LosesSome read write := by
  by_cases hwritten : cs.flatMap write = b :: r
  · exact ⟨b₂, s, cs, s', hs, hends.2, fun h => hne (hwritten.symm.trans h)⟩
  · exact ⟨b, r, cs, r', hr, hends.1, hwritten⟩

theorem toNat_byte (n : Nat) : (byte n).toNat = n % 256 := by
  rw [byte, Nat.toUInt8_eq, UInt8.toNat_ofNat']

theorem reference_eq (x : Char) : ∃ w, reference x = 0x26 :: w := by
  rw [reference, String.toList_append, String.toList_append]
  exact ⟨_, rfl⟩

theorem write_of_wide (hb : 0x80 ≤ b.toNat)
    (h : b :: r = (x :: cs).flatMap (fun x => (asciiOr write? x).getD (reference x)) ++ e) :
    ∃ w, write? x = some w ∧
      b :: r = w ++ (cs.flatMap (fun x => (asciiOr write? x).getD (reference x)) ++ e) := by
  rw [List.flatMap_cons, List.append_assoc] at h
  generalize cs.flatMap _ ++ e = behind at h ⊢
  unfold asciiOr at h
  split at h
  · rename_i hx
    obtain ⟨rfl, -⟩ := List.cons.inj h
    rw [toNat_byte] at hb
    omega
  · cases hwrite : write? x with
    | some w => exact ⟨w, rfl, by simpa [hwrite] using h⟩
    | none =>
      obtain ⟨w, hw⟩ := reference_eq x
      rw [hwrite, Option.getD_none, hw] at h
      obtain ⟨rfl, -⟩ := List.cons.inj h
      exact absurd hb (by decide)

theorem losesSome_of_wide (hread : read b r = some (x :: cs, r')) (hend : r'.val = [])
    (hb : 0x80 ≤ b.toNat) (h : ∀ w, write? x = some w →
      b :: r ≠ w ++ cs.flatMap fun x => (asciiOr write? x).getD (reference x)) :
    LosesSome read fun x => (asciiOr write? x).getD (reference x) := by
  refine ⟨b, r, x :: cs, r', hread, hend, fun hcode => ?_⟩
  rw [← List.append_nil (List.flatMap _ _)] at hcode
  obtain ⟨w, hw, hcode⟩ := write_of_wide hb hcode.symm
  rw [List.append_nil] at hcode
  exact h w hw hcode

theorem behind_of_length {k : Nat} (h : s = w ++ e) (hw : w.length = k) : s.drop k = e := by
  rw [h, ← hw, List.drop_left]

theorem byte_toNat (b : UInt8) : byte b.toNat = b := UInt8.ofNat_toNat

theorem written_ofNat (hb : b.toNat < 0x80) :
    (asciiOr write? (Char.ofNat b.toNat)).getD (reference (Char.ofNat b.toNat)) = [b] := by
  have hvalue : (Char.ofNat b.toNat).toNat = b.toNat :=
    toNat_ofNat_of_valid (isValidChar_iff.2 (by omega))
  rw [asciiOr, hvalue, if_pos hb, byte_toNat]
  rfl

theorem fits_overAscii
    (h : ∀ {b : UInt8} {r : Bytes} {cs : List Char} {r' : NoLonger r} {e : Bytes},
      0x80 ≤ b.toNat → read b r = some (cs, r') →
      b :: r = cs.flatMap (fun x => (asciiOr write? x).getD (reference x)) ++ e → r'.val = e) :
    Fits (overAscii read) fun x => (asciiOr write? x).getD (reference x) := by
  intro b r cs r' e hread hcode
  unfold overAscii at hread
  split at hread
  · rename_i hb
    obtain ⟨rfl, rfl⟩ := Prod.mk.inj (Option.some.inj hread)
    rw [List.flatMap_singleton, written_ofNat hb] at hcode
    exact (List.cons.inj hcode).2
  · rename_i hb
    exact h (Nat.le_of_not_lt hb) hread hcode

theorem keepsAll_overAscii
    (h : ∀ {b : UInt8} {r : Bytes} {cs : List Char} {r' : NoLonger r}, 0x80 ≤ b.toNat →
      read b r = some (cs, r') →
        ∃ x w, cs = [x] ∧ 0x80 ≤ x.toNat ∧ write? x = some w ∧ b :: r = w ++ r'.val) :
    KeepsAll (overAscii read) fun x => (asciiOr write? x).getD (reference x) := by
  intro b r cs r' hread
  unfold overAscii at hread
  split at hread
  · rename_i hb
    obtain ⟨rfl, rfl⟩ := Prod.mk.inj (Option.some.inj hread)
    rw [List.flatMap_singleton, written_ofNat hb]
    rfl
  · rename_i hb
    obtain ⟨x, w, rfl, hx, hw, hcode⟩ := h (Nat.le_of_not_lt hb) hread
    rw [List.flatMap_singleton, asciiOr, if_neg (Nat.not_lt.2 hx), hw]
    exact hcode

theorem pair_eq_some {char? : Nat → Nat → Option Char} (h : pair char? b r = some (cs, r')) :
    ∃ b' x, r = b' :: r'.val ∧ char? b.toNat b'.toNat = some x ∧ cs = [x] := by
  cases r with
  | nil => cases h
  | cons b' r =>
    obtain ⟨x, hx, heq⟩ := Option.map_eq_some_iff.1 h
    obtain ⟨rfl, rfl⟩ := Prod.mk.inj heq
    exact ⟨b', x, rfl, hx, rfl⟩

end MarkupSplice.Charset
