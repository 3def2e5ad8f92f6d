import MarkupSplice.Proofs.Charset.Legacy
import MarkupSplice.Proofs.Text.Digits

/-!
# Codes behind escape sequences

The mode of a text is the same for its reader and its writer wherever a character
begins, as long as the text is written as it was read. So an escape sequence is
written again just when it switches to the mode in which the next character is
written, from another one; and at the end just when it leads back to ASCII.
-/
namespace MarkupSplice.Charset.Iso2022Jp
open Text

inductive Canonical : Mode → Bytes → Prop
  | nil : Canonical .ascii []
  | leave {m : Mode} : m ≠ .ascii → Canonical m Mode.ascii.enter
  | code {m m' : Mode} {b : UInt8} {r w : Bytes} {x : Char} {r' : NoLonger r} :
    m'.char? b r = some (x, r') → write? m x = some (m', w) → b :: r = w ++ r'.val →
      Canonical m' r'.val → Canonical m ((if m' = m then [] else m'.enter) ++ b :: r)

variable {m m' : Mode} {b : UInt8} {r s w : Bytes} {r' : NoLonger r} {x y : Char} {cs : List Char}
  {switched : Option Nat}

/-- What is written is a single byte in the modes of ASCII and two bytes in that of the kanji, and
never what escape sequences begin with. -/
theorem write?_cases (h : write? m x = some (m', w)) :
    escapeByte ∉ w ∧ ((m' = .ascii ∨ m' = .roman) ∧ (∃ b, w = [b]) ∨
      m' = .kanji ∧ ∃ b b', w = [b, b']) := by
  have hescape : escapeByte.toNat = 0x1B := rfl
  have hne : ∀ {n : Nat}, n % 256 ≠ 0x1B → escapeByte ≠ byte n := by
    intro n hn heq
    rw [← hescape, heq, toNat_byte] at hn
    exact hn rfl
  have hsingle : ∀ {b : UInt8}, escapeByte ≠ b → escapeByte ∉ [b] :=
    fun h hmem => h (List.mem_singleton.1 hmem)
  dsimp only [write?] at h
  split at h
  · cases h
  split at h
  · split at h <;> obtain ⟨rfl, rfl⟩ := Prod.mk.inj (Option.some.inj h)
    · exact ⟨hsingle (hne (by omega)), Or.inl ⟨Or.inr rfl, _, rfl⟩⟩
    · exact ⟨hsingle (hne (by omega)), Or.inl ⟨Or.inl rfl, _, rfl⟩⟩
  split at h
  · obtain ⟨rfl, rfl⟩ := Prod.mk.inj (Option.some.inj h)
    exact ⟨hsingle (by decide), Or.inl ⟨Or.inr rfl, _, rfl⟩⟩
  split at h
  · obtain ⟨rfl, rfl⟩ := Prod.mk.inj (Option.some.inj h)
    exact ⟨hsingle (by decide), Or.inl ⟨Or.inr rfl, _, rfl⟩⟩
  · obtain ⟨p, hp, heq⟩ := Option.map_eq_some_iff.1 h
    obtain ⟨rfl, rfl⟩ := Prod.mk.inj heq
    have hlt := japanesePlaceWhere?_le hp
    have hboth : escapeByte ≠ byte (p / 94 + 0x21) ∧ escapeByte ≠ byte (p % 94 + 0x21) :=
      ⟨hne (by omega), hne (by omega)⟩
    exact ⟨by simp [hboth], Or.inr ⟨rfl, _, _, rfl⟩⟩

theorem decode_enter (m m' : Mode) (r : Bytes) :
    decode m none (m'.enter ++ r) = decode m' (some (m'.enter ++ r).length) r := by
  cases m' with
  | ascii | roman | katakana | kanji =>
    rw [decode.eq_def]
    rfl

theorem decode_char (hb : b ≠ escapeByte) :
    decode m switched (b :: r) =
      match m.char? b r with
      | none => .error (b :: r).length
      | some (x, r') => (decode m none r'.val).map (x :: ·) := by
  rw [decode, if_neg hb]
  cases m.char? b r with
  | none => rfl
  | some found => rfl

theorem decode_eq_ok_of_char (hb : b ≠ escapeByte)
    (h : decode m switched (b :: r) = .ok cs) :
    ∃ x r' rest, m.char? b r = some (x, r') ∧ decode m none r'.val = .ok rest ∧ cs = x :: rest := by
  rw [decode_char hb] at h
  cases hchar : m.char? b r with
  | none =>
    rw [hchar] at h
    cases h
  | some found =>
    obtain ⟨x, r'⟩ := found
    simp only [hchar] at h
    cases hrest : decode m none r'.val with
    | error left =>
      rw [hrest] at h
      cases h
    | ok rest =>
      rw [hrest] at h
      exact ⟨x, r', rest, rfl, hrest, (Except.ok.inj h).symm⟩

theorem decode_eq_ok_of_code (hb : b ≠ escapeByte)
    (h : decode m none ((if m' = m then [] else m'.enter) ++ b :: r) = .ok cs) :
    ∃ x r' rest, m'.char? b r = some (x, r') ∧ decode m' none r'.val = .ok rest ∧
      cs = x :: rest := by
  split at h
  · rename_i hm
    obtain rfl := hm
    exact decode_eq_ok_of_char hb h
  · rw [decode_enter] at h
    exact decode_eq_ok_of_char hb h

theorem head_ne_escape (hw : write? m x = some (m', w)) (hcode : b :: r = w ++ s) :
    b ≠ escapeByte := by
  obtain ⟨hnot, hlength⟩ := write?_cases hw
  rintro rfl
  rcases hlength with ⟨-, c, rfl⟩ | ⟨-, c, c', rfl⟩
  · exact hnot (by simp [(List.cons.inj hcode).1])
  · exact hnot (by simp [(List.cons.inj hcode).1])

theorem Canonical.encode_eq (h : Canonical m s) (hdecode : decode m none s = .ok cs) :
    encode reference m cs = s := by
  induction h generalizing cs with
  | nil =>
    rw [decode] at hdecode
    obtain rfl := Except.ok.inj hdecode
    rfl
  | leave hm =>
    rw [← List.append_nil Mode.ascii.enter, decode_enter, decode] at hdecode
    obtain rfl := Except.ok.inj hdecode
    exact if_neg hm
  | code hchar hw hcode _ ih =>
    obtain ⟨x, r', rest, hchar', hrest, rfl⟩ :=
      decode_eq_ok_of_code (head_ne_escape hw hcode) hdecode
    obtain ⟨rfl, rfl⟩ := Prod.mk.inj (Option.some.inj (hchar.symm.trans hchar'))
    simp only [encode, hw]
    rw [ih hrest, List.append_assoc, ← hcode]

theorem char?_single (hm : m = .ascii ∨ m = .roman) (h : m.char? b r = some (x, r')) :
    r'.val = r := by
  have hplain : ∀ {n : Nat}, (if n < 0x80 ∧ n ≠ 0x0E ∧ n ≠ 0x0F then
      some (Char.ofNat n, (NoLonger.all r)) else none) = some (x, r') → r'.val = r := by
    intro n h
    split at h
    · obtain ⟨-, rfl⟩ := Prod.mk.inj (Option.some.inj h)
      rfl
    · cases h
  rcases hm with rfl | rfl
  · exact hplain h
  · dsimp only [Mode.char?] at h
    split_ifs at h
    · obtain ⟨-, rfl⟩ := Prod.mk.inj (Option.some.inj h)
      rfl
    · obtain ⟨-, rfl⟩ := Prod.mk.inj (Option.some.inj h)
      rfl
    · obtain ⟨-, rfl⟩ := Prod.mk.inj (Option.some.inj h)
      rfl

theorem char?_pair {b' : UInt8} {r' : NoLonger (b' :: r)}
    (h : Mode.kanji.char? b (b' :: r) = some (x, r')) : r'.val = r := by
  dsimp only [Mode.char?] at h
  split at h
  · obtain ⟨y, -, heq⟩ := Option.map_eq_some_iff.1 h
    obtain ⟨-, rfl⟩ := Prod.mk.inj heq
    rfl
  · cases h

theorem behind_of_write (hw : write? m x = some (m', w)) (hcode : b :: r = w ++ s)
    (hchar : m'.char? b r = some (y, r')) : r'.val = s := by
  rcases (write?_cases hw).2 with ⟨hm, c, rfl⟩ | ⟨rfl, c, c', rfl⟩
  · exact (char?_single hm hchar).trans (List.cons.inj hcode).2
  · obtain ⟨-, rfl⟩ := List.cons.inj hcode
    exact char?_pair hchar

theorem decode_reference (hm : m ≠ .katakana) (y : Char) (r : Bytes)
    (h : decode m none ((if m = .kanji then Mode.ascii.enter else []) ++ (reference y ++ r)) =
      .ok cs) : cs.head? = some '&' := by
  obtain ⟨w, hw⟩ := reference_eq y
  have hplain : ∀ {m : Mode} {switched : Option Nat}, m = .ascii ∨ m = .roman →
      decode m switched (0x26 :: (w ++ r)) = .ok cs → cs.head? = some '&' := by
    intro m switched hm h
    obtain ⟨x, r', rest, hchar, -, rfl⟩ := decode_eq_ok_of_char (by decide) h
    rcases hm with rfl | rfl
    · obtain ⟨rfl, -⟩ := Prod.mk.inj (Option.some.inj hchar)
      rfl
    · obtain ⟨rfl, -⟩ := Prod.mk.inj (Option.some.inj hchar)
      rfl
  rw [hw, List.cons_append] at h
  cases m with
  | ascii => exact hplain (Or.inl rfl) h
  | roman => exact hplain (Or.inr rfl) h
  | katakana => exact absurd rfl hm
  | kanji =>
    rw [if_pos rfl, decode_enter] at h
    exact hplain (Or.inl rfl) h

theorem canonical_encode (hm : m ≠ .katakana)
    (hdecode : decode m none (encode reference m cs) = .ok cs) :
    Canonical m (encode reference m cs) := by
  induction cs generalizing m with
  | nil =>
    rw [encode]
    split
    · rename_i h
      rw [h]
      exact .nil
    · rename_i h
      exact .leave h
  | cons x cs ih =>
    cases hwrite : write? m x with
    | some found =>
      obtain ⟨m', w⟩ := found
      have hencode : encode reference m (x :: cs) =
          (if m' = m then [] else m'.enter) ++ (w ++ encode reference m' cs) := by
        simp only [encode, hwrite, List.append_assoc]
      have hmode : (∃ b r, b :: r = w ++ encode reference m' cs) ∧ m' ≠ .katakana := by
        rcases (write?_cases hwrite).2 with ⟨hm', b, rfl⟩ | ⟨rfl, b, b', rfl⟩
        · exact ⟨⟨_, _, rfl⟩, by rcases hm' with rfl | rfl <;> decide⟩
        · exact ⟨⟨_, _, rfl⟩, by decide⟩
      obtain ⟨⟨b, r, hcode⟩, hne⟩ := hmode
      rw [hencode, ← hcode] at hdecode ⊢
      obtain ⟨y, r', rest, hchar, hrest, heq⟩ :=
        decode_eq_ok_of_code (head_ne_escape hwrite hcode) hdecode
      obtain ⟨rfl, rfl⟩ := List.cons.inj heq
      have hbehind := behind_of_write hwrite hcode hchar
      rw [hbehind] at hrest
      refine .code hchar hwrite (by rw [hbehind, hcode]) ?_
      rw [hbehind]
      exact ih hne hrest
    | none =>
      have hencode : ∃ y r, encode reference m (x :: cs) =
          (if m = .kanji then Mode.ascii.enter else []) ++ (reference y ++ r) := by
        simp only [encode, hwrite]
        split
        · exact ⟨_, _, List.append_assoc _ _ _⟩
        · exact ⟨_, _, rfl⟩
      obtain ⟨y, r, hencode⟩ := hencode
      rw [hencode] at hdecode
      have hhead := decode_reference hm y r hdecode
      obtain rfl := Option.some.inj hhead
      cases m <;> cases hwrite

theorem canonical_iff (hdecode : decode .ascii none s = .ok cs) :
    Canonical .ascii s ↔ encode reference .ascii cs = s := by
  constructor
  · exact fun h => h.encode_eq hdecode
  · rintro rfl
    exact canonical_encode (by decide) hdecode

def unescaped : Bytes → Bytes
  | 0x1B :: _ :: _ :: r => unescaped r
  | b :: r => b :: unescaped r
  | [] => []

theorem unescaped_enter (m : Mode) (r : Bytes) : unescaped (m.enter ++ r) = unescaped r := by
  cases m <;> rfl

theorem unescaped_append (hw : escapeByte ∉ w) (r : Bytes) :
    unescaped (w ++ r) = w ++ unescaped r := by
  induction w with
  | nil => rfl
  | cons b w ih =>
    rw [List.mem_cons, not_or] at hw
    rw [List.cons_append, unescaped]
    · rw [ih hw.2]
      rfl
    · rintro _ _ _ rfl
      exact absurd rfl hw.1

theorem escapeByte_notMem_reference (y : Char) : escapeByte ∉ reference y := by
  intro hmem
  obtain ⟨c, hc, hbyte⟩ := List.mem_map.1 hmem
  have hplain : c ∈ "&#".toList ∨ c.isDigit = true ∨ c ∈ ";".toList := by
    rw [String.toList_append, String.toList_append, List.mem_append, List.mem_append] at hc
    rcases hc with (hc | hc) | hc
    · exact Or.inl hc
    · exact Or.inr (Or.inl (isDigit_of_mem_digits (by simpa using hc)))
    · exact Or.inr (Or.inr hc)
  have hvalue := congrArg UInt8.toNat hbyte
  have hescape : escapeByte.toNat = 0x1B := rfl
  rw [toNat_byte, hescape] at hvalue
  rcases hplain with hc | hc | hc
  · have hall : ∀ c ∈ "&#".toList, c.toNat % 256 ≠ 0x1B := by simp
    exact hall c hc hvalue
  · simp only [Char.isDigit, Bool.and_eq_true, decide_eq_true_eq, UInt32.le_iff_toNat_le] at hc
    have hrange : 48 ≤ c.toNat ∧ c.toNat ≤ 57 := hc
    omega
  · have hall : ∀ c ∈ ";".toList, c.toNat % 256 ≠ 0x1B := by simp
    exact hall c hc hvalue

theorem map_snd_write? (m : Mode) (x : Char) :
    (write? m x).map Prod.snd = (write? .ascii x).map Prod.snd := by
  dsimp only [write?]
  split
  · rfl
  · split
    · split <;> simp
    · rfl

theorem code_of_write? (h : write? m x = some (m', w)) : code x = w := by
  rw [code, ← map_snd_write? m, h]
  rfl

theorem code_of_write?_none (h : write? m x = none) :
    code x = reference (if x.toNat < 0x80 then Index.absent else x) := by
  rw [code, ← map_snd_write? m, h]
  rfl

theorem unescaped_encode (m : Mode) (cs : List Char) :
    unescaped (encode reference m cs) = cs.flatMap code := by
  induction cs generalizing m with
  | nil =>
    rw [encode]
    split <;> rfl
  | cons x cs ih =>
    rw [List.flatMap_cons]
    cases hwrite : write? m x with
    | some found =>
      obtain ⟨m', w⟩ := found
      have hencode : encode reference m (x :: cs) =
          (if m' = m then [] else m'.enter) ++ (w ++ encode reference m' cs) := by
        simp only [encode, hwrite, List.append_assoc]
      have hskip : unescaped (encode reference m (x :: cs)) =
          unescaped (w ++ encode reference m' cs) := by
        rw [hencode]
        split
        · rfl
        · exact unescaped_enter m' _
      rw [hskip, unescaped_append (write?_cases hwrite).1, ih, code_of_write? hwrite]
    | none =>
      have hcode := code_of_write?_none hwrite
      have hskip : ∃ m', unescaped (encode reference m (x :: cs)) =
          unescaped (code x ++ encode reference m' cs) := by
        rw [hcode]
        simp only [encode, hwrite]
        split
        · refine ⟨.ascii, ?_⟩
          rw [List.append_assoc, unescaped_enter]
        · exact ⟨m, rfl⟩
      obtain ⟨m', hskip⟩ := hskip
      have hplain : escapeByte ∉ code x := by
        rw [hcode]
        exact escapeByte_notMem_reference _
      rw [hskip, unescaped_append hplain, ih]

end MarkupSplice.Charset.Iso2022Jp
