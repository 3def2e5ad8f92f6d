import MarkupSplice.Proofs.Charset.Codes
import MarkupSplice.Proofs.Charset.Tables

/-!
# Codes of the encodings without states

In each of them a code is told apart from the others by its first bytes, so the codes that are
written are read one by one (`fits_legacy`). Single bytes, the ones that the user defines and
the Korean pairs all stand for characters of their own; each of the other tables has a code that
is read but not written (`LosesSome`).
-/
namespace MarkupSplice.Charset
open Text

variable {b : UInt8} {r w e : Bytes} {r' : NoLonger r} {x : Char} {cs : List Char} {p : Nat}

theorem fits_singleByte (t : SingleByte) :
    Fits (reader (.singleByte t)) (written (.singleByte t)) := by
  apply fits_overAscii
  intro b r cs r' e hb hread hcode
  unfold singleByteReader at hread
  split at hread
  · split at hread
    · cases hread
    · obtain ⟨rfl, rfl⟩ := Prod.mk.inj (Option.some.inj hread)
      obtain ⟨w, hw, hcode⟩ := write_of_wide hb hcode
      have hlength : w.length = 1 := by
        unfold singleByteBytes? at hw
        split at hw
        · cases hw
        · dsimp only at hw
          split at hw
          · obtain rfl := Option.some.inj hw
            rfl
          · cases hw
      exact behind_of_length hcode hlength
  · cases hread

theorem fits_userDefined : Fits (reader .userDefined) (written .userDefined) := by
  apply fits_overAscii
  intro b r cs r' e hb hread hcode
  obtain ⟨rfl, rfl⟩ := Prod.mk.inj (Option.some.inj hread)
  obtain ⟨w, hw, hcode⟩ := write_of_wide hb hcode
  have hlength : w.length = 1 := by
    unfold userDefinedBytes? at hw
    split at hw
    · obtain rfl := Option.some.inj hw
      rfl
    · cases hw
  exact behind_of_length hcode hlength

theorem fits_eucKr : Fits (reader .eucKr) (written .eucKr) := by
  apply fits_overAscii
  intro b r cs r' e hb hread hcode
  obtain ⟨b', x, hr, -, rfl⟩ := pair_eq_some hread
  obtain ⟨w, hw, hcode⟩ := write_of_wide hb hcode
  obtain ⟨p, -, rfl⟩ := Option.map_eq_some_iff.1 hw
  rw [hr] at hcode
  exact behind_of_length hcode rfl

theorem within_iff {low high n : Nat} : within low high n = true ↔ low ≤ n ∧ n ≤ high := by
  simp [within]

theorem isHalfwidth_halfwidth {n : Nat} (h : n ≤ 0x3E) : isHalfwidth (halfwidth n) = true := by
  rw [isHalfwidth, halfwidth, toNat_ofNat_of_valid (isValidChar_iff.2 (by omega)), within_iff]
  omega

theorem wide_of_isHalfwidth (h : isHalfwidth x = true) : 0xFF61 ≤ x.toNat ∧ x.toNat ≤ 0xFF9F :=
  within_iff.1 h

theorem ne_of_isHalfwidth (h : isHalfwidth x = true) : x ≠ '\u0080' ∧ x ≠ '¥' ∧ x ≠ '‾' := by
  refine ⟨?_, ?_, ?_⟩ <;>
    · rintro rfl
      exact absurd h (by decide)

theorem shiftJisBytes?_cases (h : shiftJisBytes? x = some w) :
    w.length = 2 ∨ ∃ b', w = [b'] ∧ (b'.toNat ≤ 0x80 ∨ 0xA1 ≤ b'.toNat ∧ b'.toNat ≤ 0xDF) := by
  unfold shiftJisBytes? at h
  split_ifs at h with h1 h2 h3 h4
  · obtain rfl := Option.some.inj h
    exact Or.inr ⟨_, rfl, Or.inl (by decide)⟩
  · obtain rfl := Option.some.inj h
    exact Or.inr ⟨_, rfl, Or.inl (by decide)⟩
  · obtain rfl := Option.some.inj h
    exact Or.inr ⟨_, rfl, Or.inl (by decide)⟩
  · obtain rfl := Option.some.inj h
    have hx := wide_of_isHalfwidth h4
    refine Or.inr ⟨_, rfl, Or.inr ?_⟩
    rw [toNat_byte]
    omega
  · obtain ⟨p, -, rfl⟩ := Option.map_eq_some_iff.1 h
    exact Or.inl rfl

theorem shiftJisBytes?_halfwidth (h : isHalfwidth x = true) :
    shiftJisBytes? x = some [byte (x.toNat - 0xFF61 + 0xA1)] := by
  obtain ⟨h1, h2, h3⟩ := ne_of_isHalfwidth h
  rw [shiftJisBytes?, if_neg h1, if_neg h2, if_neg h3, if_pos h]

theorem fits_shiftJis : Fits (reader .shiftJis) (written .shiftJis) := by
  apply fits_overAscii
  intro b r cs r' e hb hread hcode
  unfold shiftJisReader at hread
  split_ifs at hread with h1 h2
  · obtain ⟨rfl, rfl⟩ := Prod.mk.inj (Option.some.inj hread)
    obtain ⟨w, hw, hcode⟩ := write_of_wide hb hcode
    obtain rfl : [0x80] = w := Option.some.inj hw
    exact behind_of_length hcode rfl
  · obtain ⟨rfl, rfl⟩ := Prod.mk.inj (Option.some.inj hread)
    obtain ⟨w, hw, hcode⟩ := write_of_wide hb hcode
    have hrange := within_iff.1 h2
    rw [shiftJisBytes?_halfwidth (isHalfwidth_halfwidth (by omega))] at hw
    obtain rfl := Option.some.inj hw
    exact behind_of_length hcode rfl
  · obtain ⟨b', x, hr, hchar, rfl⟩ := pair_eq_some hread
    obtain ⟨w, hw, hcode⟩ := write_of_wide hb hcode
    have hlead : b.toNat ≠ 0x80 ∧ ¬(0xA1 ≤ b.toNat ∧ b.toNat ≤ 0xDF) := by
      rw [within_iff] at h2
      exact ⟨fun h => h1 (UInt8.toNat_inj.1 h), h2⟩
    rcases shiftJisBytes?_cases hw with hlength | ⟨b'', rfl, hsmall⟩
    · rw [hr] at hcode
      exact behind_of_length hcode hlength
    · obtain ⟨rfl, -⟩ := List.cons.inj hcode
      omega

theorem Index.placeWhere?_eq_some {t : Index} {admits : Nat → Bool}
    (h : t.placeWhere? admits x = some p) :
    p < t.size ∧ t[p]? = some x ∧ admits p = true ∧ x ≠ absent := by
  unfold placeWhere? at h
  split at h
  · cases h
  · rename_i hx
    have hmem := List.mem_of_find?_eq_some h
    have hfound := List.find?_some h
    rw [Bool.and_eq_true, beq_iff_eq] at hfound
    exact ⟨List.mem_range.1 hmem, hfound.1, hfound.2, hx⟩

theorem japanesePlaceWhere?_le {admits : Nat → Bool}
    (h : japanesePlaceWhere? admits x = some p) : p < 11280 :=
  Nat.lt_of_lt_of_le (Index.placeWhere?_eq_some h).1 Index.size_jis0208_le

theorem eucJpBytes?_halfwidth (h : isHalfwidth x = true) :
    eucJpBytes? x = some [0x8E, byte (x.toNat - 0xFF61 + 0xA1)] := by
  obtain ⟨-, h2, h3⟩ := ne_of_isHalfwidth h
  rw [eucJpBytes?, if_neg h2, if_neg h3, if_pos h]

theorem eucJpBytes?_cases (h : eucJpBytes? x = some w) :
    (∃ b', w = [b'] ∧ b'.toNat < 0x80) ∨ ∃ b' b'', w = [b', b''] ∧ b' ≠ 0x8F := by
  unfold eucJpBytes? at h
  split_ifs at h with h2 h3 h4
  · obtain rfl := Option.some.inj h
    exact Or.inl ⟨_, rfl, by decide⟩
  · obtain rfl := Option.some.inj h
    exact Or.inl ⟨_, rfl, by decide⟩
  · obtain rfl := Option.some.inj h
    exact Or.inr ⟨_, _, rfl, by decide⟩
  · obtain ⟨p, hp, rfl⟩ := Option.map_eq_some_iff.1 h
    have hlt := japanesePlaceWhere?_le hp
    refine Or.inr ⟨_, _, rfl, fun heq => ?_⟩
    have hvalue := congrArg UInt8.toNat heq
    rw [toNat_byte] at hvalue
    have hthree : (0x8F : UInt8).toNat = 0x8F := rfl
    omega

theorem fits_eucJp : Fits (reader .eucJp) (written .eucJp) := by
  apply fits_overAscii
  intro b r cs r' e hb hread hcode
  unfold eucJpReader at hread
  split_ifs at hread with h1 h2
  · obtain ⟨b', x, hr, hchar, rfl⟩ := pair_eq_some hread
    obtain ⟨w, hw, hcode⟩ := write_of_wide hb hcode
    split_ifs at hchar with hwithin
    have hrange := within_iff.1 hwithin
    obtain rfl := Option.some.inj hchar
    rw [eucJpBytes?_halfwidth (isHalfwidth_halfwidth (by omega))] at hw
    obtain rfl := Option.some.inj hw
    rw [hr] at hcode
    exact behind_of_length hcode rfl
  · obtain ⟨b₁, b₂, rest, x, rfl, rfl, hr'⟩ : ∃ b₁ b₂ rest x, r = b₁ :: b₂ :: rest ∧ cs = [x] ∧
        r'.val = rest := by
      split at hread
      · obtain ⟨x, -, heq⟩ := Option.map_eq_some_iff.1 hread
        obtain ⟨rfl, rfl⟩ := Prod.mk.inj heq
        exact ⟨_, _, _, x, rfl, rfl, rfl⟩
      · cases hread
    obtain ⟨w, hw, hcode⟩ := write_of_wide hb hcode
    rcases eucJpBytes?_cases hw with ⟨b', rfl, hsmall⟩ | ⟨b', b'', rfl, hne⟩
    · obtain ⟨rfl, -⟩ := List.cons.inj hcode
      omega
    · obtain ⟨rfl, -⟩ := List.cons.inj hcode
      exact absurd h2 hne
  · obtain ⟨b', x, hr, -, rfl⟩ := pair_eq_some hread
    obtain ⟨w, hw, hcode⟩ := write_of_wide hb hcode
    rcases eucJpBytes?_cases hw with ⟨b₁, rfl, hsmall⟩ | ⟨b₁, b₂, rfl, -⟩
    · obtain ⟨rfl, -⟩ := List.cons.inj hcode
      omega
    · rw [hr] at hcode
      exact behind_of_length hcode rfl

theorem big5Reader_eq_some (h : big5Reader b r = some (cs, r')) :
    ∃ b', r = b' :: r'.val ∧ ((∃ x, cs = [x]) ∨ (∃ x y, cs = [x, y]) ∧ b.toNat ≤ 0x88) := by
  unfold big5Reader at h
  split at h
  · rename_i b' r
    split at h
    · obtain ⟨found, hfound, heq⟩ := Option.map_eq_some_iff.1 h
      obtain ⟨rfl, rfl⟩ := Prod.mk.inj heq
      refine ⟨b', rfl, ?_⟩
      rcases Option.or_eq_some_iff.1 hfound with hmarked | ⟨-, hchar⟩
      · right
        generalize hplace : (b.toNat - 0x81) * 157 +
          (b'.toNat - if b'.toNat < 0x7F then 0x40 else 0x62) = place at hmarked
        unfold big5Marked? at hmarked
        split at hmarked <;> cases hmarked <;> exact ⟨⟨_, _, rfl⟩, by omega⟩
      · obtain ⟨x, -, rfl⟩ := Option.map_eq_some_iff.1 hchar
        exact Or.inl ⟨x, rfl⟩
    · cases h
  · cases h

theorem big5Bytes?_cases (h : big5Bytes? x = some w) :
    ∃ b' b'', w = [b', b''] ∧ 0xA1 ≤ b'.toNat := by
  have hplace : ∀ {admits : Nat → Bool} {p : Nat}, Index.big5.placeWhere? admits x = some p →
      p < 19782 ∧ admits p = true := by
    intro admits p hp
    obtain ⟨hlt, -, hadmits, -⟩ := Index.placeWhere?_eq_some hp
    exact ⟨Nat.lt_of_lt_of_le hlt Index.size_big5_le, hadmits⟩
  obtain ⟨p, hp, rfl⟩ := Option.map_eq_some_iff.1 h
  have hbounds : 5024 ≤ p ∧ p < 19782 := by
    split_ifs at hp with hrepeated
    · obtain ⟨q, hq, hp⟩ := Option.bind_eq_some_iff.1 hp
      have hfirst := hplace hq
      simp only [decide_eq_true_eq] at hfirst
      rcases Option.or_eq_some_iff.1 hp with hlast | ⟨-, heq⟩
      · have hbehind := hplace hlast
        simp only [decide_eq_true_eq] at hbehind
        omega
      · obtain rfl := Option.some.inj heq
        omega
    · have hfirst := hplace hp
      simp only [decide_eq_true_eq] at hfirst
      omega
  refine ⟨_, _, rfl, ?_⟩
  rw [toNat_byte]
  omega

theorem fits_big5 : Fits (reader .big5) (written .big5) := by
  apply fits_overAscii
  intro b r cs r' e hb hread hcode
  obtain ⟨b', hr, ⟨x, rfl⟩ | ⟨⟨x, y, rfl⟩, hsmall⟩⟩ := big5Reader_eq_some hread
  · obtain ⟨w, hw, hcode⟩ := write_of_wide hb hcode
    obtain ⟨b₁, b₂, rfl, -⟩ := big5Bytes?_cases hw
    rw [hr] at hcode
    exact behind_of_length hcode rfl
  · -- letters with marks are only read, as the supplement is
    obtain ⟨w, hw, hcode⟩ := write_of_wide hb hcode
    obtain ⟨b₁, b₂, rfl, hlarge⟩ := big5Bytes?_cases hw
    obtain ⟨rfl, -⟩ := List.cons.inj hcode
    omega

def chineseLength (s : Bytes) : Nat :=
  if s.head? = some 0x80 then 1 else if (s[1]?).any fun b => b.toNat < 0x40 then 4 else 2

def IsChineseCode (w : Bytes) : Prop :=
  (∃ b₁ b₂, w = [b₁, b₂] ∧ 0x81 ≤ b₁.toNat ∧ 0x40 ≤ b₂.toNat) ∨
    ∃ b₁ b₂ b₃ b₄, w = [b₁, b₂, b₃, b₄] ∧ 0x81 ≤ b₁.toNat ∧ b₂.toNat < 0x40

theorem chineseLength_of_lead (hb : 0x81 ≤ b.toNat) (b₁ : UInt8) :
    chineseLength (b :: b₁ :: r) = if b₁.toNat < 0x40 then 4 else 2 := by
  have hne : b ≠ 0x80 := by
    rintro rfl
    exact absurd hb (by decide)
  simp [chineseLength, hne]

theorem IsChineseCode.length_eq (h : IsChineseCode w) (e : Bytes) :
    w.length = chineseLength (w ++ e) := by
  rcases h with ⟨b₁, b₂, rfl, hfirst, hsecond⟩ | ⟨b₁, b₂, b₃, b₄, rfl, hfirst, hsecond⟩
  · rw [List.cons_append, List.cons_append, chineseLength_of_lead hfirst,
      if_neg (Nat.not_lt.2 hsecond)]
    rfl
  · rw [List.cons_append, List.cons_append, chineseLength_of_lead hfirst, if_pos hsecond]
    rfl

theorem chinesePair?_isCode (h : chinesePair? x = some w) : IsChineseCode w := by
  obtain ⟨p, hp, rfl⟩ := Option.map_eq_some_iff.1 h
  have hlt : p < 23940 := by
    rcases Option.or_eq_some_iff.1 hp with hformer | ⟨-, hplace⟩
    · have hall : ∀ former ∈ Index.chineseFormer, former.2 < 23940 := by decide
      obtain ⟨front, back, hsplit, -⟩ := List.lookup_eq_some_iff.1 hformer
      exact hall (x, p) (by simp [hsplit])
    · exact Nat.lt_of_lt_of_le (Index.placeWhere?_eq_some hplace).1 Index.size_chinese_le
  refine Or.inl ⟨_, _, rfl, ?_, ?_⟩
  · rw [toNat_byte]
    omega
  · rw [toNat_byte]
    split_ifs <;> omega

theorem gbkBytes?_cases (h : gbkBytes? x = some w) : w = [0x80] ∨ IsChineseCode w := by
  unfold gbkBytes? at h
  split_ifs at h
  · exact Or.inl (Option.some.inj h).symm
  · exact Or.inr (chinesePair?_isCode h)

theorem fst_rangeOf_le (key : Nat × Nat → Nat) (n : Nat) : (Index.rangeOf key n).1 ≤ 39394 := by
  have hall : ∀ (ranges : List (Nat × Nat)) (best : Nat × Nat),
      (∀ range ∈ ranges, range.1 ≤ 39394) → best.1 ≤ 39394 →
        (ranges.foldl (fun best r => if key r ≤ n then r else best) best).1 ≤ 39394 := by
    intro ranges
    induction ranges with
    | nil => exact fun best _ hbest => hbest
    | cons range ranges ih =>
      intro best hranges hbest
      rw [List.foldl_cons]
      apply ih
      · exact fun r hr => hranges r (List.mem_cons_of_mem _ hr)
      · split
        · exact hranges range List.mem_cons_self
        · exact hbest
  exact hall Index.chineseRanges (0, 0x80) (by decide +kernel) (by decide)

theorem rangePlace_lt (x : Char) : Index.rangePlace x < 1260000 := by
  have hchar := isValidChar_toNat x
  have hfirst := fst_rangeOf_le Prod.snd x.toNat
  unfold Index.rangePlace
  split_ifs
  · omega
  · dsimp only
    omega
  · omega

theorem gb18030Bytes?_isCode (h : gb18030Bytes? x = some w) : IsChineseCode w := by
  unfold gb18030Bytes? at h
  split_ifs at h with hx
  rcases Option.or_eq_some_iff.1 h with hpair | ⟨-, hfour⟩
  · exact chinesePair?_isCode hpair
  · obtain rfl := Option.some.inj hfour
    have hlt := rangePlace_lt x
    refine Or.inr ⟨_, _, _, _, rfl, ?_, ?_⟩
    · rw [toNat_byte]
      omega
    · rw [toNat_byte]
      omega

theorem chineseReader_eq_some (h : chineseReader b r = some (cs, r')) :
    (∃ x, cs = [x]) ∧ r'.val = (b :: r).drop (chineseLength (b :: r)) := by
  have hpair : ∀ {r : Bytes} {r' : NoLonger r}, pair chineseChar? b r = some (cs, r') →
      (∃ x, cs = [x]) ∧ r'.val = (b :: r).drop (chineseLength (b :: r)) := by
    intro r r' hread
    obtain ⟨b₁, x, hr, hchar, hcs⟩ := pair_eq_some hread
    unfold chineseChar? at hchar
    split at hchar
    · rename_i hwithin
      simp only [within, Bool.and_eq_true, Bool.or_eq_true, decide_eq_true_eq] at hwithin
      have hlength : chineseLength (b :: b₁ :: r'.val) = 2 := by
        rw [chineseLength_of_lead (by omega), if_neg (by omega)]
      have hbehind : r'.val = r.drop 1 := (behind_of_length (w := [b₁]) hr rfl).symm
      rw [← hr] at hlength
      exact ⟨⟨x, hcs⟩, by rw [hlength]; exact hbehind⟩
    · cases hchar
  unfold chineseReader at h
  split_ifs at h with h1
  · obtain ⟨rfl, rfl⟩ := Prod.mk.inj (Option.some.inj h)
    rw [h1]
    exact ⟨⟨_, rfl⟩, rfl⟩
  · split at h
    · rename_i b₁ b₂ b₃ rest
      split at h
      · rename_i x hfour
        obtain ⟨rfl, rfl⟩ := Prod.mk.inj (Option.some.inj h)
        unfold fourByteChar? at hfour
        split_ifs at hfour with hwithin
        simp only [within, Bool.and_eq_true, decide_eq_true_eq] at hwithin
        refine ⟨⟨x, rfl⟩, ?_⟩
        rw [chineseLength_of_lead (by omega), if_pos (by omega)]
        rfl
      · exact hpair h
    · exact hpair h

theorem fits_chinese {write? : Char → Option Bytes}
    (hwrite : ∀ {x w}, write? x = some w → w = [0x80] ∨ IsChineseCode w) :
    Fits (overAscii chineseReader) fun x => (asciiOr write? x).getD (reference x) := by
  apply fits_overAscii
  intro b r cs r' e hb hread hcode
  obtain ⟨⟨x, rfl⟩, hr⟩ := chineseReader_eq_some hread
  obtain ⟨w, hw, hcode⟩ := write_of_wide hb hcode
  have hlength : w.length = chineseLength (w ++ e) := by
    rcases hwrite hw with rfl | hw
    · rfl
    · exact hw.length_eq e
  rw [hr, hcode]
  exact behind_of_length rfl hlength

theorem fits_legacy {c : Charset} (hc : c ∉ unicode) (hstates : c ≠ .iso2022Jp) :
    Fits c.reader c.written := by
  cases c with
  | utf8 => exact absurd (by decide) hc
  | utf16le => exact absurd (by decide) hc
  | utf16be => exact absurd (by decide) hc
  | singleByte t => exact fits_singleByte t
  | gbk => exact fits_chinese gbkBytes?_cases
  | gb18030 => exact fits_chinese fun h => Or.inr (gb18030Bytes?_isCode h)
  | big5 => exact fits_big5
  | eucJp => exact fits_eucJp
  | iso2022Jp => exact absurd rfl hstates
  | shiftJis => exact fits_shiftJis
  | eucKr => exact fits_eucKr
  | userDefined => exact fits_userDefined

theorem keepsAll_singleByte (t : SingleByte) :
    KeepsAll (reader (.singleByte t)) (written (.singleByte t)) := by
  have htable := isOneToOne_upper t
  apply keepsAll_overAscii
  intro b r cs r' hb hread
  unfold singleByteReader at hread
  split at hread
  · rename_i x hx
    split at hread
    · cases hread
    · rename_i hne
      obtain ⟨rfl, rfl⟩ := Prod.mk.inj (Option.some.inj hread)
      have hmem := List.mem_of_getElem? hx
      have hlt := List.idxOf_lt_length_of_mem hmem
      have hplace : t.upper.idxOf x = b.toNat - 0x80 :=
        htable.unique (List.getElem?_eq_some_iff.2 ⟨hlt, List.getElem_idxOf hlt⟩) hx hne
      refine ⟨x, [b], rfl, htable.wide x hmem, ?_, rfl⟩
      have hcode : 0x80 + (b.toNat - 0x80) = b.toNat := by omega
      rw [singleByteBytes?, if_neg hne]
      simp only [hlt, if_true]
      rw [hplace, hcode, byte_toNat]
  · cases hread

theorem keepsAll_userDefined : KeepsAll (reader .userDefined) (written .userDefined) := by
  apply keepsAll_overAscii
  intro b r cs r' hb hread
  obtain ⟨rfl, rfl⟩ := Prod.mk.inj (Option.some.inj hread)
  have hlt := b.toNat_lt
  have hvalue : (Char.ofNat (0xF700 + b.toNat)).toNat = 0xF700 + b.toNat :=
    toNat_ofNat_of_valid (isValidChar_iff.2 (by omega))
  refine ⟨_, [b], rfl, by omega, ?_, rfl⟩
  rw [userDefinedBytes?, hvalue, if_pos (within_iff.2 (by omega)), Nat.add_sub_cancel_left,
    byte_toNat]

theorem Index.place?_eq {t : Index} (ht : IsOneToOne t.toList) (h : t.char? p = some x) :
    t.place? x = some p ∧ 0x80 ≤ x.toNat := by
  unfold char? at h
  split at h
  · rename_i y hy
    split at h
    · cases h
    · rename_i hne
      obtain rfl := Option.some.inj h
      obtain ⟨hlt, -⟩ := Array.getElem?_eq_some_iff.1 hy
      have hget : t.toList[p]? = some y := by rwa [Array.getElem?_toList]
      refine ⟨?_, ht.wide y (List.mem_of_getElem? hget)⟩
      cases hplace : t.place? y with
      | none =>
        rw [place?, placeWhere?, if_neg hne, List.find?_eq_none] at hplace
        exact absurd (by simp [hy]) (hplace p (List.mem_range.2 hlt))
      | some q =>
        obtain ⟨-, hq, -⟩ := placeWhere?_eq_some hplace
        rw [← Array.getElem?_toList] at hq
        rw [ht.unique hq hget hne]
  · cases h

theorem keepsAll_eucKr : KeepsAll (reader .eucKr) (written .eucKr) := by
  apply keepsAll_overAscii
  intro b r cs r' hb hread
  obtain ⟨b', x, hr, hchar, rfl⟩ := pair_eq_some hread
  unfold eucKrChar? at hchar
  split_ifs at hchar with hwithin
  simp only [within, Bool.and_eq_true, decide_eq_true_eq] at hwithin
  obtain ⟨hplace, hwide⟩ := Index.place?_eq Index.isOneToOne_korean hchar
  refine ⟨x, [b, b'], rfl, hwide, ?_, congrArg (b :: ·) hr⟩
  have hlead : ((b.toNat - 0x81) * 190 + (b'.toNat - 0x41)) / 190 + 0x81 = b.toNat := by omega
  have htrail : ((b.toNat - 0x81) * 190 + (b'.toNat - 0x41)) % 190 + 0x41 = b'.toNat := by omega
  rw [eucKrBytes?, hplace, Option.map_some, hlead, htrail, byte_toNat, byte_toNat]

theorem losesSome_shiftJis : LosesSome (reader .shiftJis) (written .shiftJis) := by
  have hread : ∀ {b b' : UInt8} {p : Nat}, p ∈ [159, 1207] →
      shiftJisChar? b.toNat b'.toNat = Index.jis0208.char? p → ¬b.toNat < 0x80 → b ≠ 0x80 →
      ¬within 0xA1 0xDF b.toNat → reader .shiftJis b [b'] = some (['≒'], .drop 1 [b']) := by
    intro b b' p hp hchar hwide hsingle hhalf
    rw [Index.jis0208_repeated p hp] at hchar
    rw [reader, overAscii, if_neg hwide, shiftJisReader, if_neg hsingle, if_neg hhalf]
    exact congrArg (Option.map _) hchar
  have hfirst : reader .shiftJis 0x81 [0xE0] = some (['≒'], .drop 1 [0xE0]) :=
    hread (p := 159) (by decide) (by simp [shiftJisChar?, within]) (by decide) (by decide)
      (by decide)
  have hsecond : reader .shiftJis 0x87 [0x90] = some (['≒'], .drop 1 [0x90]) :=
    hread (p := 1207) (by decide) (by simp [shiftJisChar?, within]) (by decide) (by decide)
      (by decide)
  exact losesSome_of_repeated hfirst hsecond ⟨rfl, rfl⟩ (by decide)

theorem losesSome_eucJp : LosesSome (reader .eucJp) (written .eucJp) := by
  have hread : ∀ {b b' : UInt8} {p : Nat}, p ∈ [159, 1207] →
      eucChar? Index.jis0208 b.toNat b'.toNat = Index.jis0208.char? p → ¬b.toNat < 0x80 →
      b ≠ 0x8E → b ≠ 0x8F → reader .eucJp b [b'] = some (['≒'], .drop 1 [b']) := by
    intro b b' p hp hchar hwide hhalf hlong
    rw [Index.jis0208_repeated p hp] at hchar
    rw [reader, overAscii, if_neg hwide]
    unfold eucJpReader
    rw [if_neg hhalf, if_neg hlong]
    exact congrArg (Option.map _) hchar
  have hfirst : reader .eucJp 0xA2 [0xE2] = some (['≒'], .drop 1 [0xE2]) :=
    hread (p := 159) (by decide) (by simp [eucChar?, within]) (by decide) (by decide) (by decide)
  have hsecond : reader .eucJp 0xAD [0xF0] = some (['≒'], .drop 1 [0xF0]) :=
    hread (p := 1207) (by decide) (by simp [eucChar?, within]) (by decide) (by decide) (by decide)
  exact losesSome_of_repeated hfirst hsecond ⟨rfl, rfl⟩ (by decide)

theorem losesSome_big5 : LosesSome (reader .big5) (written .big5) := by
  have hread : reader .big5 0x88 [0x62] = some (['\u00ca', '\u0304'], .drop 1 _) := by
    decide +kernel
  refine losesSome_of_wide hread rfl (by decide) fun w hw hcode => ?_
  obtain ⟨b₁, b₂, rfl, hlarge⟩ := big5Bytes?_cases hw
  obtain ⟨rfl, -⟩ := List.cons.inj hcode
  exact absurd hlarge (by decide)

theorem losesSome_gbk : LosesSome (reader .gbk) (written .gbk) := by
  have hread : reader .gbk 0x81 [0x30, 0x81, 0x30] = some (['\u0080'], .drop 3 _) := by
    decide +kernel
  refine losesSome_of_wide hread rfl (by decide) fun w hw hcode => ?_
  rw [gbkBytes?, if_neg (by decide)] at hw
  obtain ⟨p, -, rfl⟩ := Option.map_eq_some_iff.1 hw
  simp at hcode

theorem losesSome_gb18030 : LosesSome (reader .gb18030) (written .gb18030) := by
  have hread : reader .gb18030 0x80 [] = some (['€'], .all []) := by decide +kernel
  refine losesSome_of_wide hread rfl (by decide) fun w hw hcode => ?_
  rcases gb18030Bytes?_isCode hw with ⟨b₁, b₂, rfl, -⟩ | ⟨b₁, b₂, b₃, b₄, rfl, -⟩
  · cases hcode
  · cases hcode

end MarkupSplice.Charset
