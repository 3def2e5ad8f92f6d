import MarkupSplice.Proofs.Charset.Escapes

/-!
# What encodings older than Unicode lose

A document that is decoded and encoded again keeps its bytes just when they are
canonical: when each of its codes is the one that is written for what it is read as,
and each escape sequence stands where one is written (`legacy_lossless_iff`). In the
encodings in which every character has a single code that is always so; in the others
the characters stay, but their bytes need not.
-/
namespace MarkupSplice.Charset
open Text

/-- Whether a text is written with the codes and escape sequences that it is read from. -/
def Canonical : Charset → Bytes → Prop
  | .iso2022Jp, s => Iso2022Jp.Canonical .ascii s
  | c, s => CanonicalWith c.reader c.written s

def hasSingleCodes : Charset → Bool
  | .singleByte _ | .eucKr | .userDefined => true
  | _ => false

def bare : Charset → Bytes → Bytes
  | .iso2022Jp, s => Iso2022Jp.unescaped s
  | _, s => s

variable {c : Charset} {bytes : Bytes} {t : String}

theorem decodeWith_of_decode (hstates : c ≠ .iso2022Jp) (h : c.decode bytes = .ok t) :
    decodeWith c.reader bytes = .ok t.toList := by
  have hchars := decode_eq_ok.1 h
  cases c with
  | iso2022Jp => exact absurd rfl hstates
  | _ => exact hchars

theorem encode_eq_flatMap (hc : c ∉ unicode) (hstates : c ≠ .iso2022Jp) (t : String) :
    c.encode t = t.toList.flatMap c.written := by
  cases c with
  | iso2022Jp => exact absurd rfl hstates
  | utf8 | utf16le | utf16be => exact absurd (by decide) hc
  | _ => rfl

theorem canonical_iff (hc : c ∉ unicode) (hdecode : c.decode bytes = .ok t) :
    c.encode t = bytes ↔ c.Canonical bytes := by
  by_cases hstates : c = .iso2022Jp
  · obtain rfl := hstates
    exact (Iso2022Jp.canonical_iff (decode_eq_ok.1 hdecode)).symm
  · have hcanonical : c.Canonical bytes ↔ CanonicalWith c.reader c.written bytes := by
      cases c with
      | iso2022Jp => exact absurd rfl hstates
      | _ => exact Iff.rfl
    rw [hcanonical, encode_eq_flatMap hc hstates]
    exact (canonicalWith_iff (fits_legacy hc hstates)
      (decodeWith_of_decode hstates hdecode)).symm

theorem canonical_of_singleCodes (hsingle : c.hasSingleCodes = true)
    (hdecode : c.decode bytes = .ok t) : c.Canonical bytes := by
  have hall : ∀ (h : KeepsAll c.reader c.written) (hstates : c ≠ .iso2022Jp),
      CanonicalWith c.reader c.written bytes :=
    fun h hstates => h.canonicalWith (decodeWith_of_decode hstates hdecode)
  cases c with
  | singleByte table => exact hall (keepsAll_singleByte table) (by simp)
  | eucKr => exact hall keepsAll_eucKr (by simp)
  | userDefined => exact hall keepsAll_userDefined (by simp)
  | _ => cases hsingle

theorem exists_not_canonical (hc : c ∉ unicode) (hsingle : c.hasSingleCodes = false) :
    ∃ bytes t, c.decode bytes = .ok t ∧ ¬c.Canonical bytes := by
  have hall : ∀ {c : Charset}, LosesSome c.reader c.written →
      c.decodeChars = decodeWith c.reader →
      ∃ bytes t, c.decode bytes = .ok t ∧ ¬CanonicalWith c.reader c.written bytes := by
    intro c hloses hchars
    obtain ⟨bytes, cs, hdecode, hnot⟩ := hloses.exists_not_canonicalWith
    refine ⟨bytes, String.ofList cs, decode_eq_ok.2 ?_, hnot⟩
    rw [hchars, hdecode, String.toList_ofList]
  cases c with
  | utf8 | utf16le | utf16be => exact absurd (by decide) hc
  | singleByte table => cases hsingle
  | eucKr | userDefined => cases hsingle
  | gbk => exact hall losesSome_gbk rfl
  | gb18030 => exact hall losesSome_gb18030 rfl
  | big5 => exact hall losesSome_big5 rfl
  | eucJp => exact hall losesSome_eucJp rfl
  | shiftJis => exact hall losesSome_shiftJis rfl
  | iso2022Jp =>
    -- an escape sequence that switches to the mode that a text begins in
    have hdecode : iso2022Jp.decode [0x1B, 0x28, 0x42] = .ok "" := by decide +kernel
    refine ⟨_, _, hdecode, fun hcanonical => ?_⟩
    have hencode := (canonical_iff hc hdecode).2 hcanonical
    cases hencode

theorem bare_encode (hc : c ∉ unicode) (t : String) :
    c.bare (c.encode t) = t.toList.flatMap c.written := by
  by_cases hstates : c = .iso2022Jp
  · obtain rfl := hstates
    exact Iso2022Jp.unescaped_encode .ascii t.toList
  · have hbare : c.bare (c.encode t) = c.encode t := by
      cases c with
      | iso2022Jp => exact absurd rfl hstates
      | _ => rfl
    rw [hbare, encode_eq_flatMap hc hstates]

/-- A document in an encoding older than Unicode keeps its bytes just when they are canonical, as
they always are where every character has a single code, and only there. The bytes of the characters
that no edit was planned for then stay when the document is rewritten. -/
theorem legacy_lossless_iff (c : Charset) (hc : c ∉ unicode) :
    (∀ bytes t, c.decode bytes = .ok t → (c.encode t = bytes ↔ c.Canonical bytes)) ∧
    (c.hasSingleCodes = true ↔ ∀ bytes t, c.decode bytes = .ok t → c.Canonical bytes) ∧
    ∀ bytes t es out, c.decode bytes = .ok t → c.Canonical bytes →
      applyEdits t (Edit.shiftPastMark t.toList es) = .ok out →
      ∃ xs : List Stretch,
        c.bare bytes = (Stretch.mark t.toList).flatMap c.written ++
          xs.flatMap (fun x => x.old.flatMap c.written) ∧
        c.bare (c.encode out) = (Stretch.mark t.toList).flatMap c.written ++
          xs.flatMap (fun x => (x.new.getD x.old).flatMap c.written) ∧
        ∀ e ∈ Stretch.edits 0 xs, ∃ e' ∈ es, e.interval = e'.interval := by
  refine ⟨fun bytes t => canonical_iff hc, ?_, ?_⟩
  · constructor
    · exact fun hsingle bytes t => canonical_of_singleCodes hsingle
    · intro hall
      by_contra hsingle
      obtain ⟨bytes, t, hdecode, hnot⟩ := exists_not_canonical hc (by simpa using hsingle)
      exact hnot (hall bytes t hdecode)
  · intro bytes t es out hdecode hcanonical happly
    obtain ⟨xs, hold, hnew, hedits⟩ := Edit.exists_stretches_of_applyEdits happly
    have htext := Stretch.mark_append t.toList
    have hcodes : ∀ f : Stretch → List Char,
        (Stretch.mark t.toList ++ xs.flatMap f).flatMap c.written =
          (Stretch.mark t.toList).flatMap c.written ++
            xs.flatMap fun x => (f x).flatMap c.written :=
      fun f => by rw [List.flatMap_append, List.flatMap_assoc]
    refine ⟨xs, ?_, ?_, hedits⟩
    · have hchars : t.toList = Stretch.mark t.toList ++ xs.flatMap (fun x => x.old) :=
        htext.symm.trans (congrArg (Stretch.mark t.toList ++ ·) hold)
      have hbytes : c.bare bytes = t.toList.flatMap c.written := by
        rw [← bare_encode hc, (canonical_iff hc hdecode).2 hcanonical]
      exact (hbytes.trans (congrArg (List.flatMap c.written) hchars)).trans (hcodes _)
    · rw [bare_encode hc, hnew, Stretch.newText, hcodes]

theorem legacy_lossless_iff_yen :
    iso2022Jp ∉ unicode ∧ ∃ bytes : Bytes,
      bytes = [0x3C, 0x61, 0x3E, 0x1B, 0x28, 0x4A, 0x5C, 0x1B, 0x28, 0x42] ∧
      iso2022Jp.decode bytes = .ok "<a>¥" ∧ iso2022Jp.Canonical bytes ∧
      ∃ xs : List Stretch,
        Iso2022Jp.unescaped bytes = xs.flatMap (fun x => x.old.flatMap iso2022Jp.written) ∧
        Iso2022Jp.unescaped (iso2022Jp.encode "<a b=\"c\">¥") =
          xs.flatMap (fun x => (x.new.getD x.old).flatMap iso2022Jp.written) ∧
        ∀ e ∈ Stretch.edits 0 xs, e.interval = (2, 2) := by
  have hmem : iso2022Jp ∉ unicode := by decide
  obtain ⟨hkeeps, -, hrewrite⟩ := legacy_lossless_iff iso2022Jp hmem
  have hdecode : iso2022Jp.decode [0x3C, 0x61, 0x3E, 0x1B, 0x28, 0x4A, 0x5C, 0x1B, 0x28, 0x42] =
      .ok "<a>¥" := by decide +kernel
  have hcanonical := (hkeeps _ _ hdecode).1 (by decide +kernel)
  have happly : applyEdits "<a>¥" (Edit.shiftPastMark "<a>¥".toList [.insert 2 " b=\"c\""]) =
      .ok "<a b=\"c\">¥" := by decide +kernel
  obtain ⟨xs, hold, hnew, hedits⟩ := hrewrite _ _ _ _ hdecode hcanonical happly
  refine ⟨hmem, _, rfl, hdecode, hcanonical, xs, hold, hnew, fun e he => ?_⟩
  obtain ⟨e', he', heq⟩ := hedits e he
  rw [heq, List.mem_singleton.1 he']
  rfl

/-- In GB 18030 the byte of a euro sign is not written for what it is read as. -/
theorem euro_not_lossless :
    ofLabel? "gb18030" = some gb18030 ∧ gb18030 ∉ unicode ∧
      gb18030.decode [0x3C, 0x61, 0x3E, 0x80] = .ok "<a>€" ∧
      gb18030.encode "<a>€" ≠ [0x3C, 0x61, 0x3E, 0x80] := by
  have hmem : gb18030 ∉ unicode := by decide
  have hdecode : gb18030.decode [0x3C, 0x61, 0x3E, 0x80] = .ok "<a>€" := by decide +kernel
  have hascii : "<a>".toList.flatMap (written .gb18030) = [0x3C, 0x61, 0x3E] := by decide +kernel
  refine ⟨by decide +kernel, hmem, hdecode, fun h => ?_⟩
  have htext : "<a>€".toList = "<a>".toList ++ ['€'] := rfl
  rw [encode_eq_flatMap hmem (by decide), htext, List.flatMap_append, hascii] at h
  have hbehind : [0x3C, 0x61, 0x3E] ++ ['€'].flatMap (written .gb18030) =
      [0x3C, 0x61, 0x3E] ++ [0x80] := h
  have hcode : (0x80 : UInt8) :: [] =
      ['€'].flatMap (fun x => (asciiOr gb18030Bytes? x).getD (reference x)) ++ [] :=
    (List.append_cancel_left hbehind).symm.trans (List.append_nil _).symm
  obtain ⟨w, hw, hcode⟩ := write_of_wide (by decide) hcode
  rcases gb18030Bytes?_isCode hw with ⟨b₁, b₂, rfl, -⟩ | ⟨b₁, b₂, b₃, b₄, rfl, -⟩
  · cases hcode
  · cases hcode

end MarkupSplice.Charset
