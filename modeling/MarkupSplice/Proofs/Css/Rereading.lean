import MarkupSplice.Proofs.Css.Reading
import MarkupSplice.Proofs.Css.Writing
import MarkupSplice.Proofs.Text.Ascii

/-!
# Reading what is written

What is written for a name, a test, a compound or a selector is read as it, in front of
anything that cannot belong to it any more; so a list of selectors that can be written is
read again from its text (`selectors_written`).
-/
namespace MarkupSplice.Css
open Markup Text

variable {c : Char} {name r r' s : List Char}

theorem forall_ascii {P : Char → Prop} (h : ∀ n < 128, P (Char.ofNat n)) (hc : c.toNat < 128) :
    P c := by
  have hofNat := h c.toNat hc
  rwa [Char.ofNat_toNat] at hofNat

theorem lt_of_isBare (h : isBare c = true) : c.toNat < 128 := by
  simp only [isBare, Char.isAlphanum, Bool.or_eq_true, isAlpha_iff, Char.isDigit_iff_toNat,
    beq_iff_eq] at h
  rcases h with ((hletter | ⟨-, hdigit⟩) | rfl) | rfl
  · omega
  · exact Nat.lt_of_le_of_lt hdigit (by decide)
  · decide
  · decide

def Announces (c : Char) : Prop := c = '#' ∨ c = '.' ∨ c = '[' ∨ c = ':'

theorem Announces.apart (h : Announces c) :
    isNameChar c = false ∧ c ≠ '\\' ∧ c ≠ '*' ∧ ¬isNameStart c = true := by
  rcases h with rfl | rfl | rfl | rfl <;> decide

def Begins (c : Char) : Prop := isBare c = true ∨ c = '\\' ∨ c = '*' ∨ Announces c

theorem isNameChar_of_isBare (h : isBare c = true) : isNameChar c = true := by
  rw [isNameChar, Bool.or_eq_true]
  exact Or.inl h

theorem Begins.apart (h : Begins c) :
    isBlank c = false ∧ ¬(c = ',' ∨ c = ')') ∧ combinator? c = none := by
  rcases h with hbare | hmark
  · have hascii : ∀ n < 128, isBare (Char.ofNat n) = true → isBlank (Char.ofNat n) = false ∧
        ¬(Char.ofNat n = ',' ∨ Char.ofNat n = ')') ∧ combinator? (Char.ofNat n) = none := by
      decide +kernel
    exact forall_ascii (P := fun c => isBare c = true → isBlank c = false ∧
      ¬(c = ',' ∨ c = ')') ∧ combinator? c = none) hascii (lt_of_isBare hbare) hbare
  · rcases hmark with rfl | rfl | rfl | rfl | rfl | rfl <;> decide

theorem nameChars_escaped {bare : Char → Bool} (hbare : ∀ c, bare c = true → isBare c = true)
    (c : Char) (s : List Char) :
    nameChars (escaped bare c ++ s) = (nameChars s).map fun (name, r) => (c :: name, r) := by
  unfold escaped
  split
  · rename_i hc
    have hname := isNameChar_of_isBare (hbare c hc)
    have hslash := ne_backslash_of_isNameChar hname
    rw [List.singleton_append, nameChars.eq_4 c s (fun h => absurd h hslash)
      (fun _ _ h => absurd h hslash), if_pos hname]
  · rfl

theorem nameChars_nil (hr : EndsName r) : nameChars r = .ok ([], r) :=
  (nameChars_append nofun hr : nameChars ([] ++ r) = .ok ([], r))

theorem nameChars_written (name : List Char) (hr : EndsName r) :
    nameChars (name.flatMap (escaped isBare) ++ r) = .ok (name, r) := by
  induction name with
  | nil => exact nameChars_nil hr
  | cons c name ih =>
    rw [List.flatMap_cons, List.append_assoc, nameChars_escaped (fun _ h => h), ih]
    rfl

theorem identifier_of_nameChars {name : String} (hne : name ≠ "")
    (h : nameChars s = .ok (name.toList, r)) : Yields (identifier s) name r := by
  unfold identifier
  split
  · rename_i heq
    cases h.symm.trans heq
  · rename_i heq
    have hnil := (Prod.mk.inj (Except.ok.inj (h.symm.trans heq))).1
    exact absurd (String.toList_eq_nil_iff.1 hnil) hne
  · rename_i heq
    obtain ⟨hname, rfl⟩ := Prod.mk.inj (Except.ok.inj (h.symm.trans heq))
    exact yields_ok.2 ⟨by rw [← hname, String.ofList_toList], rfl⟩

theorem identifier_written {name : String} (hne : name ≠ "") (hr : EndsName r) :
    Yields (identifier (writtenName name ++ r)) name r :=
  identifier_of_nameChars hne (nameChars_written name.toList hr)

theorem exists_writtenName {name : String} (hne : name ≠ "") (r : List Char) :
    ∃ c s, writtenName name ++ r = c :: s ∧ Begins c := by
  obtain ⟨c, cs, hname⟩ := List.exists_cons_of_ne_nil (mt String.toList_eq_nil_iff.1 hne)
  rw [writtenName, hname, List.flatMap_cons, List.append_assoc, escaped]
  split
  · exact ⟨c, _, rfl, Or.inl ‹_›⟩
  · exact ⟨'\\', _, rfl, Or.inr (Or.inl rfl)⟩

theorem trimStart_writtenName {name : String} (hne : name ≠ "") (r : List Char) :
    trimStart (writtenName name ++ r) = writtenName name ++ r := by
  obtain ⟨c, s, heq, hc⟩ := exists_writtenName hne r
  rw [heq, trimStart_cons hc.apart.1]

theorem stringChars_escaped {bare : Char → Bool} (hbare : ∀ c, bare c = true → c ≠ '"' ∧ c ≠ '\\')
    (c : Char) (s : List Char) :
    stringChars? '"' (escaped bare c ++ s) =
      (stringChars? '"' s).map fun (text, r) => (c :: text, r) := by
  unfold escaped
  split
  · rename_i hc
    obtain ⟨hquote, hslash⟩ := hbare c hc
    rw [List.singleton_append, stringChars?.eq_def]
    simp only [if_neg hquote, if_neg hslash]
  · rfl

theorem stringChars_written (v r : List Char) :
    stringChars? '"' (v.flatMap (escaped fun c => c != '"' && c != '\\') ++ ['"'] ++ r) =
      some (v, r) := by
  induction v with
  | nil =>
    rw [List.flatMap_nil, List.nil_append, List.singleton_append, stringChars?.eq_def]
    exact if_pos rfl
  | cons c v ih =>
    rw [List.flatMap_cons, List.append_assoc, List.append_assoc, stringChars_escaped (by simp),
      ← List.append_assoc, ih]
    rfl

theorem value_written (v : String) (r : List Char) : Yields (value (writtenValue v ++ r)) v r := by
  have hchars := stringChars_written v.toList r
  unfold writtenValue value
  simp only [List.cons_append, value.quoted]
  split
  · rename_i h
    cases hchars.symm.trans h
  · rename_i h
    obtain ⟨hv, rfl⟩ := Prod.mk.inj (Option.some.inj (hchars.symm.trans h))
    exact yields_ok.2 ⟨by rw [← hv, String.ofList_toList], rfl⟩

theorem operator_written (op : Operator) (r : List Char) :
    Yields (operator (op.written ++ r)) op r := by
  cases op <;> exact ⟨_, rfl⟩

theorem head_operator (op : Operator) (r : List Char) :
    ∃ c s, op.written ++ r = c :: s ∧ isNameChar c = false ∧ c ≠ '\\' ∧ isBlank c = false ∧
      c ≠ ']' := by
  cases op <;> exact ⟨_, _, rfl, by decide⟩

theorem caseFlag_written (ignoreCase : Bool) (r : List Char) :
    (caseFlag (trimStart (writtenFlag ignoreCase ++ ']' :: r))).1 = ignoreCase ∧
      (caseFlag (trimStart (writtenFlag ignoreCase ++ ']' :: r))).2.val = ']' :: r := by
  cases ignoreCase
  · exact ⟨rfl, rfl⟩
  · exact ⟨rfl, rfl⟩

theorem attributeTest_written {t : AttributeTest} (ht : t.Fits) (r : List Char) :
    Yields (attributeTest (t.written ++ ']' :: r)) t r := by
  obtain ⟨name, matcher, ignoreCase⟩ := t
  obtain ⟨hne, hflag⟩ := ht
  have hname : ∀ c s, isNameChar c = false → c ≠ '\\' →
      Yields (identifier (trimStart (writtenName name ++ c :: s))) name (c :: s) := by
    intro c s hc hslash
    rw [trimStart_writtenName hne]
    exact identifier_written hne (endsName_of_head hc hslash s)
  cases matcher with
  | none =>
    obtain rfl : ignoreCase = false := hflag rfl
    rw [AttributeTest.written, List.append_nil]
    exact attributeTest_bracket (hname ']' r (by decide) (by decide))
      (trimStart_cons (by decide) r)
  | some test =>
    obtain ⟨op, v⟩ := test
    have hwritten : AttributeTest.written ⟨name, some (op, v), ignoreCase⟩ ++ ']' :: r =
        writtenName name ++ (op.written ++ (writtenValue v ++ (writtenFlag ignoreCase ++
          ']' :: r))) := by
      simp [AttributeTest.written]
    have hop := operator_written op (writtenValue v ++ (writtenFlag ignoreCase ++ ']' :: r))
    have hvalue := value_written v (writtenFlag ignoreCase ++ ']' :: r)
    obtain ⟨hflag, hend⟩ := caseFlag_written ignoreCase r
    obtain ⟨c, s, hs, hc, hslash, hblank, hbracket⟩ := head_operator op (writtenValue v ++
      (writtenFlag ignoreCase ++ ']' :: r))
    have htrim := trimStart_cons hblank s
    rw [hs, ← htrim] at hop
    rw [hwritten, hs]
    refine attributeTest_operator (hname c s hc hslash) ?_ hop hvalue hflag hend
    rw [htrim]
    exact fun heq => hbracket (Option.some.inj heq)

section PseudoClasses

variable {name : String} {inner : Option (Reader (List Compound))} {component : Component}
  {alternatives : Reader (List Compound)} {cs : List Compound}

structure IsPseudo (name : String) : Prop where
  ne_nil : name.toList ≠ []
  chars : name.toList.all (fun c => isNameChar c && c != ':') = true
  lower : name.map Char.toLower = name

theorem IsPseudo.head (h : IsPseudo name) (r : List Char) :
    (name.toList ++ r).head? ≠ some ':' := by
  obtain ⟨c, cs, hname⟩ := List.exists_cons_of_ne_nil h.ne_nil
  have hc := List.all_eq_true.1 h.chars c (hname ▸ List.mem_cons_self)
  rw [Bool.and_eq_true, bne_iff_ne] at hc
  rw [hname]
  exact fun heq => hc.2 (Option.some.inj heq)

theorem IsPseudo.identifier (h : IsPseudo name) (hr : EndsName r) :
    Yields (identifier (name.toList ++ r)) name r := by
  have hchars : ∀ c ∈ name.toList, isNameChar c = true := fun c hc =>
    (Bool.and_eq_true_iff.1 (List.all_eq_true.1 h.chars c hc)).1
  have hread := identifier_append h.ne_nil hchars hr
  rwa [String.ofList_toList] at hread

theorem pseudoClass_simple (h : IsPseudo name) (hc : simplePseudo? name = some component)
    (hr : EndsName r) : Yields (pseudoClass inner (name.toList ++ r)) component r := by
  obtain ⟨hlt, hread⟩ := h.identifier hr
  unfold pseudoClass
  simp only [if_neg (h.head r), bind, Except.bind, hread, h.lower, hc]
  exact ⟨_, rfl⟩

theorem endsName_parenthesis (r : List Char) : EndsName ('(' :: r) :=
  endsName_of_head (by decide) (by decide) r

theorem pseudoClass_nth {build : Nth → Component} (h : IsPseudo name)
    (hsimple : simplePseudo? name = none) (hbuild : nthPseudo? name = some build) (e : Nth)
    (r : List Char) :
    Yields (pseudoClass inner (name.toList ++ '(' :: (e.written ++ ')' :: r))) (build e) r := by
  obtain ⟨hlt, hread⟩ := h.identifier (endsName_parenthesis (e.written ++ ')' :: r))
  have hchars : ∀ c ∈ e.written, (c != ')') = true := by
    intro c hc
    rw [bne_iff_ne]
    rintro rfl
    exact absurd (Nth.isWritten_of_mem hc) (by simp [Nth.IsWritten, Char.isDigit])
  have hnot : name ≠ "not" := by
    rintro rfl
    cases hbuild
  have hargument := takeWhile_append_of_stop (t := ')' :: r) hchars (by simp)
  have hrest := dropWhile_append_of_stop (t := ')' :: r) hchars (by simp)
  unfold pseudoClass
  simp only [if_neg (h.head _), bind, Except.bind, hread, h.lower, hsimple, if_neg hnot, hbuild,
    hargument, hrest, e.parse_written]
  exact ⟨_, rfl⟩

theorem pseudoClass_not (h : Yields (alternatives s) cs (')' :: r)) :
    Yields (pseudoClass (some alternatives) ("not".toList ++ '(' :: s)) (.not cs) r := by
  have hnot : IsPseudo "not" := ⟨by decide +kernel, by decide +kernel, by decide +kernel⟩
  have hsimple : simplePseudo? "not" = none := rfl
  obtain ⟨hlt, hread⟩ := hnot.identifier (endsName_parenthesis s)
  obtain ⟨hlt', h⟩ := h
  unfold pseudoClass
  simp only [if_neg (hnot.head _), bind, Except.bind, hread, hnot.lower, hsimple, if_true, h]
  exact ⟨_, rfl⟩

theorem isPseudo_pseudoName (ofType : Bool) (p : Place) : IsPseudo (p.pseudoName ofType) := by
  have h : ∀ name ∈ ["first-child", "last-child", "only-child", "nth-child", "nth-last-child",
      "first-of-type", "last-of-type", "only-of-type", "nth-of-type", "nth-last-of-type"],
      name.toList ≠ [] ∧ name.toList.all (fun c => isNameChar c && c != ':') = true ∧
        name.map Char.toLower = name := by
    decide +kernel
  have hmem : p.pseudoName ofType ∈ ["first-child", "last-child", "only-child", "nth-child",
      "nth-last-child", "first-of-type", "last-of-type", "only-of-type", "nth-of-type",
      "nth-last-of-type"] := by
    cases ofType <;> cases p <;> simp [Place.pseudoName]
  obtain ⟨hne, hchars, hlower⟩ := h _ hmem
  exact ⟨hne, hchars, hlower⟩

theorem pseudoClass_place (ofType : Bool) (p : Place) (hr : EndsName r) :
    Yields (pseudoClass inner (p.written ofType ++ r))
      (if ofType then .ofType p else .child p) r := by
  have h := isPseudo_pseudoName ofType p
  have hnth : ∀ e : Nth, (p.pseudoName ofType).toList ++ '(' :: (e.written ++ [')']) ++ r =
      (p.pseudoName ofType).toList ++ '(' :: (e.written ++ ')' :: r) := by
    simp
  cases p with
  | nth e =>
    rw [Place.written, Place.argument, hnth]
    cases ofType <;> exact pseudoClass_nth h rfl rfl e r
  | nthLast e =>
    rw [Place.written, Place.argument, hnth]
    cases ofType <;> exact pseudoClass_nth h rfl rfl e r
  | _ =>
    rw [Place.written, Place.argument.eq_def, List.append_nil]
    cases ofType <;> exact pseudoClass_simple h rfl hr

end PseudoClasses

section Compounds

variable {inner : Option (Reader (List Compound))} {P : Compound → Prop} {component : Component}
  {cs : Compound} {n : Nat}

def EndsCompound (r : List Char) : Prop := ∀ c ∈ r.head?, c = ' ' ∨ c = ',' ∨ c = ')'

theorem EndsCompound.endsName (hr : EndsCompound r) : EndsName r := by
  intro c hc
  rcases hr c hc with rfl | rfl | rfl <;> decide

theorem EndsCompound.component_eq_none (hr : EndsCompound r) : component? inner r = none := by
  cases r with
  | nil => rfl
  | cons c r => rcases hr c rfl with rfl | rfl | rfl <;> rfl

def ReadsInner (inner : Option (Reader (List Compound))) (P : Compound → Prop) : Prop :=
  ∀ alternatives, alternatives ≠ [] → (∀ cs ∈ alternatives, P cs) → ∃ read, inner = some read ∧
    ∀ r, Yields (read (writtenAlternatives alternatives ++ ')' :: r)) alternatives (')' :: r)

theorem component_name {c : Char} {name : String} {build : String → Component}
    (hc : ∀ s, component? inner (c :: s) = some ((identifier s).map fun (name, r') =>
      (build name, r'.behind c))) (hne : name ≠ "") (hr : EndsName r) :
    ∃ read, component? inner (c :: (writtenName name ++ r)) = some read ∧
      Yields read (build name) r := by
  obtain ⟨hlt, hread⟩ := identifier_written hne hr
  refine ⟨_, hc _, ?_⟩
  rw [hread]
  exact ⟨_, rfl⟩

theorem component_colon (h : Yields (pseudoClass inner s) component r) :
    ∃ read, component? inner (':' :: s) = some read ∧ Yields read component r := by
  obtain ⟨hlt, h⟩ := h
  refine ⟨_, rfl, ?_⟩
  rw [h]
  exact ⟨_, rfl⟩

theorem component_written (hinner : ReadsInner inner P) (hfits : component.Fits P)
    (hleads : component.leads = false) (hr : EndsName r) :
    ∃ read, component? inner (component.written ++ r) = some read ∧ Yields read component r := by
  match component, hfits, hleads with
  | .id v, hfits, _ => exact component_name (fun _ => rfl) hfits hr
  | .hasClass name, hfits, _ => exact component_name (fun _ => rfl) hfits hr
  | .attribute t, hfits, _ =>
    rw [Component.written, List.cons_append, List.append_assoc, List.singleton_append]
    exact component_bracket inner (attributeTest_written hfits r)
  | .root, _, _ =>
    have hroot : IsPseudo "root" := ⟨by decide +kernel, by decide +kernel, by decide +kernel⟩
    exact component_colon (pseudoClass_simple hroot rfl hr)
  | .empty, _, _ =>
    have hempty : IsPseudo "empty" := ⟨by decide +kernel, by decide +kernel, by decide +kernel⟩
    exact component_colon (pseudoClass_simple hempty rfl hr)
  | .child p, _, _ => exact component_colon (pseudoClass_place false p hr)
  | .ofType p, _, _ => exact component_colon (pseudoClass_place true p hr)
  | .not alternatives, hfits, _ =>
    obtain ⟨read, rfl, hread⟩ := hinner alternatives hfits.1 hfits.2
    rw [Component.written, List.cons_append, List.append_assoc, List.cons_append,
      List.append_assoc, List.singleton_append]
    exact component_colon (pseudoClass_not (hread r))

theorem exists_writtenType {name : String} (hne : name ≠ "") (r : List Char) :
    ∃ c s, writtenType name ++ r = c :: s ∧ Begins c ∧ isNameStart c = true ∧ c ≠ '*' := by
  obtain ⟨c, cs, hname⟩ := List.exists_cons_of_ne_nil (mt String.toList_eq_nil_iff.1 hne)
  rw [writtenType, hname]
  simp only [escaped]
  split
  · rename_i hc
    obtain ⟨hbare, hstart⟩ := Bool.and_eq_true_iff.1 hc
    refine ⟨c, _, rfl, Or.inl hbare, hstart, ?_⟩
    rintro rfl
    cases hbare
  · exact ⟨'\\', _, rfl, Or.inr (Or.inl rfl), rfl, by decide⟩

theorem leading_written {name : String} (hne : name ≠ "") (hr : EndsName r) :
    Yields (leading (writtenType name ++ r)) [.tag name] r := by
  have hchars : nameChars (writtenType name ++ r) = .ok (name.toList, r) := by
    obtain ⟨c, cs, hname⟩ := List.exists_cons_of_ne_nil (mt String.toList_eq_nil_iff.1 hne)
    simp only [writtenType, hname]
    rw [List.append_assoc, nameChars_escaped (fun c hc => (Bool.and_eq_true_iff.1 hc).1),
      nameChars_written cs hr]
    rfl
  have hread := identifier_of_nameChars hne hchars
  obtain ⟨c, s, heq, -, hstart, hstar⟩ := exists_writtenType hne r
  rw [heq] at hread ⊢
  obtain ⟨hlt, hread⟩ := hread
  rw [leading, if_neg hstar, if_pos hstart, hread]
  exact ⟨_, rfl⟩

theorem exists_written_of_not_leads (h : component.leads = false) (r : List Char) :
    ∃ c s, component.written ++ r = c :: s ∧ Announces c := by
  match component, h with
  | .id _, _ => exact ⟨'#', _, rfl, Or.inl rfl⟩
  | .hasClass _, _ => exact ⟨'.', _, rfl, Or.inr (Or.inl rfl)⟩
  | .attribute _, _ => exact ⟨'[', _, rfl, Or.inr (Or.inr (Or.inl rfl))⟩
  | .root, _ => exact ⟨':', _, rfl, Or.inr (Or.inr (Or.inr rfl))⟩
  | .empty, _ => exact ⟨':', _, rfl, Or.inr (Or.inr (Or.inr rfl))⟩
  | .child _, _ => exact ⟨':', _, rfl, Or.inr (Or.inr (Or.inr rfl))⟩
  | .ofType _, _ => exact ⟨':', _, rfl, Or.inr (Or.inr (Or.inr rfl))⟩
  | .not _, _ => exact ⟨':', _, rfl, Or.inr (Or.inr (Or.inr rfl))⟩

theorem exists_written (h : component.Fits P) (r : List Char) :
    ∃ c s, component.written ++ r = c :: s ∧ Begins c := by
  cases hleads : component.leads with
  | false =>
    obtain ⟨c, s, heq, hc⟩ := exists_written_of_not_leads hleads r
    exact ⟨c, s, heq, Or.inr (Or.inr (Or.inr hc))⟩
  | true =>
    match component, h, hleads with
    | .universal, _, _ => exact ⟨'*', r, rfl, Or.inr (Or.inr (Or.inl rfl))⟩
    | .tag name, h, _ =>
      obtain ⟨c, s, heq, hc, -⟩ := exists_writtenType h r
      exact ⟨c, s, heq, hc⟩

theorem endsName_writtenCompound (h : ∀ c ∈ cs, c.leads = false) (hr : EndsCompound r) :
    EndsName (writtenCompound cs ++ r) := by
  cases cs with
  | nil => exact hr.endsName
  | cons component cs =>
    obtain ⟨c, s, heq, hc⟩ := exists_written_of_not_leads (h component List.mem_cons_self)
      (writtenCompound cs ++ r)
    rw [writtenCompound, List.append_assoc, heq]
    exact endsName_of_head hc.apart.1 hc.apart.2.1 s

theorem components_written (hinner : ReadsInner inner P) (hleads : ∀ c ∈ cs, c.leads = false)
    (hfits : ∀ c ∈ cs, c.Fits P) (hr : EndsCompound r) :
    Yields (components inner (writtenCompound cs ++ r)) cs r := by
  induction cs with
  | nil => exact components_nil hr.component_eq_none
  | cons component cs ih =>
    obtain ⟨hlead, hleads⟩ := List.forall_mem_cons.1 hleads
    obtain ⟨hfit, hfits⟩ := List.forall_mem_cons.1 hfits
    rw [writtenCompound, List.append_assoc]
    obtain ⟨read, hcomponent, hread⟩ :=
      component_written hinner hfit hlead (endsName_writtenCompound hleads hr)
    exact components_cons hcomponent hread (ih hleads hfits)

theorem leading_of_leads (hfits : component.Fits P) (hleads : component.leads = true)
    (hr : EndsName r) : Yields (leading (component.written ++ r)) [component] r := by
  cases component with
  | universal => exact leading_star r
  | tag name => exact leading_written hfits hr
  | _ => cases hleads

theorem compoundWith_written (hinner : ReadsInner inner P) (h : Compound.FitsOver P cs)
    (hr : EndsCompound r) : Yields (compoundWith inner (writtenCompound cs ++ r)) cs r := by
  obtain ⟨component, cs, rfl⟩ := List.exists_cons_of_ne_nil h.ne_nil
  obtain ⟨hfit, hfits⟩ := List.forall_mem_cons.1 h.fits
  have hrest : ∀ c ∈ cs, c.leads = false := h.leads
  have hbehind := components_written hinner hrest hfits hr
  have hends := endsName_writtenCompound hrest hr
  have hlt : r.length < (writtenCompound (component :: cs) ++ r).length := by
    obtain ⟨c, s, heq, -⟩ := exists_written hfit []
    have hlength := congrArg List.length heq
    simp only [List.append_nil, List.length_cons] at hlength
    rw [writtenCompound, List.length_append, List.length_append]
    omega
  rw [writtenCompound, List.append_assoc] at hlt ⊢
  cases hleads : component.leads with
  | false =>
    have hall := components_written hinner (List.forall_mem_cons.2 ⟨hleads, hrest⟩) h.fits hr
    rw [writtenCompound, List.append_assoc] at hall
    obtain ⟨c, s, heq, hc⟩ := exists_written_of_not_leads hleads (writtenCompound cs ++ r)
    rw [heq] at hlt hall ⊢
    have hleading : Yields (leading (c :: s)) [] (c :: s) := by
      rw [leading, if_neg hc.apart.2.2.1, if_neg hc.apart.2.2.2]
      exact ⟨_, rfl⟩
    exact compoundWith_append hleading hall hlt
  | true => exact compoundWith_append (leading_of_leads hfit hleads hends) hbehind hlt

end Compounds

section Lists

variable {α : Type} {one : Reader α} {write : α → List Char} {x : α} {xs : List α}

theorem separated_last (hread : Yields (one (trimStart s)) x r)
    (hcomma : (trimStart r).head? ≠ some ',') : Yields (separated one s) [x] (trimStart r) := by
  obtain ⟨hlt, hread⟩ := hread
  rw [separated, hread]
  simp only [bind, Except.bind]
  split
  · rename_i heq
    rw [heq] at hcomma
    exact absurd rfl hcomma
  · exact ⟨_, rfl⟩

theorem separated_cons (hread : Yields (one (trimStart s)) x r) (hcomma : trimStart r = ',' :: r')
    {r'' : List Char} (hrest : Yields (separated one r') xs r'') :
    Yields (separated one s) (x :: xs) r'' := by
  obtain ⟨hlt, hread⟩ := hread
  obtain ⟨hlt', hrest⟩ := hrest
  rw [separated, hread]
  simp only [bind, Except.bind]
  split
  · rename_i heq
    obtain ⟨-, rfl⟩ := List.cons.inj (hcomma.symm.trans heq)
    simp only [hrest]
    exact ⟨_, rfl⟩
  · rename_i hne
    exact absurd hcomma (hne r')

def EndsList (r : List Char) : Prop := ∀ c ∈ r.head?, c = ')'

def ReadsItem (one : Reader α) (write : α → List Char) (x : α) : Prop :=
  (∀ r, trimStart (write x ++ r) = write x ++ r) ∧
    ∀ r, (∀ c ∈ r.head?, c = ',' ∨ c = ')') → Yields (one (write x ++ r)) x r

theorem trimStart_of_endsList (hr : EndsList r) : trimStart r = r :=
  trimStart_of_head fun c hc => by
    rw [hr c hc]
    decide

theorem trimStart_listed (hreads : ∀ x ∈ xs, ReadsItem one write x) (hr : EndsList r) :
    trimStart (listed write xs ++ r) = listed write xs ++ r := by
  cases xs with
  | nil => exact trimStart_of_endsList hr
  | cons x xs =>
    obtain ⟨htrim, -⟩ := hreads x List.mem_cons_self
    cases xs with
    | nil => exact htrim r
    | cons y ys =>
      rw [listed, List.append_assoc]
      · exact htrim _
      · nofun

theorem separated_listed (hne : xs ≠ []) (hreads : ∀ x ∈ xs, ReadsItem one write x)
    (hr : EndsList r) (hs : trimStart s = listed write xs ++ r) :
    Yields (separated one s) xs r := by
  induction xs generalizing s with
  | nil => exact absurd rfl hne
  | cons x xs ih =>
    obtain ⟨hread, hreads⟩ := List.forall_mem_cons.1 hreads
    cases xs with
    | nil =>
      have hone : Yields (one (trimStart s)) x r := by
        rw [hs]
        exact hread.2 r fun c hc => Or.inr (hr c hc)
      have hlast := separated_last hone (by
        rw [trimStart_of_endsList hr]
        intro hcomma
        cases hr ',' hcomma)
      rwa [trimStart_of_endsList hr] at hlast
    | cons y ys =>
      have hone : Yields (one (trimStart s)) x (',' :: ' ' :: (listed write (y :: ys) ++ r)) := by
        rw [hs, listed, List.append_assoc]
        · exact hread.2 _ fun c hc => Or.inl (Option.some.inj hc).symm
        · nofun
      have htrim : trimStart (' ' :: (listed write (y :: ys) ++ r)) = listed write (y :: ys) ++ r :=
        trimStart_listed hreads hr
      exact separated_cons hone (trimStart_cons (by decide) _)
        (ih (List.cons_ne_nil y ys) hreads htrim)

end Lists

section Levels

variable {cs : Compound} {n : Nat}

theorem writtenAlternatives_eq (alternatives : List (List Component)) :
    writtenAlternatives alternatives = listed writtenCompound alternatives := by
  induction alternatives with
  | nil => rfl
  | cons cs rest ih =>
    cases rest with
    | nil => rfl
    | cons cs' rest => rw [writtenAlternatives, listed, ih] <;> nofun

theorem exists_writtenCompound {P : Compound → Prop} (h : Compound.FitsOver P cs) (r : List Char) :
    ∃ c s, writtenCompound cs ++ r = c :: s ∧ Begins c := by
  obtain ⟨component, cs, rfl⟩ := List.exists_cons_of_ne_nil h.ne_nil
  rw [writtenCompound, List.append_assoc]
  exact exists_written (h.fits component List.mem_cons_self) _

theorem Compound.Fits.begins (h : Compound.Fits n cs) (r : List Char) :
    ∃ c s, writtenCompound cs ++ r = c :: s ∧ Begins c := by
  cases n <;> exact exists_writtenCompound h r

theorem Compound.Fits.trimStart (h : Compound.Fits n cs) (r : List Char) :
    trimStart (writtenCompound cs ++ r) = writtenCompound cs ++ r := by
  obtain ⟨c, s, heq, hc⟩ := h.begins r
  rw [heq, trimStart_cons hc.apart.1]

theorem compound_written (h : Compound.Fits n cs) (hr : EndsCompound r) :
    Yields (compound n (writtenCompound cs ++ r)) cs r := by
  induction n generalizing cs r with
  | zero =>
    refine compoundWith_written ?_ h hr
    intro alternatives hne hfits
    obtain ⟨cs, rest, rfl⟩ := List.exists_cons_of_ne_nil hne
    exact (hfits cs List.mem_cons_self).elim
  | succ n ih =>
    refine compoundWith_written ?_ h hr
    intro alternatives hne hfits
    refine ⟨_, rfl, fun r => ?_⟩
    have hreads : ∀ cs ∈ alternatives, ReadsItem (compound n) writtenCompound cs := fun cs hcs =>
      ⟨(hfits cs hcs).trimStart, fun r hr => ih (hfits cs hcs) fun c hc => Or.inr (hr c hc)⟩
    have hends : EndsList (')' :: r) := fun c hc => (Option.some.inj hc).symm
    rw [writtenAlternatives_eq]
    exact separated_listed hne hreads hends (trimStart_listed hreads hends)

end Levels

section Complexes

variable {left all : Complex} {right : Compound} {selector : Complex} {selectors : List Complex}

theorem joined_stop (hr : ∀ c ∈ r.head?, c = ',' ∨ c = ')') : Yields (joined left r) left r := by
  have htrim : trimStart r = r := trimStart_of_head fun c hc => by
    rcases hr c hc with rfl | rfl <;> decide
  rw [joined]
  split
  · rename_i heq
    exact yields_ok.2 ⟨rfl, heq.symm.trans htrim⟩
  · rename_i c s heq
    have hstop : c = ',' ∨ c = ')' := hr c (by rw [← htrim, heq]; rfl)
    rw [if_pos hstop]
    exact yields_ok.2 ⟨rfl, heq.symm.trans htrim⟩

theorem joined_written (k : Combinator) (hright : right.Fits maxNesting) (hr : EndsCompound r)
    (hrest : Yields (joined (.join left k right) r) all r') :
    Yields (joined left (k.written ++ (writtenCompound right ++ r))) all r' := by
  have hread := compound_written hright hr
  obtain ⟨c, s, heq, hc⟩ := hright.begins r
  obtain ⟨hblank, hstop, hcombinator⟩ := hc.apart
  have hgap : ∀ b ∈ [' '], isBlank b = true := List.forall_mem_singleton.2 (by decide)
  rw [heq] at hread ⊢
  have hhead : ∀ b ∈ (c :: s).head?, isBlank b = false := fun b hb => by
    cases hb
    exact hblank
  cases k with
  | descendant =>
    exact joined_blank hgap (List.cons_ne_nil _ _) hblank hstop hcombinator hread hrest
  | child => exact joined_combinator (c := '>') rfl hgap hgap hhead hread hrest
  | next => exact joined_combinator (c := '+') rfl hgap hgap hhead hread hrest
  | subsequent => exact joined_combinator (c := '~') rfl hgap hgap hhead hread hrest

theorem complex_written (h : selector.Fits maxNesting) (hr : EndsCompound r)
    (hrest : Yields (joined selector r) all r') :
    Yields (complex (selector.written ++ r)) all r' := by
  induction selector generalizing r with
  | compound c => exact complex_append (compound_written h hr) hrest
  | join left k right ih =>
    have hends : EndsCompound (k.written ++ (writtenCompound right ++ r)) := by
      intro c hc
      cases k <;> exact Or.inl (Option.some.inj hc).symm
    rw [Complex.written, List.append_assoc, List.append_assoc]
    exact ih h.1 hends (joined_written k h.2 hr hrest)

theorem Complex.Fits.trimStart (h : selector.Fits maxNesting) (r : List Char) :
    trimStart (selector.written ++ r) = selector.written ++ r := by
  induction selector generalizing r with
  | compound c => exact Compound.Fits.trimStart h r
  | join left k right ih =>
    rw [Complex.written, List.append_assoc, List.append_assoc]
    exact ih h.1 _

theorem selectors_written (hne : selectors ≠ []) (h : ∀ c ∈ selectors, c.Fits maxNesting) :
    Css.selectors (written selectors) = .ok selectors := by
  have hreads : ∀ c ∈ selectors, ReadsItem complex Complex.written c := fun c hc =>
    ⟨(h c hc).trimStart, fun r hr =>
      complex_written (h c hc) (fun b hb => Or.inr (hr b hb)) (joined_stop hr)⟩
  have hlist : Yields (separated complex (listed Complex.written selectors ++ [])) selectors [] :=
    separated_listed hne hreads nofun (trimStart_listed hreads nofun)
  rw [List.append_nil] at hlist
  obtain ⟨hlt, hlist⟩ := hlist
  rw [Css.selectors, written, hlist]
  rfl

end Complexes

end MarkupSplice.Css
