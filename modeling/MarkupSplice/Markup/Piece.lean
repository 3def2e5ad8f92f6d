import MarkupSplice.Text.Search
import MarkupSplice.Markup.Flavor

/-!
# The pieces of a markup text

A text is cut into pieces that keep every character: `Piece.source` writes a
piece back, and reading a text and writing its pieces gives the text again
(`source_pieces`). What markup means is left to the tree; a piece only says
how it is written. Malformed markup has pieces too, cut off by the end of the
text.
-/
namespace MarkupSplice.Markup
open Text

def isSpace (c : Char) : Bool :=
  c == ' ' || c == '\t' || c == '\n' || c == '\x0c' || c == '\r'

inductive WrittenValue
  | unquoted (text : List Char)
  | quoted (quote : Char) (text : List Char) (closed : Bool)
deriving DecidableEq, Repr

structure Assignment where
  before : List Char
  after : List Char
  value : WrittenValue
deriving DecidableEq, Repr

/-- `gap` is the white space and the lone slashes in front of the name. -/
structure WrittenAttribute where
  gap : List Char
  name : List Char
  assignment : Option Assignment
deriving DecidableEq, Repr

inductive Closing
  | cutOff
  | bracket
  | slash
deriving DecidableEq, Repr

structure StartTag where
  name : List Char
  attributes : List WrittenAttribute
  gap : List Char
  closing : Closing
deriving DecidableEq, Repr

/-- `rest` is all that stands between the name and the bracket. -/
structure EndTag where
  name : List Char
  rest : List Char
  closed : Bool
deriving DecidableEq, Repr

inductive Piece
  | text (content : List Char)
  | comment (body : List Char) (closed : Bool)
  | cdata (body : List Char) (closed : Bool)
  /-- A doctype or other `<!` markup. -/
  | declaration (body : List Char) (closed : Bool)
  | instruction (body : List Char) (closed : Bool)
  | startTag (tag : StartTag)
  /-- An element whose content is not searched for markup. -/
  | verbatim (tag : StartTag) (content : List Char) (close : Option EndTag)
  | endTag (tag : EndTag)
deriving DecidableEq, Repr

def WrittenValue.text : WrittenValue → List Char
  | .unquoted s => s
  | .quoted _ s _ => s

def WrittenValue.quote? : WrittenValue → Option Char
  | .unquoted _ => none
  | .quoted q _ _ => some q

def WrittenValue.isClosed : WrittenValue → Bool
  | .unquoted _ => false
  | .quoted _ _ closed => closed

def WrittenValue.source : WrittenValue → List Char
  | .unquoted s => s
  | .quoted q s closed => q :: s ++ if closed then [q] else []

def Assignment.source (a : Assignment) : List Char := a.before ++ '=' :: a.after ++ a.value.source

def WrittenAttribute.source (a : WrittenAttribute) : List Char :=
  a.gap ++ a.name ++ (a.assignment.elim [] Assignment.source)

def Closing.source : Closing → List Char
  | .cutOff => []
  | .bracket => ['>']
  | .slash => ['/', '>']

def StartTag.source (t : StartTag) : List Char :=
  '<' :: t.name ++ t.attributes.flatMap WrittenAttribute.source ++ t.gap ++ t.closing.source

def EndTag.source (t : EndTag) : List Char :=
  '<' :: '/' :: t.name ++ t.rest ++ if t.closed then ['>'] else []

def commentOpen : List Char := ['<', '!', '-', '-']
def commentClose : List Char := ['-', '-', '>']
def cdataOpen : List Char := ['<', '!', '[', 'C', 'D', 'A', 'T', 'A', '[']
def cdataClose : List Char := [']', ']', '>']

def enclosed (opener body closer : List Char) (closed : Bool) : List Char :=
  opener ++ body ++ if closed then closer else []

def Piece.source : Piece → List Char
  | .text s => s
  | .comment s closed => enclosed commentOpen s commentClose closed
  | .cdata s closed => enclosed cdataOpen s cdataClose closed
  | .declaration s closed => enclosed ['<', '!'] s ['>'] closed
  | .instruction s closed => enclosed ['<', '?'] s ['?', '>'] closed
  | .startTag t => t.source
  | .verbatim t s close => t.source ++ s ++ close.elim [] EndTag.source
  | .endTag t => t.source

def endsTagName (c : Char) : Bool := isSpace c || c == '/' || c == '>'

def endsAttributeName (c : Char) : Bool := endsTagName c || c == '='

def readGap : List Char → List Char × List Char
  | [] => ([], [])
  | c :: s =>
    if isSpace c || (c == '/' && s.head? != some '>') then
      let (gap, r) := readGap s
      (c :: gap, r)
    else ([], c :: s)

/-- Ends in front of white space, `>` and `/>`. -/
def readUnquoted : List Char → List Char × List Char
  | [] => ([], [])
  | c :: s =>
    if isSpace c || c == '>' || (c == '/' && s.head? == some '>') then ([], c :: s)
    else
      let (value, r) := readUnquoted s
      (c :: value, r)

def readQuoted (q : Char) (s : List Char) : WrittenValue × List Char :=
  match cutAt [q] s with
  | some (value, r) => (.quoted q value true, r)
  | none => (.quoted q s false, [])

def readValue : List Char → WrittenValue × List Char
  | '"' :: s => readQuoted '"' s
  | '\'' :: s => readQuoted '\'' s
  | s =>
    let (value, r) := readUnquoted s
    (.unquoted value, r)

/-- White space that no equals sign follows is left in the text. -/
def readAssignment (s : List Char) : Option Assignment × List Char :=
  match s.dropWhile isSpace with
  | '=' :: r =>
    let (value, r') := readValue (r.dropWhile isSpace)
    (some ⟨s.takeWhile isSpace, r.takeWhile isSpace, value⟩, r')
  | _ => (none, s)

/-- The name takes its first character whatever it is. -/
def readAttribute (gap : List Char) (c : Char) (s : List Char) : WrittenAttribute × List Char :=
  let (assignment, r) := readAssignment (s.dropWhile fun c => !endsAttributeName c)
  (⟨gap, c :: s.takeWhile fun c => !endsAttributeName c, assignment⟩, r)

theorem source_readGap (s : List Char) : (readGap s).1 ++ (readGap s).2 = s := by
  induction s with
  | nil => rfl
  | cons c s ih =>
    simp only [readGap]
    split <;> simp [ih]

theorem source_readUnquoted (s : List Char) : (readUnquoted s).1 ++ (readUnquoted s).2 = s := by
  induction s with
  | nil => rfl
  | cons c s ih =>
    simp only [readUnquoted]
    split <;> simp [ih]

theorem source_readQuoted (q : Char) (s : List Char) :
    (readQuoted q s).1.source ++ (readQuoted q s).2 = q :: s := by
  unfold readQuoted
  split
  · rename_i h
    simp [WrittenValue.source, ← append_of_cutAt h]
  · simp [WrittenValue.source]

theorem source_readValue (s : List Char) : (readValue s).1.source ++ (readValue s).2 = s := by
  unfold readValue
  split
  · exact source_readQuoted _ _
  · exact source_readQuoted _ _
  · simpa [WrittenValue.source] using source_readUnquoted s

theorem source_readAssignment (s : List Char) :
    (readAssignment s).1.elim [] Assignment.source ++ (readAssignment s).2 = s := by
  unfold readAssignment
  split
  · rename_i r hr
    have hv := source_readValue (r.dropWhile isSpace)
    simp only [Option.elim_some, Assignment.source, List.append_assoc, List.cons_append, hv,
      List.takeWhile_append_dropWhile, ← hr]
  · simp

theorem source_readAttribute (gap : List Char) (c : Char) (s : List Char) :
    (readAttribute gap c s).1.source ++ (readAttribute gap c s).2 = gap ++ c :: s := by
  have ha := source_readAssignment (s.dropWhile fun c => !endsAttributeName c)
  simp [readAttribute, WrittenAttribute.source, List.append_assoc, ha,
    List.takeWhile_append_dropWhile]

theorem length_readGap (s : List Char) : (readGap s).2.length ≤ s.length := by
  have h := congrArg List.length (source_readGap s)
  simp only [List.length_append] at h
  omega

theorem length_readAttribute (gap : List Char) (c : Char) (s : List Char) :
    (readAttribute gap c s).2.length ≤ s.length := by
  have h := congrArg List.length (source_readAssignment (s.dropWhile fun c => !endsAttributeName c))
  have hd := congrArg List.length
    (List.takeWhile_append_dropWhile (p := fun c => !endsAttributeName c) (l := s))
  simp only [List.length_append] at h hd
  simp only [readAttribute]
  omega

def readAttributes (s : List Char) : List WrittenAttribute × List Char × Closing × List Char :=
  match _ : readGap s with
  | (gap, []) => ([], gap, .cutOff, [])
  | (gap, c :: r) =>
    if c = '>' then ([], gap, .bracket, r)
    else if c = '/' ∧ r.head? = some '>' then ([], gap, .slash, r.tail)
    else
      let a := readAttribute gap c r
      let (attributes, rest) := readAttributes a.2
      (a.1 :: attributes, rest)
termination_by s.length
decreasing_by
  have h1 := length_readGap s
  have h2 := length_readAttribute gap c r
  simp_all
  omega

def readStartTag (s : List Char) : StartTag × List Char :=
  let (attributes, gap, closing, r) := readAttributes (s.dropWhile fun c => !endsTagName c)
  (⟨s.takeWhile fun c => !endsTagName c, attributes, gap, closing⟩, r)

def readEndTag (s : List Char) : EndTag × List Char :=
  let name := s.takeWhile fun c => !endsTagName c
  let r := s.dropWhile fun c => !endsTagName c
  match cutAt ['>'] r with
  | some (rest, r') => (⟨name, rest, true⟩, r')
  | none => (⟨name, r, false⟩, [])

theorem source_readAttributes (s : List Char) :
    (readAttributes s).1.flatMap WrittenAttribute.source ++ (readAttributes s).2.1 ++
      (readAttributes s).2.2.1.source ++ (readAttributes s).2.2.2 = s := by
  fun_induction readAttributes s with
  | case1 s gap h =>
    have hg := source_readGap s
    simp_all [Closing.source]
  | case2 s gap r h =>
    have hg := source_readGap s
    simp_all [Closing.source]
  | case3 s gap c r h hc hs =>
    have hg := source_readGap s
    obtain ⟨rfl, hr⟩ := hs
    cases r <;> simp_all [Closing.source]
  | case4 s gap c r h hc hs a attributes rest hrest ih =>
    have hg := source_readGap s
    have ha : a.1.source ++ a.2 = gap ++ c :: r := source_readAttribute gap c r
    simp_all [List.flatMap_cons, List.append_assoc]

theorem source_readStartTag (s : List Char) :
    (readStartTag s).1.source ++ (readStartTag s).2 = '<' :: s := by
  have h := source_readAttributes (s.dropWhile fun c => !endsTagName c)
  simp only [List.append_assoc] at h
  simp [readStartTag, StartTag.source, List.append_assoc, h, List.takeWhile_append_dropWhile]

theorem source_readEndTag (s : List Char) :
    (readEndTag s).1.source ++ (readEndTag s).2 = '<' :: '/' :: s := by
  have ht := List.takeWhile_append_dropWhile (p := fun c => !endsTagName c) (l := s)
  simp only [readEndTag]
  split
  · rename_i rest r h
    have hc := append_of_cutAt h
    simp_all [EndTag.source, List.append_assoc]
  · simp [EndTag.source, ht]

inductive Opening
  | comment
  | cdata
  | declaration
  | instruction
  | startTag
  | endTag
deriving DecidableEq, Repr

def Opening.source : Opening → List Char
  | .comment => commentOpen
  | .cdata => cdataOpen
  | .declaration => ['<', '!']
  | .instruction => ['<', '?']
  | .startTag => ['<']
  | .endTag => ['<', '/']

def opening? (f : Flavor) : List Char → Option Opening
  | '<' :: '!' :: s =>
    if ['-', '-'].isPrefixOf s then some .comment
    else if f = .xml ∧ cdataOpen.isPrefixOf ('<' :: '!' :: s) then some .cdata
    else some .declaration
  | '<' :: '?' :: _ => some .instruction
  | '<' :: '/' :: c :: _ => if c.isAlpha then some .endTag else none
  | '<' :: c :: _ => if c.isAlpha then some .startTag else none
  | _ => none

def readText (f : Flavor) : List Char → List Char × List Char
  | [] => ([], [])
  | c :: s =>
    if (opening? f (c :: s)).isSome then ([], c :: s)
    else
      let (content, r) := readText f s
      (c :: content, r)

def readEnclosed (opener closer s : List Char) : List Char × Bool × List Char :=
  match cutAt closer (s.drop opener.length) with
  | some (body, r) => (body, true, r)
  | none => (s.drop opener.length, false, [])

def closesVerbatim (name : List Char) : List Char → Bool
  | '<' :: '/' :: s =>
    (s.take name.length).map Char.toLower == name &&
      (match (s.drop name.length).head? with
      | none => true
      | some c => endsTagName c)
  | _ => false

/-- The text in front of the end tag of `name`, and the text from it on. -/
def readVerbatim (name : List Char) : List Char → List Char × List Char
  | [] => ([], [])
  | c :: s =>
    if closesVerbatim name (c :: s) then ([], c :: s)
    else
      let (content, r) := readVerbatim name s
      (c :: content, r)

/-- A start tag and, when its content is verbatim, the content and the end tag. -/
def readContent (f : Flavor) (tag : StartTag) (s : List Char) : Piece × List Char :=
  let name := f.normalize (String.ofList tag.name)
  if tag.closing = .bracket ∧ f.isVerbatim name then
    match readVerbatim name.toList s with
    | (content, []) => (.verbatim tag content none, [])
    | (content, c :: r) =>
      let (close, r) := readEndTag ((c :: r).drop 2)
      (.verbatim tag content (some close), r)
  else (.startTag tag, s)

def readPiece (f : Flavor) (s : List Char) : Piece × List Char :=
  match opening? f s with
  | some .comment =>
    let (body, closed, r) := readEnclosed commentOpen commentClose s
    (.comment body closed, r)
  | some .cdata =>
    let (body, closed, r) := readEnclosed cdataOpen cdataClose s
    (.cdata body closed, r)
  | some .declaration =>
    let (body, closed, r) := readEnclosed ['<', '!'] ['>'] s
    (.declaration body closed, r)
  | some .instruction =>
    let (body, closed, r) := readEnclosed ['<', '?'] ['?', '>'] s
    (.instruction body closed, r)
  | some .startTag =>
    let (tag, r) := readStartTag (s.drop 1)
    readContent f tag r
  | some .endTag =>
    let (tag, r) := readEndTag (s.drop 2)
    (.endTag tag, r)
  | none =>
    let (content, r) := readText f s
    (.text content, r)

theorem source_readText (f : Flavor) (s : List Char) :
    (readText f s).1 ++ (readText f s).2 = s := by
  induction s with
  | nil => rfl
  | cons c s ih =>
    simp only [readText]
    split <;> simp [ih]

theorem source_readEnclosed {opener closer s : List Char} (h : opener <+: s) :
    enclosed opener (readEnclosed opener closer s).1 closer (readEnclosed opener closer s).2.1 ++
      (readEnclosed opener closer s).2.2 = s := by
  have hs : opener ++ s.drop opener.length = s := List.prefix_iff_eq_append.1 h
  unfold readEnclosed
  split
  · rename_i body r hc
    have hb := append_of_cutAt hc
    simp only [enclosed, if_true, List.append_assoc] at hb ⊢
    rw [hb, hs]
  · simpa [enclosed] using hs

theorem source_readVerbatim (name s : List Char) :
    (readVerbatim name s).1 ++ (readVerbatim name s).2 = s := by
  induction s with
  | nil => rfl
  | cons c s ih =>
    simp only [readVerbatim]
    split <;> simp [ih]

theorem readVerbatim_stop {name s : List Char} (h : (readVerbatim name s).2 ≠ []) :
    closesVerbatim name (readVerbatim name s).2 = true := by
  induction s with
  | nil => simp [readVerbatim] at h
  | cons c s ih =>
    simp only [readVerbatim] at h ⊢
    split
    · assumption
    · rename_i hc
      rw [if_neg hc] at h
      exact ih h

theorem eq_of_closesVerbatim {name s : List Char} (h : closesVerbatim name s = true) :
    '<' :: '/' :: s.drop 2 = s := by
  unfold closesVerbatim at h
  split at h
  · rfl
  · cases h

theorem source_readContent (f : Flavor) (tag : StartTag) (s : List Char) :
    (readContent f tag s).1.source ++ (readContent f tag s).2 = tag.source ++ s := by
  dsimp only [readContent]
  have hv := source_readVerbatim (f.normalize (String.ofList tag.name)).toList s
  have hc := @readVerbatim_stop (f.normalize (String.ofList tag.name)).toList s
  split
  · split
    · simp_all [Piece.source]
    · rename_i content c r h
      rw [h] at hv hc
      have he := source_readEndTag ((c :: r).drop 2)
      rw [eq_of_closesVerbatim (hc (by simp))] at he
      simp only [Piece.source, Option.elim_some, List.append_assoc, he, hv]
  · rfl

theorem source_startsWith_of_opening {f : Flavor} {s : List Char} {o : Opening}
    (h : opening? f s = some o) : o.source <+: s := by
  unfold opening? at h
  split at h
  · split at h
    · cases h
      have hp := List.isPrefixOf_iff_prefix.1 ‹_›
      simpa [Opening.source, commentOpen] using hp
    · split at h
      · cases h
        rename_i hc
        exact List.isPrefixOf_iff_prefix.1 hc.2
      · cases h
        simp [Opening.source]
  · cases h
    simp [Opening.source]
  · split at h <;> cases h
    simp [Opening.source]
  · split at h <;> cases h
    simp [Opening.source]
  · cases h

theorem source_readPiece (f : Flavor) (s : List Char) :
    (readPiece f s).1.source ++ (readPiece f s).2 = s := by
  unfold readPiece
  split
  · rename_i ho
    exact source_readEnclosed (source_startsWith_of_opening ho)
  · rename_i ho
    exact source_readEnclosed (source_startsWith_of_opening ho)
  · rename_i ho
    exact source_readEnclosed (source_startsWith_of_opening ho)
  · rename_i ho
    exact source_readEnclosed (source_startsWith_of_opening ho)
  · rename_i ho
    obtain ⟨t, rfl⟩ := source_startsWith_of_opening ho
    exact (source_readContent f _ _).trans (source_readStartTag t)
  · rename_i ho
    obtain ⟨t, rfl⟩ := source_startsWith_of_opening ho
    exact source_readEndTag t
  · exact source_readText f s

theorem source_ne_nil {f : Flavor} {s : List Char} (hs : s ≠ []) :
    (readPiece f s).1.source ≠ [] := by
  unfold readPiece
  split
  · simp [Piece.source, enclosed, commentOpen]
  · simp [Piece.source, enclosed, cdataOpen]
  · simp [Piece.source, enclosed]
  · simp [Piece.source, enclosed]
  · simp only [readContent]
    split
    · split <;> simp [Piece.source, StartTag.source]
    · simp [Piece.source, StartTag.source]
  · simp [Piece.source, EndTag.source]
  · rename_i ho
    cases s with
    | nil => exact absurd rfl hs
    | cons c s => simp [readText, ho, Piece.source]

theorem length_readPiece {f : Flavor} {s : List Char} (hs : s ≠ []) :
    (readPiece f s).2.length < s.length := by
  have h := congrArg List.length (source_readPiece f s)
  have hp := List.length_pos_iff.2 (source_ne_nil (f := f) hs)
  simp only [List.length_append] at h
  omega

def pieces (f : Flavor) (s : List Char) : List Piece :=
  if h : s = [] then []
  else
    have := length_readPiece (f := f) h
    (readPiece f s).1 :: pieces f (readPiece f s).2
termination_by s.length

theorem source_pieces (f : Flavor) (s : List Char) : (pieces f s).flatMap Piece.source = s := by
  fun_induction pieces f s with
  | case1 => rfl
  | case2 s h _ ih => rw [List.flatMap_cons, ih, source_readPiece]

end MarkupSplice.Markup
