import MarkupSplice.Proofs.Markup.Gaps
import MarkupSplice.Proofs.Plan.Clearing

/-!
# Verbatim content

What stands in a script, a style sheet, a text area or a title ends at the
first offset at which an end tag of that name begins, whatever comes near to
one in front of it, and else with the text (`contentEnds_readVerbatim`). No
other node begins there (`verbatim_content`). The content of a script or a
style sheet is read as it is written, unless it begins like a CDATA section
(`textContent_eq_content_iff`).
-/
namespace MarkupSplice
open Markup Text

theorem Text.length_lt_of_byteLength_lt {s x y : List Char} (hx : x <+: s) (hy : y <+: s)
    (hlt : byteLength x < byteLength y) : x.length < y.length := by
  obtain ⟨z, rfl⟩ := prefix_of_byteLength_le hx hy (Nat.le_of_lt hlt)
  have hz : z ≠ [] := by
    rintro rfl
    simp at hlt
  rw [List.length_append]
  exact Nat.lt_add_of_pos_right (List.length_pos_iff.2 hz)

theorem Flavor.map_toLower_normalize (name : String) :
    (html.normalize name).toList.map Char.toLower = (html.normalize name).toList := by
  have htwice := congrArg String.toList (normalize_normalize .html name)
  rwa [normalize, foldName, String.toList_map] at htwice

namespace Markup

/-- Whether an end tag called `name`, in any case of its ASCII letters, begins a text. -/
def BeginsEndTag (name : String) (s : List Char) : Prop :=
  ∃ written rest, s = '<' :: '/' :: (written ++ rest) ∧
    Flavor.html.namesMatch (String.ofList written) name = true ∧
    ∀ c ∈ rest.head?, endsTagName c = true

def EndTagAt (name : String) (s : List Char) (k : Nat) : Prop :=
  ∃ front back, s = front ++ back ∧ byteLength front = k ∧ BeginsEndTag name back

/-- Whether content that begins at the offset `a` ends at `b`: at the first end tag called `name`
behind `a`, or with the text when there is none. -/
structure ContentEnds (name : String) (s : List Char) (a b : Nat) : Prop where
  le : a ≤ b
  first : ∀ k, a ≤ k → k < b → ¬EndTagAt name s k
  stop : EndTagAt name s b ∨ b = byteLength s

variable {name : String} {s u v : List Char} {a b : Nat}

theorem closesVerbatim_iff (hname : name.toList.map Char.toLower = name.toList) :
    closesVerbatim name.toList s = true ↔ BeginsEndTag name s := by
  have hmatch : ∀ w : List Char, Flavor.html.namesMatch (String.ofList w) name = true ↔
      w.map Char.toLower = name.toList := by
    intro w
    rw [Flavor.namesMatch_iff, Flavor.normalize, Flavor.normalize, ← String.toList_inj,
      Flavor.foldName, Flavor.foldName, String.toList_map, String.toList_map, hname,
      String.toList_ofList]
  constructor
  · intro h
    obtain ⟨r, rfl⟩ : ∃ r, s = '<' :: '/' :: r := ⟨_, (eq_of_closesVerbatim h).symm⟩
    simp only [closesVerbatim, Bool.and_eq_true, beq_iff_eq] at h
    refine ⟨r.take name.toList.length, r.drop name.toList.length, ?_, (hmatch _).2 h.1, ?_⟩
    · rw [List.take_append_drop]
    · intro c hc
      have hends := h.2
      rw [Option.mem_def.1 hc] at hends
      exact hends
  · rintro ⟨written, rest, rfl, hwritten, hrest⟩
    have hlower := (hmatch written).1 hwritten
    have hlength : written.length = name.toList.length := by
      rw [← hlower, List.length_map]
    simp only [closesVerbatim, Bool.and_eq_true, beq_iff_eq]
    rw [← hlength, List.take_left, List.drop_left]
    refine ⟨hlower, ?_⟩
    cases hhead : rest.head? with
    | none => rfl
    | some c => exact hrest c hhead

theorem not_closes_of_lt {name : List Char} (hs : s = u ++ v)
    (hlt : u.length < (readVerbatim name s).1.length) : closesVerbatim name v = false := by
  induction s generalizing u with
  | nil => simp [readVerbatim] at hlt
  | cons c s ih =>
    rw [readVerbatim] at hlt
    split at hlt
    · simp at hlt
    · rename_i hnot
      cases u with
      | nil =>
        rw [List.nil_append] at hs
        rwa [← hs, ← Bool.not_eq_true]
      | cons d u =>
        obtain ⟨-, rfl⟩ := List.cons.inj hs
        exact ih rfl (Nat.lt_of_succ_lt_succ hlt)

theorem endTagAt_append : EndTagAt name (u ++ v) (byteLength u) ↔ BeginsEndTag name v := by
  constructor
  · rintro ⟨front, back, hs, hfront, hback⟩
    have hcut := cutBytes_byteLength u v
    rw [hs, ← hfront, cutBytes_byteLength] at hcut
    obtain ⟨-, rfl⟩ := Prod.mk.inj (Option.some.inj hcut)
    exact hback
  · intro hv
    exact ⟨u, v, rfl, rfl, hv⟩

theorem EndTagAt.le (h : EndTagAt name s b) : b ≤ byteLength s := by
  obtain ⟨front, back, rfl, rfl, -⟩ := h
  rw [byteLength_append]
  exact Nat.le_add_right _ _

theorem endTagAt_readVerbatim (hname : name.toList.map Char.toLower = name.toList)
    (u s : List Char) :
    EndTagAt name (u ++ s) (byteLength u + byteLength (readVerbatim name.toList s).1) ↔
      (readVerbatim name.toList s).2 ≠ [] := by
  have htext : u ++ s =
      (u ++ (readVerbatim name.toList s).1) ++ (readVerbatim name.toList s).2 := by
    rw [List.append_assoc, source_readVerbatim]
  rw [htext, ← byteLength_append, endTagAt_append, ← closesVerbatim_iff hname]
  constructor
  · intro hcloses hnil
    rw [hnil] at hcloses
    cases hcloses
  · exact readVerbatim_stop

theorem contentEnds_readVerbatim (hname : name.toList.map Char.toLower = name.toList)
    (u s : List Char) :
    ContentEnds name (u ++ s) (byteLength u)
      (byteLength u + byteLength (readVerbatim name.toList s).1) := by
  have hsource := source_readVerbatim name.toList s
  refine ⟨Nat.le_add_right _ _, ?_, ?_⟩
  · rintro k hle hlt ⟨front, back, hs, rfl, hback⟩
    -- the end tag would begin behind a part of the content that is shorter than all of it
    obtain ⟨w, rfl⟩ := prefix_of_byteLength_le (List.prefix_append u s) ⟨back, hs.symm⟩ hle
    rw [List.append_assoc] at hs
    have hsplit := List.append_cancel_left hs
    rw [byteLength_append] at hlt
    have hlength := length_lt_of_byteLength_lt ⟨back, hsplit.symm⟩ ⟨_, hsource⟩
      (Nat.lt_of_add_lt_add_left hlt)
    have hnot := not_closes_of_lt hsplit hlength
    rw [(closesVerbatim_iff hname).2 hback] at hnot
    cases hnot
  · rw [endTagAt_readVerbatim hname]
    by_cases hrest : (readVerbatim name.toList s).2 = []
    · rw [hrest, List.append_nil] at hsource
      rw [hsource, byteLength_append]
      exact Or.inr rfl
    · exact Or.inl hrest

theorem ContentEnds.exists_endTagAt (h : ContentEnds name s a b) :
    (∃ k, a ≤ k ∧ EndTagAt name s k) ↔ EndTagAt name s b := by
  constructor
  · rintro ⟨k, hle, hk⟩
    rcases h.stop with hb | hb
    · exact hb
    · have hkb := hk.le
      have hnot : ¬k < b := fun hlt => h.first k hle hlt hk
      obtain rfl : k = b := by omega
      exact hk
  · intro hb
    exact ⟨b, h.le, hb⟩

theorem ContentEnds.unique {b' : Nat} (h : ContentEnds name s a b) (h' : ContentEnds name s a b') :
    b = b' := by
  have hle : ∀ {c}, ContentEnds name s a c → c ≤ byteLength s := fun hc =>
    hc.stop.elim EndTagAt.le Nat.le_of_eq
  rcases Nat.lt_trichotomy b b' with hlt | heq | hgt
  · have hb := h.stop.resolve_left (h'.first b h.le hlt)
    have hb' := hle h'
    omega
  · exact heq
  · have hb' := h'.stop.resolve_left (h.first b' h'.le hgt)
    have hb := hle h
    omega

end Markup

namespace Site

section Piece

variable {f : Flavor} {s : List Char} (x : Site f s)

theorem exists_verbatim (hclosing : x.tag.closing = .bracket)
    (hname : f.isVerbatim (f.normalize (String.ofList x.tag.name)) = true) :
    ∃ content rest close,
      readVerbatim (f.normalize (String.ofList x.tag.name)).toList x.rest = (content, rest) ∧
      x.piece = .verbatim x.tag content close ∧ (close = none ↔ rest = []) := by
  have hcontent := x.content
  dsimp only [readContent] at hcontent
  rw [if_pos ⟨hclosing, hname⟩] at hcontent
  split at hcontent
  · rename_i content hread
    obtain ⟨hpiece, -⟩ := Prod.mk.inj hcontent
    exact ⟨content, [], none, hread, hpiece.symm, iff_of_true rfl rfl⟩
  · rename_i content c r hread
    obtain ⟨hpiece, -⟩ := Prod.mk.inj hcontent
    exact ⟨content, c :: r, _, hread, hpiece.symm, iff_of_false nofun nofun⟩

end Piece

variable {f : Flavor} {text : String} (x : Site f (Document.stripMark text.toList).1)
  {content : List Char} {close : Option EndTag}

theorem node_verbatim (hpiece : x.piece = .verbatim x.tag content close) :
    (Document.parse f text).nodes[x.id]? = some (x.growth.elementNode x.tag (close.map fun t =>
      ⟨(x.growth.inside x.tag).advance content,
        ((x.growth.inside x.tag).advance content).advance t.source⟩)) := by
  have hsize : x.id < (x.growth.grow x.piece).nodes.size := by
    rw [Growth.size_grow, hpiece, Growth.added, List.length_cons, id]
    omega
  rw [(x.closed_verbatim hpiece (Nat.le_refl _) hsize).1, ← Array.getElem?_toList,
    Growth.nodes_grow, hpiece, id]
  simp [Growth.closeAt, Growth.closes?, Growth.added]

end Site

namespace Document

structure HasContent (d : Document) (s : List Char) (i : Nat) (n : Node) (e : Element)
    (content : List Char) (close : Option EndTag) : Prop where
  ends : ContentEnds e.name s n.range.stop.offset (n.range.stop.offset + byteLength content)
  source : slice s n.range.stop.offset (n.range.stop.offset + byteLength content) = content
  closed : close.isSome = true ↔
    EndTagAt e.name s (n.range.stop.offset + byteLength content)
  endTag : e.endTag = close.map fun t =>
    ⟨n.range.stop.advance content, (n.range.stop.advance content).advance t.source⟩
  children : d.children i = if content.isEmpty then [] else [i + 1]
  child : content ≠ [] → d.nodes[i + 1]? =
    some ⟨.text, ⟨n.range.stop, n.range.stop.advance content⟩, String.ofList content, some i⟩

variable {text : String} {i : Nat} {n : Node} {e : Element}

theorem exists_content (hn : (parse .html text).nodes[i]? = some n) (he : n.element? = some e)
    (hclosing : e.closing = .bracket) (hname : Flavor.html.isVerbatim e.name = true) :
    ∃ content close,
      (parse .html text).HasContent (stripMark text.toList).1 i n e content close := by
  obtain ⟨x, rfl, hhead⟩ := exists_site_parse hn he
  obtain ⟨-, htag, hrange⟩ := x.attributes_of_head hhead rfl he
  have hcalled := x.name_of_head hhead he
  rw [htag] at hclosing
  rw [hcalled] at hname
  obtain ⟨content, rest, close, hread, hpiece, hclose⟩ := x.exists_verbatim hclosing hname
  have hlower : e.name.toList.map Char.toLower = e.name.toList :=
    hcalled ▸ Flavor.map_toLower_normalize (String.ofList x.tag.name)
  rw [← hcalled] at hread
  have hrest := source_readVerbatim e.name.toList x.rest
  rw [hread] at hrest
  have hinside : x.growth.inside x.tag = n.range.stop := by
    rw [hrange]
    rfl
  have hstop : n.range.stop.offset = byteLength (x.front ++ x.tag.source) := by
    rw [hrange, x.place_growth, ← Position.advance_append, Position.offset_advance_origin]
  have htext : (stripMark text.toList).1 = (x.front ++ x.tag.source) ++ x.rest := by
    rw [List.append_assoc]
    exact x.rewrite_tag.symm
  have hends := contentEnds_readVerbatim hlower (x.front ++ x.tag.source) x.rest
  have hclosed := endTagAt_readVerbatim hlower (x.front ++ x.tag.source) x.rest
  rw [← htext, ← hstop, hread] at hends hclosed
  obtain ⟨hchildren, hchild⟩ := x.children_verbatim hpiece
  refine ⟨content, close, hends, ?_, ?_, ?_, hchildren, fun hne => ?_⟩
  · rw [← hrest, ← List.append_assoc] at htext
    exact slice_eq htext hstop (by rw [hstop, ← byteLength_append])
  · rw [hclosed, Option.isSome_iff_ne_none]
    exact not_congr hclose
  · have hnode := hn.symm.trans (x.node_verbatim hpiece)
    rw [hinside] at hnode
    rw [Option.some.inj hnode] at he
    exact (congrArg Element.endTag (Option.some.inj he)).symm
  · rw [hchild hne, Growth.contentNode, hinside]
    rfl

theorem HasContent.start_outside {content : List Char} {close : Option EndTag} {j : Nat} {m : Node}
    (h : (parse .html text).HasContent (stripMark text.toList).1 i n e content close)
    (hn : (parse .html text).nodes[i]? = some n) (hm : (parse .html text).nodes[j]? = some m)
    (hj : j ∉ (parse .html text).children i) :
    m.range.start.isWithin n.range.stop.offset (n.range.stop.offset + byteLength content) =
      false := by
  rw [Position.not_isWithin_iff]
  have hlt := lt_of_node hm
  rcases Nat.lt_or_ge i j with hij | hji
  · right
    by_cases hcontent : content = []
    · have hle := stop_le_start hn hm hij
      rw [hcontent]
      exact hle
    · rw [h.children, if_neg (mt List.isEmpty_iff.1 hcontent), List.mem_singleton] at hj
      have hle := stop_le_start (h.child hcontent) hm (by omega)
      rwa [← Position.offset_advance]
  · left
    rcases Nat.lt_or_eq_of_le hji with hji | rfl
    · have hle := stop_le_start hm hn hji
      have hpos := lt_of_node hn
      omega
    · obtain rfl := Option.some.inj (hn.symm.trans hm)
      exact hlt

/-- Verbatim content is one text, which nothing but the first end tag of its element ends. -/
theorem verbatim_content (hn : (parse .html text).nodes[i]? = some n)
    (he : n.element? = some e) (hclosing : e.closing = .bracket)
    (hname : Flavor.html.isVerbatim e.name = true) :
    let d := parse .html text
    let s := (stripMark text.toList).1
    let a := n.range.stop.offset
    ∃ b, ContentEnds e.name s a b ∧
      (if a = b then d.children i = []
        else ∃ c m, d.children i = [c] ∧ d.nodes[c]? = some m ∧ m.kind = .text ∧
          m.range.start = n.range.stop ∧ m.range.stop.offset = b ∧
          m.source.toList = slice s a b) ∧
      (e.endTag.isSome = true ↔ ∃ k, a ≤ k ∧ EndTagAt e.name s k) ∧
      (∀ r, e.endTag = some r → r.start.offset = b) ∧
      ∀ j m, d.nodes[j]? = some m → j ∉ d.children i → m.range.start.isWithin a b = false := by
  intro d s a
  obtain ⟨content, close, h⟩ := exists_content hn he hclosing hname
  have hempty : a = a + byteLength content ↔ content = [] := by
    rw [← byteLength_eq_zero]
    omega
  refine ⟨_, h.ends, ?_, ?_, ?_, ?_⟩
  · split
    · rename_i hsame
      rw [h.children, hempty.1 hsame]
      rfl
    · rename_i hne
      have hcontent := mt hempty.2 hne
      have hchildren := h.children
      rw [if_neg (mt List.isEmpty_iff.1 hcontent)] at hchildren
      refine ⟨_, _, hchildren, h.child hcontent, rfl, rfl, Position.offset_advance _ _, ?_⟩
      rw [h.source, String.toList_ofList]
  · rw [h.ends.exists_endTagAt, ← h.closed, h.endTag, Option.isSome_map]
  · intro r hr
    rw [h.endTag] at hr
    obtain ⟨t, -, rfl⟩ := Option.map_eq_some_iff.1 hr
    exact Position.offset_advance _ _
  · exact fun j m hm hj => h.start_outside hn hm hj

theorem verbatim_content_nearMiss :
    (parse .html "<script>a</scriptx</SCRIPT >b").children 0 = [1] ∧
      ContentEnds "script" "<script>a</scriptx</SCRIPT >b".toList 8 18 := by
  let e : Element := ⟨"script", [], .bracket, some ⟨⟨18, 1, 19⟩, ⟨28, 1, 29⟩⟩⟩
  let n : Node := ⟨.element e, ⟨⟨0, 1, 1⟩, ⟨8, 1, 9⟩⟩, "<script>", none⟩
  have hn : (parse .html "<script>a</scriptx</SCRIPT >b").nodes[0]? = some n := by decide +kernel
  have hchildren : (parse .html "<script>a</scriptx</SCRIPT >b").children 0 = [1] := by
    decide +kernel
  have hs : (stripMark "<script>a</scriptx</SCRIPT >b".toList).1 =
      "<script>a</scriptx</SCRIPT >b".toList := by decide +kernel
  obtain ⟨b, hends, -, -, hend, -⟩ := verbatim_content (e := e) hn rfl rfl (by decide)
  obtain rfl : 18 = b := hend _ rfl
  exact ⟨hchildren, hs ▸ hends⟩

section Texts

variable {f : Flavor} {m : Node}

theorem childless_of_leaf (hm : (parse f text).nodes[i]? = some m) (hleaf : m.element? = none) :
    (parse f text).children i = [] := by
  rw [List.eq_nil_iff_forall_not_mem]
  intro c hc
  obtain ⟨m', e, hm', he, -⟩ := bracket_of_child hc
  obtain rfl := Option.some.inj (hm.symm.trans hm')
  rw [hleaf] at he
  cases he

theorem cdataContent_ne {raw : List Char} (h : isCdata raw = true) : cdataContent raw ≠ raw := by
  intro heq
  have hopen := (List.isPrefixOf_iff_prefix.1 h).length_le
  have hlength := congrArg List.length heq
  have hpos : cdataOpen.length = 9 := rfl
  unfold cdataContent at hlength
  dsimp only at hlength
  split at hlength <;> simp only [List.length_dropLast, List.length_drop] at hlength <;> omega

end Texts

def scriptText (content : List Char) : List Char :=
  if isCdata content then cdataContent content else content

theorem scriptText_eq_iff {content : List Char} :
    scriptText content = content ↔ ¬cdataOpen <+: content := by
  rw [scriptText, ← List.isPrefixOf_iff_prefix]
  by_cases h : isCdata content = true
  · rw [if_pos h]
    exact iff_of_false (cdataContent_ne h) (not_not_intro h)
  · rw [if_neg h]
    exact iff_of_true rfl h

section Script

variable {content : List Char} {close : Option EndTag}

theorem textContent_of_hasContent
    (h : (parse .html text).HasContent (stripMark text.toList).1 i n e content close)
    (hn : (parse .html text).nodes[i]? = some n) (he : n.element? = some e)
    (hname : e.name = "script" ∨ e.name = "style") :
    (parse .html text).textContent i = String.ofList (scriptText content) := by
  have helement : (parse .html text).element? i = some e := by
    rw [element?, hn]
    exact he
  have hkind : n.kind = .element e := by
    obtain ⟨kind, range, source, parent⟩ := n
    cases kind with
    | element e' => exact congrArg NodeKind.element (Option.some.inj he)
    | _ => cases he
  by_cases hcontent : content = []
  · have hbelow : (parse .html text).descendants i = [] := by
      rw [descendants_eq, h.children, hcontent]
      rfl
    simp [textContent, Node.isText, hn, hkind, hbelow, hcontent, scriptText, isCdata, cdataOpen]
  · have hchild := h.child hcontent
    have hbelow : (parse .html text).descendants i = [i + 1] := by
      rw [descendants_eq, h.children, if_neg (mt List.isEmpty_iff.1 hcontent),
        List.flatMap_singleton, descendants_eq, childless_of_leaf hchild rfl]
      rfl
    have hvalue : ∀ r, (parse .html text).textValue ⟨.text, r, String.ofList content, some i⟩ =
        String.ofList (scriptText content) := by
      intro r
      have hverbatim : (parse .html text).isVerbatimText
          ⟨.text, r, String.ofList content, some i⟩ = true := by
        rcases hname with hname | hname <;> simp [isVerbatimText, helement, hname] <;> rfl
      rw [textValue, hverbatim, String.toList_ofList, scriptText]
      split <;> rfl
    simp [textContent, Node.isText, hn, hkind, hbelow, hchild, hvalue, String.join]

end Script

/-- The text of a script or a style sheet is its content as it is written if and only if that does
not begin like a CDATA section, of which only the inside is left. -/
theorem textContent_eq_content_iff (hn : (parse .html text).nodes[i]? = some n)
    (he : n.element? = some e) (hclosing : e.closing = .bracket)
    (hname : e.name = "script" ∨ e.name = "style") :
    let d := parse .html text
    let s := (stripMark text.toList).1
    let a := n.range.stop.offset
    ∃ b, ContentEnds e.name s a b ∧
      d.textContent i = String.ofList (scriptText (slice s a b)) ∧
      (d.textContent i = String.ofList (slice s a b) ↔ ¬cdataOpen <+: slice s a b) := by
  intro d s a
  have hverbatim : Flavor.html.isVerbatim e.name = true := by
    rcases hname with hname | hname <;> rw [hname] <;> rfl
  obtain ⟨content, close, h⟩ := exists_content hn he hclosing hverbatim
  have htext := textContent_of_hasContent h hn he hname
  refine ⟨_, h.ends, ?_, ?_⟩
  · rw [h.source]
    exact htext
  · rw [h.source, htext, String.ofList_inj]
    exact scriptText_eq_iff

theorem textContent_eq_content_iff_cdata :
    let text := "<script><![CDATA[x]]></script>"
    ContentEnds "script" text.toList 8 21 ∧
      (parse .html text).textContent 0 = "x" ∧
      (parse .html text).textContent 0 ≠ String.ofList (slice text.toList 8 21) := by
  intro text
  let e : Element := ⟨"script", [], .bracket, some ⟨⟨21, 1, 22⟩, ⟨30, 1, 31⟩⟩⟩
  let n : Node := ⟨.element e, ⟨⟨0, 1, 1⟩, ⟨8, 1, 9⟩⟩, "<script>", none⟩
  have hn : (parse .html text).nodes[0]? = some n := by decide +kernel
  have hs : (stripMark text.toList).1 = text.toList := by decide +kernel
  -- the end tag tells where the content ends
  obtain ⟨content, close, h⟩ := exists_content (e := e) hn rfl rfl rfl
  obtain ⟨t, -, htag⟩ := Option.map_eq_some_iff.1 h.endTag.symm
  have hstop : n.range.stop.offset + byteLength content = 21 := by
    rw [← Position.offset_advance]
    exact congrArg (fun r : Range => r.start.offset) htag
  have hfirst := h.ends
  rw [hstop] at hfirst
  obtain ⟨b, hends, htext, hiff⟩ := textContent_eq_content_iff (e := e) hn rfl rfl (Or.inl rfl)
  obtain rfl := hends.unique hfirst
  rw [hs] at hfirst htext hiff
  have hcdata : cdataOpen <+: slice text.toList 8 21 := by decide +kernel
  refine ⟨hfirst, ?_, fun heq => hiff.1 heq hcdata⟩
  rw [htext]
  decide +kernel

end Document
end MarkupSplice
