import MarkupSplice.Proofs.Markup.Outline

/-!
# What is noted

Issues are only ever added, by each piece those that are its own
(`issues_grow_eq`). So where a whole document has none, none of its pieces
notes anything (`notes_eq_nil`).
-/
namespace MarkupSplice
open Markup

namespace Growth

variable (g : Growth)

def notesUnless (ok : Bool) (p : Position) (fault : Fault) : List Issue :=
  if ok then [] else [⟨p, fault⟩]

def tagNotes (t : StartTag) : List Issue :=
  attributeIssues g.flavor (g.place.advance ('<' :: t.name)) [] t.attributes ++
    notesUnless (t.closing != .cutOff) g.place (.unterminatedStartTag (g.nameOf t.name))

def impliedBy (t : EndTag) : List OpenElement :=
  (g.opened.takeWhile fun o => o.name != g.nameOf t.name).reverse

def closingNotes (t : EndTag) : List Issue :=
  if (g.reopened t).isEmpty then [⟨g.place, .unexpectedEndTag (g.nameOf t.name)⟩]
  else if g.flavor = .xml then
    (g.impliedBy t).map fun o => ⟨g.place, .closedImplicitly o.name (g.nameOf t.name)⟩
  else []

def notes : Piece → List Issue
  | .text _ => []
  | .comment _ closed => notesUnless closed g.place .unterminatedComment
  | .cdata _ closed => notesUnless closed g.place .unterminatedCdata
  | .declaration _ closed => notesUnless closed g.place .unterminatedDeclaration
  | .instruction _ closed => notesUnless closed g.place .unterminatedDeclaration
  | .startTag t => g.tagNotes t
  | .verbatim t content close =>
    g.tagNotes t ++
      match close with
      | none => [⟨g.inside t, .verbatimNotClosed (g.nameOf t.name)⟩]
      | some e => notesUnless e.closed ((g.inside t).advance content)
          (.unterminatedEndTag (g.nameOf e.name))
  | .endTag t =>
    notesUnless t.closed g.place (.unterminatedEndTag (g.nameOf t.name)) ++ g.closingNotes t

variable {g}

theorem issues_noteUnless (ok : Bool) (fault : Fault) :
    (noteUnless ok g fault).issues = g.issues ++ notesUnless ok g.place fault := by
  cases ok with
  | true => exact (List.append_nil _).symm
  | false => rfl

theorem issues_addStartTag (t : StartTag) :
    (g.addStartTag t).issues = g.issues ++ g.tagNotes t := by
  rw [tagNotes, ← List.append_assoc]
  exact issues_noteUnless _ _

theorem issues_passEndTag (t : EndTag) :
    (g.passEndTag t).1.issues =
      g.issues ++ notesUnless t.closed g.place (.unterminatedEndTag (g.nameOf t.name)) :=
  issues_noteUnless _ _

theorem issues_addVerbatim (t : StartTag) (content : List Char) (close : Option EndTag) :
    (g.addVerbatim t content close).issues =
      g.issues ++ g.notes (.verbatim t content close) := by
  have htag := issues_addStartTag (g := g) t
  -- the content moves the place and adds a node, and notes nothing
  have hcontent : ∀ h : Growth, h = (if content.isEmpty then g.addStartTag t
      else (g.addStartTag t).add .text content (some g.nodes.size)) →
      h.issues = g.issues ++ g.tagNotes t ∧ h.place = (g.inside t).advance content ∧
        h.flavor = g.flavor := by
    rintro h rfl
    split
    · rename_i hempty
      rw [List.isEmpty_iff.1 hempty]
      exact ⟨htag, place_addStartTag t, flavor_addStartTag t⟩
    · exact ⟨htag, congrArg (Position.advance · content) (place_addStartTag t),
        flavor_addStartTag t⟩
  obtain ⟨hissues, hplace, hflavor⟩ := hcontent _ rfl
  cases close with
  | none =>
    simp only [addVerbatim, note, notes, place_addStartTag, hissues, List.append_assoc]
    rfl
  | some e =>
    simp only [addVerbatim, closeNode, notes, issues_passEndTag, hissues, hplace,
      List.append_assoc]
    rw [nameOf, hflavor]
    rfl

theorem issues_addEndTag (t : EndTag) :
    (g.addEndTag t).issues = g.issues ++ g.notes (.endTag t) := by
  have hpass := issues_passEndTag (g := g) t
  have hreopened : ((g.passEndTag t).1.opened.dropWhile fun o =>
      o.name != g.flavor.normalize (String.ofList t.name)) = g.reopened t := by
    rw [opened_passEndTag]
    rfl
  simp only [addEndTag, notes, closingNotes, hreopened]
  cases g.reopened t with
  | nil =>
    rw [note, hpass, range_passEndTag, List.append_assoc]
    rfl
  | cons o rest =>
    simp only [closeNode, hpass, range_passEndTag, opened_passEndTag, flavor_passEndTag,
      List.append_assoc]
    rfl

theorem issues_grow_eq (p : Piece) : (g.grow p).issues = g.issues ++ g.notes p := by
  cases p with
  | text s => exact (List.append_nil _).symm
  | comment s closed => exact issues_noteUnless closed _
  | cdata s closed => exact issues_noteUnless closed _
  | declaration s closed => exact issues_noteUnless closed _
  | instruction s closed => exact issues_noteUnless closed _
  | startTag t => exact issues_addStartTag t
  | verbatim t content close => exact issues_addVerbatim t content close
  | endTag t => exact issues_addEndTag t

theorem prefix_issues (g : Growth) (ps : List Piece) : g.issues <+: (ps.foldl grow g).issues := by
  induction ps generalizing g with
  | nil => exact List.prefix_refl _
  | cons p ps ih =>
    refine List.IsPrefix.trans ?_ (ih (g.grow p))
    rw [issues_grow_eq]
    exact List.prefix_append _ _

theorem notes_eq_nil {p : Piece} {ps : List Piece}
    (h : ((p :: ps).foldl grow g).issues = []) : g.notes p = [] := by
  have hprefix := prefix_issues (g.grow p) ps
  rw [List.foldl_cons] at h
  rw [h, List.prefix_nil, issues_grow_eq, List.append_eq_nil_iff] at hprefix
  exact hprefix.2

theorem notesUnless_eq_nil {ok : Bool} {p : Position} {fault : Fault} :
    notesUnless ok p fault = [] ↔ ok = true := by
  cases ok <;> simp [notesUnless]

end Growth
end MarkupSplice
