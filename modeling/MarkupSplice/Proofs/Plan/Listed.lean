import MarkupSplice.Proofs.Plan.Element

/-!
# What setting several attributes asks for

Every listed name is to find the value, and the attributes that no listed name
is a name of are to stay as they are (`Element.SetTo`). So it is when the first
attribute of each listed name gets the value, unless it has it, and the names
that find nothing come behind all attributes (`setTo_of_entries`).
-/
namespace MarkupSplice
open Markup Text

def valueIn (f : Flavor) (entries : List (String × Option String)) (name : String) :
    Option String :=
  (entries.find? fun entry => f.namesMatch entry.1 name).map fun entry => entry.2.getD ""

namespace Element

def valueOf (f : Flavor) (e : Element) (name : String) : Option String :=
  (e.findAttribute f name).map fun found => found.2.value.getD ""

def unlisted (f : Flavor) (names : List String) (e : Element) : List (String × Option String) :=
  (e.attributes.map Attribute.entry).filter fun entry => !names.any (f.namesMatch entry.1)

/-- Whether `e'` has the value at every listed name, and else what `e` has. -/
structure SetTo (f : Flavor) (o : PlanOptions) (names : List String) (value : String)
    (e e' : Element) : Prop where
  listed : ∀ b ∈ names, e'.valueOf f b =
    some (if e.valueOf f b = some value then value else legal o.escaping value)
  others : e'.unlisted f names = e.unlisted f names

/-- Whether the attribute at an index is found by a listed name and has another value. -/
def differs (f : Flavor) (names : List String) (value : String) (e : Element) (i : Nat) : Bool :=
  names.any fun b => (e.findAttribute f b).any fun found =>
    found.1 == i && found.2.value.getD "" != value

def missing (f : Flavor) (names : List String) (e : Element) : List String :=
  names.filter fun b => (e.findAttribute f b).isNone

def entriesMarked (mark : Nat → Bool) (value : String) (e : Element) :
    List (String × Option String) :=
  e.attributes.zipIdx.map fun p => (p.1.name, if mark p.2 then some value else p.1.value)

variable {f : Flavor} {o : PlanOptions} {e e' : Element} {names : List String}
  {name value : String} {i : Nat} {a : Attribute}

theorem map_entry_eq (e : Element) :
    e.attributes.map Attribute.entry = e.attributes.zipIdx.map fun p => p.1.entry := by
  conv_lhs => rw [← List.zipIdx_map_fst 0 e.attributes]
  rw [List.map_map]
  rfl

theorem valueOf_eq (f : Flavor) (e : Element) (name : String) :
    e.valueOf f name = valueIn f (e.attributes.map Attribute.entry) name := by
  rw [valueOf, findAttribute, valueIn, map_entry_eq, List.find?_map]
  simp [Attribute.entry, Function.comp_def]

theorem differs_iff : e.differs f names value i = true ↔
    ∃ b ∈ names, ∃ a, e.findAttribute f b = some (i, a) ∧ a.value.getD "" ≠ value := by
  simp only [differs, List.any_eq_true, Option.any_eq_true, Bool.and_eq_true, beq_iff_eq,
    bne_iff_ne]
  constructor
  · rintro ⟨b, hb, ⟨j, a⟩, hfind, rfl, hvalue⟩
    exact ⟨b, hb, a, hfind, hvalue⟩
  · rintro ⟨b, hb, a, hfind, hvalue⟩
    exact ⟨b, hb, (i, a), hfind, rfl, hvalue⟩

theorem differs_of_findAttribute (value : String) (hb : name ∈ names)
    (h : e.findAttribute f name = some (i, a)) :
    e.differs f names value i = true ↔ a.value.getD "" ≠ value := by
  rw [differs_iff]
  constructor
  · rintro ⟨b, -, a', hfind, hvalue⟩
    have ha := (getElem_of_findAttribute h).1
    have ha' := (getElem_of_findAttribute hfind).1
    obtain rfl := Option.some.inj (ha.symm.trans ha')
    exact hvalue
  · intro hvalue
    exact ⟨name, hb, a, h, hvalue⟩

theorem map_fst_entriesMarked (mark : Nat → Bool) :
    (e.entriesMarked mark value).map Prod.fst = e.attributes.map Attribute.name := by
  conv_rhs => rw [← List.zipIdx_map_fst 0 e.attributes]
  rw [entriesMarked, List.map_map, List.map_map]
  rfl

theorem find_entriesMarked (mark : Nat → Bool) :
    (e.entriesMarked mark value).find? (fun entry => f.namesMatch entry.1 name) =
      (e.findAttribute f name).map fun found =>
        (found.2.name, if mark found.1 then some value else found.2.value) := by
  rw [entriesMarked, findAttribute, List.find?_map, Option.map_map]
  rfl

theorem valueIn_marked (h : e.findAttribute f name = some (i, a)) (mark : Nat → Bool)
    (more : List (String × Option String)) :
    valueIn f (e.entriesMarked mark value ++ more) name =
      some (if mark i then value else a.value.getD "") := by
  rw [valueIn, List.find?_append, find_entriesMarked, h]
  by_cases hmark : mark i = true
  · simp [hmark]
  · simp [hmark]

theorem valueIn_behind (h : e.findAttribute f name = none) (mark : Nat → Bool)
    (more : List (String × Option String)) :
    valueIn f (e.entriesMarked mark value ++ more) name = valueIn f more name := by
  rw [valueIn, List.find?_append, find_entriesMarked, h]
  rfl

theorem filter_map_congr {α β : Type} {p : β → Bool} {g h : α → β} {xs : List α}
    (hgh : ∀ x ∈ xs, g x = h x ∨ p (g x) = false ∧ p (h x) = false) :
    (xs.map g).filter p = (xs.map h).filter p := by
  induction xs with
  | nil => rfl
  | cons x xs ih =>
    have hrest := ih fun y hy => hgh y (List.mem_cons_of_mem _ hy)
    rw [List.map_cons, List.map_cons, List.filter_cons, List.filter_cons, hrest]
    rcases hgh x List.mem_cons_self with heq | ⟨hg, hh⟩
    · rw [heq]
    · simp [hg, hh]

theorem filter_entriesMarked :
    (e.entriesMarked (e.differs f names value) (legal o.escaping value)).filter
      (fun entry => !names.any (f.namesMatch entry.1)) = e.unlisted f names := by
  rw [unlisted, map_entry_eq, entriesMarked]
  apply filter_map_congr
  intro p hp
  by_cases hmark : e.differs f names value p.2 = true
  · right
    obtain ⟨b, hb, a, hfind, -⟩ := differs_iff.1 hmark
    obtain ⟨ha, hmatch, -⟩ := getElem_of_findAttribute hfind
    have hp' := List.mem_zipIdx_iff_getElem?.1 hp
    obtain rfl := Option.some.inj (ha.symm.trans hp')
    have hlisted : names.any (f.namesMatch p.1.name) = true :=
      List.any_eq_true.2 ⟨b, hb, hmatch⟩
    simp [Attribute.entry, hlisted]
  · left
    rw [if_neg hmark]
    rfl

theorem setTo_of_entries (h : e'.attributes.map Attribute.entry =
      e.entriesMarked (e.differs f names value) (legal o.escaping value) ++
        (e.missing f names).map fun b => (f.normalize b, some (legal o.escaping value))) :
    SetTo f o names value e e' := by
  constructor
  · intro b hb
    rw [valueOf_eq, h]
    cases hfind : e.findAttribute f b with
    | some found =>
      obtain ⟨i, a⟩ := found
      have hdiffers := differs_of_findAttribute value hb hfind
      rw [valueIn_marked hfind, valueOf, hfind]
      by_cases hvalue : a.value.getD "" = value
      · have hmark : ¬e.differs f names value i = true := by
          rw [hdiffers]
          exact fun hne => hne hvalue
        simp [hmark, hvalue]
      · have hmark := hdiffers.2 hvalue
        simp [hmark, hvalue]
    | none =>
      have hmem : b ∈ e.missing f names := List.mem_filter.2 ⟨hb, by simp [hfind]⟩
      have hmatch : f.namesMatch (f.normalize b) b = true := by
        rw [Flavor.namesMatch_iff, Flavor.normalize_normalize]
      rw [valueIn_behind hfind, valueOf, hfind, valueIn]
      cases hsome : ((e.missing f names).map fun b =>
          (f.normalize b, some (legal o.escaping value))).find?
            fun entry => f.namesMatch entry.1 b with
      | none =>
        have hnone := List.find?_eq_none.1 hsome _ (List.mem_map_of_mem hmem)
        exact absurd hmatch hnone
      | some entry =>
        obtain ⟨b', -, rfl⟩ := List.mem_map.1 (List.mem_of_find?_eq_some hsome)
        rfl
  · rw [unlisted, h, List.filter_append, filter_entriesMarked]
    have hnone : ((e.missing f names).map fun b =>
        (f.normalize b, some (legal o.escaping value))).filter
          (fun entry => !names.any (f.namesMatch entry.1)) = [] := by
      apply List.filter_eq_nil_iff.2
      intro entry hentry
      obtain ⟨b, hb, rfl⟩ := List.mem_map.1 hentry
      have hlisted : names.any (f.namesMatch (f.normalize b)) = true := by
        refine List.any_eq_true.2 ⟨b, (List.mem_filter.1 hb).1, ?_⟩
        rw [Flavor.namesMatch_iff, Flavor.normalize_normalize]
      simp [hlisted]
    rw [hnone, List.append_nil]

end Element
end MarkupSplice
