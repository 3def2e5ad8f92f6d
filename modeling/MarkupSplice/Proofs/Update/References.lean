import MarkupSplice.Proofs.Plan.Region
import MarkupSplice.Proofs.Plan.Repeated
import MarkupSplice.Proofs.XPath.Order

/-!
# One reference for each element

A rule visits each selected element for each script, and claims an element for
the reference that it is visited with first. Visits with that reference again
do nothing, and one with another reference is an error (`claimAll`). All
elements are claimed for the reference of the first script, so that only the
first other reference matters, and it is met at the first element
(`planElements_eq_claimAll`).
-/
namespace MarkupSplice
open Markup Text

theorem Document.elements_sorted (d : Document) : d.elements.Pairwise (· < ·) :=
  List.pairwise_lt_range.filter _

theorem Document.isElement_of_mem_elements {d : Document} {id : Nat} (h : id ∈ d.elements) :
    d.isElement id = true :=
  (List.mem_filter.1 h).2

theorem Selector.select_sorted {f : Flavor} {text : String} {s : Selector} {ids : List Nat}
    (h : s.select (Document.parse f text) = .ok ids) :
    ids.Pairwise (· < ·) ∧ ∀ id ∈ ids, (Document.parse f text).isElement id = true := by
  have hsub : ∀ {ids : List Nat}, ids.Sublist (Document.parse f text).elements →
      ids.Pairwise (· < ·) ∧ ∀ id ∈ ids, (Document.parse f text).isElement id = true :=
    fun hids => ⟨(Document.elements_sorted _).sublist hids,
      fun id hid => Document.isElement_of_mem_elements (hids.subset hid)⟩
  cases s with
  | firstScript =>
    obtain rfl := Except.ok.inj h
    exact hsub ((List.take_sublist _ _).trans List.filter_sublist)
  | id value =>
    obtain rfl := Except.ok.inj h
    cases hfind : (Document.parse f text).elementById value with
    | none => exact hsub (List.nil_sublist _)
    | some id => exact hsub (List.singleton_sublist.2 (List.mem_of_find?_eq_some hfind))
  | css query =>
    obtain rfl := Except.ok.inj h
    exact hsub List.filter_sublist
  | xpath written query =>
    cases hselect : query.select (Document.parse f text) with
    | error err =>
      rw [select, hselect] at h
      cases h
    | ok found =>
      rw [select, hselect] at h
      obtain rfl := Except.ok.inj h
      exact XPath.Expr.select_sorted hselect

namespace Planned

def before (p q : Planned) : Planned :=
  match p.edits with
  | .error _ => p
  | .ok es => ⟨p.diagnostics ++ q.diagnostics, q.edits.map (es ++ ·)⟩

theorem before_cons (note : Diagnostic) (es : List Edit) (p q : Planned) :
    before ⟨note :: p.diagnostics, p.edits.map (es ++ ·)⟩ q =
      ⟨note :: (p.before q).diagnostics, (p.before q).edits.map (es ++ ·)⟩ := by
  obtain ⟨said, edits⟩ := p
  obtain ⟨said', edits'⟩ := q
  cases edits with
  | error err => rfl
  | ok es' =>
    cases edits' with
    | error err => rfl
    | ok es'' => simp [before, Except.map]

end Planned

namespace Task

variable {t : Task} {d : Document} {path : Path} {id : Nat} {ids : List Nat}
  {claimed : List (Nat × String)} {value other first : String} {visits : List (String × Nat)}

/-- The edits for visits of elements, each with a reference for it, when some elements have been
claimed for a reference. -/
def claimAll (t : Task) (d : Document) (path : Path) (claimed : List (Nat × String)) :
    List (String × Nat) → Planned
  | [] => ⟨[], .ok []⟩
  | (value, id) :: visits =>
    match d.element? id with
    | none => t.claimAll d path claimed visits
    | some e =>
      match claimed.lookup id with
      | some first =>
        if first = value then t.claimAll d path claimed visits
        else ⟨[], .error (.ambiguous path e.name first value, startOf d id)⟩
      | none =>
        let note : Diagnostic := .located .debug path (startOf d id)
          ("updating <" ++ e.name ++ "> to " ++ value)
        match Plan.element (t.options d) d id t.attributes value with
        | .error err => ⟨[note], .error (.edits path err, startOf d id)⟩
        | .ok es =>
          let rest := t.claimAll d path ((id, value) :: claimed) visits
          ⟨note :: rest.diagnostics, rest.edits.map (es ++ ·)⟩

def visitsOf (references : List String) (ids : List Nat) : List (String × Nat) :=
  references.flatMap fun value => ids.map (value, ·)

theorem nameOf_eq {e : Element} (he : d.element? id = some e) : nameOf d id = e.name := by
  rw [nameOf, he]
  rfl

theorem claimAll_unclaimed (hnodup : ids.Nodup) (helements : ∀ id ∈ ids, d.isElement id = true)
    (hclaimed : ∀ id ∈ ids, claimed.lookup id = none) :
    ∃ claimed', (∀ id ∈ ids, claimed'.lookup id = some value) ∧
      (∀ id, id ∉ ids → claimed'.lookup id = claimed.lookup id) ∧
      t.claimAll d path claimed (ids.map (value, ·) ++ visits) =
        (t.pointAll d path value ids).before (t.claimAll d path claimed' visits) := by
  induction ids generalizing claimed with
  | nil =>
    refine ⟨claimed, by simp, fun _ _ => rfl, ?_⟩
    simp only [List.map_nil, List.nil_append, pointAll, Planned.before]
    generalize t.claimAll d path claimed visits = planned
    obtain ⟨said, edits⟩ := planned
    cases edits <;> rfl
  | cons id ids ih =>
    obtain ⟨hnotin, hnodup⟩ := List.nodup_cons.1 hnodup
    obtain ⟨e, he⟩ := Option.isSome_iff_exists.1 (helements id List.mem_cons_self)
    obtain ⟨claimed', hall, hothers, heq⟩ := @ih ((id, value) :: claimed) hnodup
      (fun id' hid' => helements id' (List.mem_cons_of_mem _ hid')) (fun id' hid' => by
        have hne : ¬id' = id := fun heq => hnotin (heq ▸ hid')
        rw [List.lookup_cons, beq_false_of_ne hne]
        exact hclaimed id' (List.mem_cons_of_mem _ hid'))
    refine ⟨claimed', ?_, ?_, ?_⟩
    · rintro id' (_ | ⟨_, hid'⟩)
      · rw [hothers id hnotin, List.lookup_cons_self]
      · exact hall id' hid'
    · intro id' hid'
      rw [List.mem_cons, not_or] at hid'
      rw [hothers id' hid'.2, List.lookup_cons, beq_false_of_ne hid'.1]
    · simp only [List.map_cons, List.cons_append, claimAll, he, hclaimed id List.mem_cons_self,
        pointAll, nameOf_eq he]
      cases Plan.element (t.options d) d id t.attributes value with
      | error err => rfl
      | ok es =>
        simp only [heq]
        exact (Planned.before_cons _ es _ _).symm

theorem claimAll_claimed (helements : ∀ id ∈ ids, d.isElement id = true)
    (hclaimed : ∀ id ∈ ids, claimed.lookup id = some first) :
    t.claimAll d path claimed (ids.map (first, ·) ++ visits) =
      t.claimAll d path claimed visits := by
  induction ids with
  | nil => rfl
  | cons id ids ih =>
    obtain ⟨e, he⟩ := Option.isSome_iff_exists.1 (helements id List.mem_cons_self)
    simp only [List.map_cons, List.cons_append, claimAll, he, hclaimed id List.mem_cons_self,
      if_true]
    exact ih (fun id' hid' => helements id' (List.mem_cons_of_mem _ hid'))
      fun id' hid' => hclaimed id' (List.mem_cons_of_mem _ hid')

theorem claimAll_visitsOf (helements : ∀ i ∈ id :: ids, d.isElement i = true)
    (hclaimed : ∀ i ∈ id :: ids, claimed.lookup i = some first) (others : List String) :
    t.claimAll d path claimed (visitsOf others (id :: ids)) =
      match others.find? (· ≠ first) with
      | none => ⟨[], .ok []⟩
      | some other =>
        ⟨[], .error (.ambiguous path (nameOf d id) first other, startOf d id)⟩ := by
  induction others with
  | nil => rfl
  | cons value others ih =>
    rw [visitsOf, List.flatMap_cons]
    by_cases hsame : value = first
    · subst hsame
      rw [claimAll_claimed helements hclaimed, ← visitsOf, ih, List.find?_cons_of_neg (by simp)]
    · obtain ⟨e, he⟩ := Option.isSome_iff_exists.1 (helements id List.mem_cons_self)
      have hne : ¬first = value := fun heq => hsame heq.symm
      simp only [List.map_cons, List.cons_append, claimAll, he, hclaimed id List.mem_cons_self,
        if_neg hne]
      rw [List.find?_cons_of_pos (by simpa using hsame), nameOf_eq he]

/-- All elements are claimed for the first reference before another one is met. -/
theorem planElements_eq_claimAll {scripts : List Path} (hnodup : (id :: ids).Nodup)
    (helements : ∀ i ∈ id :: ids, d.isElement i = true) :
    t.planElements d path scripts (id :: ids) =
      t.claimAll d path [] (visitsOf (t.references path scripts) (id :: ids)) := by
  rw [planElements]
  cases t.references path scripts with
  | nil => rfl
  | cons first others =>
    obtain ⟨claimed, hclaimed, -, heq⟩ := @claimAll_unclaimed t d path _ [] first
      (visitsOf others (id :: ids)) hnodup helements fun _ _ => rfl
    have hvisits : visitsOf (first :: others) (id :: ids) =
        (id :: ids).map (first, ·) ++ visitsOf others (id :: ids) := List.flatMap_cons
    rw [hvisits, heq, claimAll_visitsOf helements hclaimed]
    dsimp only
    generalize t.pointAll d path first (id :: ids) = planned
    obtain ⟨said, edits⟩ := planned
    cases edits with
    | error err => rfl
    | ok es =>
      cases others.find? (· ≠ first) with
      | none => simp [Planned.before, Except.map]
      | some other => simp [Planned.before, Except.map]

section Selected

variable {script : Path} {scripts : List Path}

theorem plan_of_select (h : t.selector >>= Selector.select d = .ok (id :: ids)) :
    t.plan d path scripts = t.planElements d path scripts (id :: ids) := by
  rw [plan, h]
  rfl

theorem edits_of_mapM {plans : List (List Edit)}
    (h : ids.mapM (fun id => Plan.element (t.options d) d id t.attributes value) = .ok plans) :
    (t.pointAll d path value ids).edits = .ok plans.flatten := by
  have hedits := @edits_pointAll t d path value ids
  rw [h] at hedits
  cases hpoint : (t.pointAll d path value ids).edits with
  | error err =>
    rw [hpoint] at hedits
    cases hedits
  | ok es =>
    rw [hpoint] at hedits
    exact congrArg Except.ok (Option.some.inj hedits)

theorem edits_planElements {plans : List (List Edit)}
    (h : (id :: ids).mapM (fun id => Plan.element (t.options d) d id t.attributes
      (t.layout.reference path script)) = .ok plans) :
    (t.planElements d path (script :: scripts) (id :: ids)).edits =
      match (t.references path scripts).find? (· ≠ t.layout.reference path script) with
      | none => .ok plans.flatten
      | some other =>
        .error (.ambiguous path (nameOf d id) (t.layout.reference path script) other,
          startOf d id) := by
  have hedits := @edits_of_mapM t d path _ _ _ h
  rw [planElements, references, List.map_cons, ← references]
  dsimp only
  rw [hedits]
  cases (t.references path scripts).find? (· ≠ t.layout.reference path script) with
  | none => exact hedits
  | some other => rfl

theorem agree_or_differ (t : Task) (path : Path) (value : String) (scripts : List Path) :
    (∀ s ∈ scripts, t.layout.reference path s = value) ∨
      ∃ front s back, scripts = front ++ s :: back ∧
        (∀ a ∈ front, t.layout.reference path a = value) ∧ t.layout.reference path s ≠ value := by
  cases hfind : scripts.find? (fun s => t.layout.reference path s ≠ value) with
  | none =>
    left
    intro s hs
    simpa using List.find?_eq_none.1 hfind s hs
  | some s =>
    obtain ⟨hs, front, back, rfl, hfront⟩ := List.find?_eq_some_iff_append.1 hfind
    exact Or.inr ⟨front, s, back, rfl, fun a ha => by simpa using hfront a ha, by simpa using hs⟩

theorem find_references_of_agree (h : ∀ s ∈ scripts, t.layout.reference path s = value) :
    (t.references path scripts).find? (· ≠ value) = none := by
  rw [List.find?_eq_none, references]
  intro other hother
  obtain ⟨s, hs, rfl⟩ := List.mem_map.1 hother
  simpa using h s hs

theorem find_references_of_differ {front back : List Path}
    (hfront : ∀ a ∈ front, t.layout.reference path a = value)
    (h : t.layout.reference path script ≠ value) :
    (t.references path (front ++ script :: back)).find? (· ≠ value) =
      some (t.layout.reference path script) := by
  have hnone := find_references_of_agree hfront
  rw [references] at hnone
  rw [references, List.map_append, List.find?_append, hnone, Option.none_or, List.map_cons,
    List.find?_cons_of_pos (by simpa using h)]

section Planned

variable {plans : List (List Edit)}
  (hplans : (id :: ids).mapM (fun id => Plan.element (t.options d) d id t.attributes
    (t.layout.reference path script)) = .ok plans)

include hplans

theorem edits_of_agree
    (h : ∀ s ∈ scripts, t.layout.reference path s = t.layout.reference path script) :
    (t.planElements d path (script :: scripts) (id :: ids)).edits = .ok plans.flatten := by
  rw [edits_planElements hplans, find_references_of_agree h]

theorem edits_of_differ {front back : List Path} {s : Path}
    (hfront : ∀ a ∈ front, t.layout.reference path a = t.layout.reference path script)
    (hs : t.layout.reference path s ≠ t.layout.reference path script) :
    (t.planElements d path (script :: (front ++ s :: back)) (id :: ids)).edits =
      .error (.ambiguous path (nameOf d id) (t.layout.reference path script)
        (t.layout.reference path s), startOf d id) := by
  rw [edits_planElements hplans, find_references_of_differ hfront hs]

theorem ambiguous_iff :
    (∃ document name first second position,
        (t.planElements d path (script :: scripts) (id :: ids)).edits =
          .error (.ambiguous document name first second, position)) ↔
      ∃ a ∈ script :: scripts, ∃ b ∈ script :: scripts,
        t.layout.reference path a ≠ t.layout.reference path b := by
  constructor
  · rintro ⟨document, name, first, second, position, hambiguous⟩
    rcases agree_or_differ t path (t.layout.reference path script) scripts with
      hall | ⟨front, s, back, rfl, -, hs⟩
    · rw [edits_of_agree hplans hall] at hambiguous
      cases hambiguous
    · exact ⟨s, by simp, script, by simp, hs⟩
  · rintro ⟨a, ha, b, hb, hne⟩
    rcases agree_or_differ t path (t.layout.reference path script) scripts with
      hall | ⟨front, s, back, rfl, hfront, hs⟩
    · have hsame : ∀ s ∈ script :: scripts,
          t.layout.reference path s = t.layout.reference path script :=
        List.forall_mem_cons.2 ⟨rfl, hall⟩
      exact absurd ((hsame a ha).trans (hsame b hb).symm) hne
    · exact ⟨_, _, _, _, _, edits_of_differ hplans hfront hs⟩

end Planned

theorem planElements_of_agree
    (h : ∀ s ∈ scripts, t.layout.reference path s = t.layout.reference path script) :
    t.planElements d path (script :: scripts) ids =
      t.pointAll d path (t.layout.reference path script) ids := by
  have hnone := find_references_of_agree h
  rw [planElements, references, List.map_cons, ← references]
  dsimp only
  rw [hnone]
  cases (t.pointAll d path (t.layout.reference path script) ids).edits <;> rfl

theorem planElements_congr {scripts' : List Path} (hne : scripts' ≠ [])
    (h : ∀ s ∈ scripts, t.layout.reference path s = t.layout.reference path script)
    (h' : ∀ s ∈ scripts', t.layout.reference path s = t.layout.reference path script) :
    t.planElements d path scripts' ids = t.planElements d path (script :: scripts) ids := by
  cases scripts' with
  | nil => exact absurd rfl hne
  | cons script' scripts' =>
    obtain ⟨hfirst, hrest⟩ := List.forall_mem_cons.1 h'
    rw [planElements_of_agree h, planElements_of_agree fun s hs => (hrest s hs).trans hfirst.symm,
      hfirst]

theorem exists_plans (t : Task) (f : Flavor) (text : String) (ids : List Nat) (value : String) :
    ∃ plans, ids.mapM (fun id => Plan.element (t.options (Document.parse f text))
      (Document.parse f text) id t.attributes value) = .ok plans := by
  refine exists_mapM fun id _ => ?_
  obtain ⟨edits, hedits, -⟩ := Plan.exists_element f (t.options (Document.parse f text)) text id
    t.attributes value
  exact ⟨edits, hedits⟩

end Selected

/-- The selected elements are claimed for the reference of the first script, or a script with
another one is an error at the first of them. -/
theorem plan_one_reference (t : Task) (f : Flavor) (text : String) (path script : Path)
    (scripts : List Path) (id : Nat) (ids : List Nat)
    (h : t.selector >>= Selector.select (Document.parse f text) = .ok (id :: ids)) :
    let d := Document.parse f text
    let reference := t.layout.reference path
    t.plan d path (script :: scripts) =
      t.claimAll d path [] (visitsOf ((script :: scripts).map reference) (id :: ids)) ∧
    ∃ n e plans, d.nodes[id]? = some n ∧ n.element? = some e ∧
      (id :: ids).mapM (fun id => Plan.element (t.options d) d id t.attributes (reference script)) =
        .ok plans ∧
      ((∃ document name first second position, (t.plan d path (script :: scripts)).edits =
          .error (.ambiguous document name first second, position)) ↔
        ∃ a ∈ script :: scripts, ∃ b ∈ script :: scripts, reference a ≠ reference b) ∧
      (∀ front s back, scripts = front ++ s :: back →
        (∀ a ∈ front, reference a = reference script) → reference s ≠ reference script →
        (t.plan d path (script :: scripts)).edits =
          .error (.ambiguous path e.name (reference script) (reference s), n.range.start)) ∧
      ((∀ s ∈ scripts, reference s = reference script) →
        (t.plan d path (script :: scripts)).edits = .ok plans.flatten ∧
        ∀ scripts' ≠ [], (∀ s ∈ scripts', reference s = reference script) →
          t.plan d path scripts' = t.plan d path (script :: scripts)) := by
  intro d reference
  obtain ⟨selector, -, hselect⟩ := bind_eq_ok.1 h
  obtain ⟨hsorted, helements⟩ := Selector.select_sorted hselect
  obtain ⟨e, he⟩ := Option.isSome_iff_exists.1 (helements id List.mem_cons_self)
  obtain ⟨n, hn, hne⟩ := Option.bind_eq_some_iff.1 he
  obtain ⟨plans, hplans⟩ := exists_plans t f text (id :: ids) (reference script)
  have hstart : startOf d id = n.range.start := by
    rw [startOf, hn]
    rfl
  have hplan : ∀ scripts, t.plan d path scripts = t.planElements d path scripts (id :: ids) :=
    fun _ => plan_of_select h
  simp only [hplan]
  refine ⟨?_, n, e, plans, hn, hne, hplans, ambiguous_iff hplans, ?_, fun hall =>
    ⟨edits_of_agree hplans hall, fun scripts' hnil hall' => planElements_congr hnil hall hall'⟩⟩
  · rw [planElements_eq_claimAll (hsorted.imp Nat.ne_of_lt) helements]
    rfl
  · rintro front s back rfl hfront hs
    rw [edits_of_differ hplans hfront hs, nameOf_eq he, hstart]

theorem plan_one_reference_repeated :
    let t : Task := ⟨"css:b", .ok (.css [.compound [.tag "b"]]), ["src"],
      ⟨none, ⟨"/"⟩, ⟨"/"⟩, true⟩, .preserve, .utf8⟩
    let d := Document.parse .html "<p><b></b><b>"
    (t.plan d ⟨"/d.html"⟩ [⟨"/x.js"⟩, ⟨"/x.js"⟩, ⟨"/y.js"⟩]).edits =
        .error (.ambiguous ⟨"/d.html"⟩ "b" "./x.js" "./y.js", ⟨3, 1, 4⟩) ∧
      (t.plan d ⟨"/d.html"⟩ [⟨"/x.js"⟩, ⟨"/x.js"⟩]).edits =
        .ok [.insert 5 " src=\"./x.js\"", .insert 12 " src=\"./x.js\""] := by
  intro t d
  have hselected : Css.select d [.compound [.tag "b"]] = [1, 2] := by decide +kernel
  have hselect : t.selector >>= Selector.select d = .ok [1, 2] := congrArg Except.ok hselected
  have hx : t.layout.reference ⟨"/d.html"⟩ ⟨"/x.js"⟩ = "./x.js" := by decide +kernel
  have hy : t.layout.reference ⟨"/d.html"⟩ ⟨"/y.js"⟩ = "./y.js" := by decide +kernel
  have hplans : [1, 2].mapM (fun id => Plan.element (t.options d) d id t.attributes "./x.js") =
      .ok [[.insert 5 " src=\"./x.js\""], [.insert 12 " src=\"./x.js\""]] := by
    have hfirst : Plan.element (t.options d) d 1 t.attributes "./x.js" =
        .ok [.insert 5 " src=\"./x.js\""] := by decide +kernel
    have hsecond : Plan.element (t.options d) d 2 t.attributes "./x.js" =
        .ok [.insert 12 " src=\"./x.js\""] := by decide +kernel
    rw [List.mapM_cons, List.mapM_cons, hfirst, hsecond]
    rfl
  have hnode : d.nodes[1]?.map (fun n => (n.range.start, n.element?.map Element.name)) =
      some (⟨3, 1, 4⟩, some "b") := by decide +kernel
  constructor
  · obtain ⟨-, n, e, plans, hn, he, -, -, hdiffer, -⟩ := plan_one_reference t .html
      "<p><b></b><b>" ⟨"/d.html"⟩ ⟨"/x.js"⟩ [⟨"/x.js"⟩, ⟨"/y.js"⟩] 1 [2] hselect
    have herror := hdiffer [⟨"/x.js"⟩] ⟨"/y.js"⟩ [] rfl (by simp) (by rw [hx, hy]; decide)
    rw [hn, Option.map_some, he] at hnode
    obtain ⟨hstart, hname⟩ := Prod.mk.inj (Option.some.inj hnode)
    rw [herror, hx, hy, hstart, Option.some.inj hname]
  · obtain ⟨-, n, e, plans, -, -, hmap, -, -, hagree⟩ := plan_one_reference t .html
      "<p><b></b><b>" ⟨"/d.html"⟩ ⟨"/x.js"⟩ [⟨"/x.js"⟩] 1 [2] hselect
    rw [hx] at hmap
    obtain rfl := Except.ok.inj (hplans.symm.trans hmap)
    exact (hagree (by simp)).1

end Task
end MarkupSplice
