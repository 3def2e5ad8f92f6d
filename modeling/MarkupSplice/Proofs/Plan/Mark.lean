import MarkupSplice.Plan
import MarkupSplice.Selector
import MarkupSplice.Proofs.Edit.Mark
import MarkupSplice.Proofs.Fallible
import MarkupSplice.Proofs.Markup.Lineage

/-!
# Texts behind a byte-order mark

A document notes whether its text began with a byte-order mark, and nothing
reads that note: not what is selected, nor what is planned for an element. As
its offsets do not count the mark, and edits are moved behind it before they
are applied, the mark stays in front of the text, which is changed as it would
be without (`rewrite_mark`).
-/
namespace MarkupSplice
open Markup Text

namespace Document

def withMark (d : Document) (b : Bool) : Document := { d with hasMark := b }

variable (d : Document) (b : Bool)

theorem ancestors_withMark : (d.withMark b).ancestors = d.ancestors := by
  funext id
  exact ancestors_congr fun _ _ => rfl

theorem outerEnd_withMark : (d.withMark b).outerEnd = d.outerEnd := by
  funext id
  by_cases hid : id < d.size
  · exact outerEnd_congr (fun i _ _ => ⟨rfl, rfl⟩) (Nat.zero_le id) hid
  · have hnone : d.nodes[id]? = none := Array.getElem?_eq_none (Nat.le_of_not_lt hid)
    have hnone' : (d.withMark b).nodes[id]? = none := hnone
    rw [outerEnd, outerEnd, hnone, hnone']

theorem descendants_withMark : (d.withMark b).descendants = d.descendants := by
  funext id
  rw [descendants, descendants, ancestors_withMark]
  rfl

theorem textContent_withMark : (d.withMark b).textContent = d.textContent := by
  funext id
  rw [textContent, textContent, descendants_withMark]
  rfl

end Document

namespace Css

variable (d : Document) (b : Bool) (id : Nat) (e : Element)

mutual

theorem Component.accepts_withMark : ∀ c : Component,
    c.accepts (d.withMark b) id e = c.accepts d id e
  | .not alternatives => by
    rw [Component.accepts, Component.accepts, anyAccepts_withMark alternatives]
  | .universal | .tag _ | .id _ | .hasClass _ | .attribute _ | .root | .empty | .child _
  | .ofType _ => rfl

theorem allAccept_withMark : ∀ cs : List Component,
    allAccept (d.withMark b) id e cs = allAccept d id e cs
  | [] => rfl
  | c :: cs => by
    rw [allAccept, allAccept, Component.accepts_withMark c, allAccept_withMark cs]

theorem anyAccepts_withMark : ∀ cs : List (List Component),
    anyAccepts (d.withMark b) id e cs = anyAccepts d id e cs
  | [] => rfl
  | c :: cs => by
    rw [anyAccepts, anyAccepts, allAccept_withMark c, anyAccepts_withMark cs]

end

theorem Compound.accepts_withMark (c : Compound) :
    c.accepts (d.withMark b) = Compound.accepts d c := by
  funext id
  simp only [Compound.accepts, allAccept_withMark]
  rfl

theorem Combinator.candidates_withMark (k : Combinator) :
    k.candidates (d.withMark b) id = k.candidates d id := by
  cases k with
  | descendant => exact congrFun (d.ancestors_withMark b) id
  | _ => rfl

theorem Complex.accepts_withMark (c : Complex) : c.accepts (d.withMark b) = c.accepts d := by
  induction c with
  | compound c => exact Compound.accepts_withMark d b c
  | join left k right ih =>
    funext id
    rw [Complex.accepts, Complex.accepts, Compound.accepts_withMark,
      Combinator.candidates_withMark, ih]

theorem select_withMark (selectors : List Complex) :
    select (d.withMark b) selectors = select d selectors := by
  simp only [select, Complex.accepts_withMark]
  rfl

end Css

namespace XPath

variable (d : Document) (b : Bool)

theorem stringValue_withMark : stringValue (d.withMark b) = stringValue d := by
  funext x
  cases x with
  | root =>
    rw [stringValue, stringValue, Document.textContent_withMark]
    rfl
  | node id =>
    rw [stringValue, stringValue, Document.textContent_withMark]
    rfl
  | «attribute» owner index => rfl

theorem Axis.points_withMark (x : Point) (a : Axis) : a.points (d.withMark b) x = a.points d x := by
  have hancestors : x.ancestors (d.withMark b) = x.ancestors d := by
    cases x <;> simp only [Point.ancestors, d.ancestors_withMark b]
  have hdescendants : x.descendants (d.withMark b) = x.descendants d := by
    cases x with
    | node id => simp only [Point.descendants, d.descendants_withMark b]
    | _ => rfl
  cases a with
  | ancestor => exact hancestors
  | ancestorOrSelf => exact congrArg (x :: ·) hancestors
  | descendant => exact hdescendants
  | descendantOrSelf => exact congrArg (x :: ·) hdescendants
  | _ => rfl

theorem Value.toText_withMark : Value.toText (d.withMark b) = Value.toText d := by
  funext v
  simp only [Value.toText, stringValue_withMark]

theorem Value.toNumber_withMark : Value.toNumber (d.withMark b) = Value.toNumber d := by
  funext v
  simp only [Value.toNumber, Value.toText_withMark]

theorem Comparison.holds_withMark (op : Comparison) (x y : Value) :
    op.holds (d.withMark b) x y = op.holds d x y := by
  have hatoms : op.atoms (d.withMark b) = op.atoms d := by
    funext x y
    simp only [Comparison.atoms, sameValue, Value.toText_withMark, Value.toNumber_withMark]
  simp only [Comparison.holds, hatoms, pointText, stringValue_withMark]

theorem Function.apply_withMark (c : Context) (f : Function) (args : List Value) :
    f.apply (d.withMark b) c args = f.apply d c args := by
  have hname : nodeName (d.withMark b) = nodeName d := rfl
  simp only [Function.apply, textArgument, nameArgument, hname, Value.toText_withMark,
    stringValue_withMark]

mutual

theorem Expr.eval_withMark : ∀ e : Expr, e.eval (d.withMark b) = e.eval d
  | .or l r => by
    funext c
    rw [Expr.eval, Expr.eval, Expr.eval_withMark l, Expr.eval_withMark r]
  | .and l r => by
    funext c
    rw [Expr.eval, Expr.eval, Expr.eval_withMark l, Expr.eval_withMark r]
  | .compare op l r => by
    funext c
    simp only [Expr.eval, Expr.eval_withMark l, Expr.eval_withMark r, Comparison.holds_withMark]
  | .arithmetic op l r => by
    funext c
    rw [Expr.eval, Expr.eval, Expr.eval_withMark l, Expr.eval_withMark r,
      Value.toNumber_withMark]
  | .negate e => by
    funext c
    rw [Expr.eval, Expr.eval, Expr.eval_withMark e, Value.toNumber_withMark]
  | .union l r => by
    funext c
    rw [Expr.eval, Expr.eval, Expr.eval_withMark l, Expr.eval_withMark r]
  | .absolute steps => by
    funext c
    rw [Expr.eval, Expr.eval, evalSteps_withMark steps]
  | .relative steps => by
    funext c
    rw [Expr.eval, Expr.eval, evalSteps_withMark steps]
  | .path start steps => by
    funext c
    rw [Expr.eval, Expr.eval, Expr.eval_withMark start, evalSteps_withMark steps]
  | .filter e predicates => by
    funext c
    rw [Expr.eval, Expr.eval, Expr.eval_withMark e, keepAll_withMark predicates]
  | .literal s => rfl
  | .number n => rfl
  | .call f args => by
    funext c
    simp only [Expr.eval, evalAll_withMark args, Function.apply_withMark]

theorem Step.eval_withMark : ∀ s : Step, s.eval (d.withMark b) = s.eval d
  | .mk a test predicates => by
    funext xs
    have htest : NodeTest.accepts (d.withMark b) a test = NodeTest.accepts d a test := rfl
    simp only [Step.eval, keepAll_withMark predicates, Axis.points_withMark, htest]

theorem evalSteps_withMark : ∀ steps : List Step,
    evalSteps (d.withMark b) steps = evalSteps d steps
  | [] => rfl
  | s :: steps => by
    funext xs
    rw [evalSteps, evalSteps, Step.eval_withMark s, evalSteps_withMark steps]

theorem keepAll_withMark : ∀ predicates : List Expr,
    keepAll (d.withMark b) predicates = keepAll d predicates
  | [] => rfl
  | p :: predicates => by
    funext xs
    rw [keepAll, keepAll, Expr.eval_withMark p, keepAll_withMark predicates]

theorem evalAll_withMark : ∀ es : List Expr, evalAll (d.withMark b) es = evalAll d es
  | [] => rfl
  | e :: es => by
    funext c
    rw [evalAll, evalAll, Expr.eval_withMark e, evalAll_withMark es]

end

theorem Expr.select_withMark (e : Expr) : e.select (d.withMark b) = e.select d := by
  rw [Expr.select, Expr.select, Expr.eval_withMark]
  rfl

end XPath

theorem Selector.select_withMark (d : Document) (b : Bool) (s : Selector) :
    s.select (d.withMark b) = s.select d := by
  cases s with
  | firstScript => rfl
  | id value => rfl
  | css query => exact congrArg Except.ok (Css.select_withMark d b query)
  | xpath text query =>
    exact congrArg (Except.mapError (SelectorError.evaluation text)) (query.select_withMark d b)

namespace Plan

theorem element_withMark (o : PlanOptions) (d : Document) (b : Bool) (id : Nat)
    (names : List String) (value : String) :
    element o (d.withMark b) id names value = element o d id names value := by
  have hclear : clearContent (d.withMark b) id = clearContent d id := by
    rw [clearContent, clearContent, Document.outerEnd_withMark]
    rfl
  rw [element, element, hclear]
  rfl

/-- The text with all edits made that are planned for the elements that a selector finds. -/
def rewrite (f : Flavor) (s : Selector) (o : PlanOptions) (names : List String)
    (value text : String) : Option String := do
  let d := Document.parse f text
  let ids ← (s.select d).toOption
  let plans ← (ids.mapM fun id => element o d id names value).toOption
  (applyEdits text (Edit.shiftPastMark text.toList plans.flatten)).toOption

section Rewriting

variable {f : Flavor} {s : Selector} {o : PlanOptions} {names : List String}
  {value text out : String}

theorem rewrite_eq_some :
    rewrite f s o names value text = some out ↔ ∃ ids plans,
      s.select (Document.parse f text) = .ok ids ∧
      (ids.mapM fun id => element o (Document.parse f text) id names value) = .ok plans ∧
      applyEdits text (Edit.shiftPastMark text.toList plans.flatten) = .ok out := by
  simp only [rewrite, Option.bind_eq_bind, Option.bind_eq_some_iff, toOption_eq_some]
  constructor
  · rintro ⟨ids, hids, plans, hplans, hout⟩
    exact ⟨ids, plans, hids, hplans, hout⟩
  · rintro ⟨ids, plans, hids, hplans, hout⟩
    exact ⟨ids, hids, plans, hplans, hout⟩

theorem rewrite_single {id : Nat} {es : List Edit}
    (hselect : s.select (Document.parse f text) = .ok [id])
    (hplan : element o (Document.parse f text) id names value = .ok es)
    (happly : applyEdits text (Edit.shiftPastMark text.toList es) = .ok out) :
    rewrite f s o names value text = some out := by
  refine rewrite_eq_some.2 ⟨[id], [es], hselect, ?_, ?_⟩
  · rw [List.mapM_cons, hplan]
    rfl
  · rw [List.flatten_singleton, happly]

end Rewriting

end Plan

theorem Document.parse_marked {text : String} (h : text.toList.head? ≠ some '\ufeff') (f : Flavor) :
    parse f (marked text) = (parse f text).withMark true := by
  have hplain : stripMark text.toList = (text.toList, false) := by
    unfold stripMark
    cases hs : text.toList with
    | nil => rfl
    | cons c s =>
      rw [hs, List.head?_cons, ne_eq, Option.some_inj] at h
      exact if_neg h
  rw [parse, parse, toList_marked, hplain]
  rfl

/-- With a byte-order mark in front of a text all goes as it does without. -/
theorem rewrite_mark {text : String} (h : text.toList.head? ≠ some '\ufeff') (f : Flavor) :
    Document.parse f (marked text) = { Document.parse f text with hasMark := true } ∧
      (∀ s : Selector,
        s.select (Document.parse f (marked text)) = s.select (Document.parse f text)) ∧
      (∀ o id names value, Plan.element o (Document.parse f (marked text)) id names value =
        Plan.element o (Document.parse f text) id names value) ∧
      (∀ s o names value, Plan.rewrite f s o names value (marked text) =
        (Plan.rewrite f s o names value text).map marked) ∧
      ∀ es, applyEdits (marked text) (Edit.shiftPastMark (marked text).toList es) =
        ((applyEdits text es).map marked).mapError (EditError.shift Edit.markLength) := by
  have hparse := Document.parse_marked h f
  have happly := applyEdits_mark h
  have hplain : ∀ es, Edit.shiftPastMark text.toList es = es := fun es => if_neg h
  refine ⟨hparse, fun s => ?_, fun o id names value => ?_, fun s o names value => ?_, fun es => ?_⟩
  · rw [hparse, Selector.select_withMark]
  · rw [hparse, Plan.element_withMark]
  · simp only [Plan.rewrite, hparse, Selector.select_withMark, Plan.element_withMark, happly]
    cases s.select (Document.parse f text) with
    | error err => rfl
    | ok ids =>
      simp only [Except.toOption, Option.bind_eq_bind, Option.bind_some]
      cases ids.mapM fun id => Plan.element o (Document.parse f text) id names value with
      | error err => rfl
      | ok plans =>
        simp only [Option.bind_some]
        cases applyEdits text (Edit.shiftPastMark text.toList plans.flatten) with
        | error err => rfl
        | ok out => rfl
  · rw [happly, hplain]

theorem rewrite_mark_script :
    "<script></script>".toList.head? ≠ some '\ufeff' ∧
      Plan.rewrite .html .firstScript ⟨.html, .preserve⟩ ["src"] "a.js"
          (marked "<script></script>") = some (marked "<script src=\"a.js\"></script>") := by
  have hhead : "<script></script>".toList.head? ≠ some '\ufeff' := by decide
  have hplain : Plan.rewrite .html .firstScript ⟨.html, .preserve⟩ ["src"] "a.js"
      "<script></script>" = some "<script src=\"a.js\"></script>" := by decide +kernel
  obtain ⟨-, -, -, hrewrite, -⟩ := rewrite_mark hhead .html
  refine ⟨hhead, ?_⟩
  rw [hrewrite, hplain]
  rfl

end MarkupSplice
