import Mathlib.Data.List.Infix
import Mathlib.Logic.Relation
import MarkupSplice.Proofs.Path.Route

/-!
# Normal forms of paths

A path is normalized by taking out a name together with the `..` behind it, again
and again. What is left is the route of the path, in whatever order this is done
(`normalizesTo_iff`). Where no `..` climbs above the place where the path begins,
only names are left (`Grounded.up_ofPath`), and a path joined to another is
normalized as a walk from the end of that other path (`ofPath_join`).
-/
namespace MarkupSplice
open Relation Text
open FileTree (IsName)

namespace Part

inductive Cancels : List Part → List Part → Prop
  | pair (before behind : List Part) (name : String) :
    Cancels (before ++ .name name :: .above :: behind) (before ++ behind)

variable {ps qs : List Part}

theorem Cancels.append (h : Cancels ps qs) (rs : List Part) : Cancels (ps ++ rs) (qs ++ rs) := by
  obtain ⟨before, behind, name⟩ := h
  simpa using Cancels.pair before (behind ++ rs) name

theorem Cancels.walk (h : Cancels ps qs) (r : Route) : r.walk ps = r.walk qs := by
  obtain ⟨before, behind, name⟩ := h
  rw [Route.walk_append, Route.walk_append, Route.walk_cons, Route.walk_cons]
  simp [Route.step]

theorem walk_of_cancels (h : ReflTransGen Cancels ps qs) (r : Route) : r.walk ps = r.walk qs := by
  induction h with
  | refl => rfl
  | tail _ hstep ih => exact ih.trans (hstep.walk r)

end Part

namespace Route

theorem empty_walk_steps (r : Route) : empty.walk r.steps = r := by
  rw [walk_steps]
  simp [empty]

theorem cancels_step (r : Route) (w : List Char) :
    ReflTransGen Part.Cancels (r.steps ++ [Path.partOf w]) (r.step (Path.partOf w)).steps := by
  unfold Path.partOf
  split
  · by_cases hnil : r.names = []
    · have hsteps : r.steps ++ [.above] = (r.step .above).steps := by
        simp [steps, step, hnil, List.replicate_succ']
      rw [hsteps]
    · obtain ⟨front, n, hnames⟩ := (List.eq_nil_or_concat' r.names).resolve_left hnil
      have hbefore : r.steps ++ [.above] =
          (List.replicate r.up .above ++ front.map .name) ++ .name n :: .above :: [] := by
        simp [steps, hnames]
      have hafter : (r.step .above).steps =
          (List.replicate r.up .above ++ front.map .name) ++ [] := by
        simp [steps, step, hnames]
      rw [hbefore, hafter]
      exact ReflTransGen.single (.pair _ _ n)
  · have hsteps : r.steps ++ [.name (String.ofList w)] =
        (r.step (.name (String.ofList w))).steps := by
      simp [steps, step]
    rw [hsteps]

theorem cancels_walk (r : Route) (ws : List (List Char)) :
    ReflTransGen Part.Cancels (r.steps ++ ws.map Path.partOf)
      (r.walk (ws.map Path.partOf)).steps := by
  induction ws generalizing r with
  | nil =>
    rw [List.map_nil, List.append_nil]
    exact ReflTransGen.refl
  | cons w ws ih =>
    have hfirst : ReflTransGen Part.Cancels (r.steps ++ [Path.partOf w] ++ ws.map Path.partOf)
        ((r.step (Path.partOf w)).steps ++ ws.map Path.partOf) :=
      (cancels_step r w).lift (· ++ ws.map Path.partOf) fun _ _ h => h.append _
    rw [List.append_assoc, List.singleton_append] at hfirst
    exact hfirst.trans (ih (r.step (Path.partOf w)))

end Route

namespace Path

variable {p q : Path} {r : Route} {names : List String}

/-- Whether what is left of a path, after as many names as possible have gone with a `..`, is what
the route walks. -/
def NormalizesTo (p : Path) (r : Route) : Prop := ReflTransGen Part.Cancels p.moves r.steps

theorem normalizesTo_iff : p.NormalizesTo r ↔ Route.ofPath p = r := by
  constructor
  · intro h
    rw [Route.ofPath, Route.walk_parts, Part.walk_of_cancels h, Route.empty_walk_steps]
  · rintro rfl
    rw [NormalizesTo, Route.ofPath, Route.walk_parts]
    exact Route.cancels_walk Route.empty _

instance : Decidable (p.NormalizesTo r) := decidable_of_iff _ normalizesTo_iff.symm

/-- Whether no `..` of a path climbs above the place where it begins. -/
def Grounded (p : Path) : Prop :=
  ∀ ps ∈ p.parts.inits, ps.count .above ≤ ps.countP Part.isName

instance : Decidable p.Grounded :=
  inferInstanceAs (Decidable (∀ ps ∈ p.parts.inits, ps.count .above ≤ ps.countP Part.isName))

theorem Grounded.up_ofPath (h : p.Grounded) : (Route.ofPath p).up = 0 :=
  Route.up_walk_eq_zero rfl fun ps hps => by
    simpa [Route.empty] using h ps ((List.mem_inits ps p.parts).2 hps)

theorem Grounded.normalizesTo (h : p.Grounded) : p.NormalizesTo ⟨0, (Route.ofPath p).names⟩ := by
  rw [normalizesTo_iff, ← h.up_ofPath]

structure Lists (p : Path) (names : List String) : Prop where
  text : p.text = "/" ++ "/".intercalate names
  isName : ∀ n ∈ names, IsName n

theorem Lists.ofPath (h : p.Lists names) : Route.ofPath p = ⟨0, names⟩ := by
  have htext : p.text.toList = [] ++ '/' :: (⟨0, names⟩ : Route).toText.toList := by
    simp [h.text, Route.toText]
  have hwords : words p.text.toList = (⟨0, names⟩ : Route).words := by
    rw [htext, words_append, Route.words_toText h.isName]
    rfl
  rw [Route.ofPath, Route.walk_parts, Route.moves_of_words h.isName (Or.inl hwords),
    Route.empty_walk_steps]

theorem words_join (h : q.isAbsolute = false) :
    words (p.join q).text.toList = words p.text.toList ++ words q.text.toList := by
  unfold join
  rw [h, Bool.false_or]
  split
  · rename_i hempty
    rw [String.isEmpty_iff.1 hempty]
    rfl
  · split
    · rename_i hslash
      obtain ⟨a, ha⟩ := List.getLast?_eq_some_iff.1 (beq_iff_eq.1 hslash)
      have hp : words p.text.toList = words a := by
        rw [ha, words_append]
        exact List.append_nil _
      rw [hp, String.toList_append, ha, List.append_assoc, List.singleton_append, words_append]
    · have htext : (p.text ++ "/" ++ q.text).toList = p.text.toList ++ '/' :: q.text.toList := by
        simp
      rw [htext, words_append]

theorem ofPath_join (h : q.isAbsolute = false) :
    Route.ofPath (p.join q) = (Route.ofPath p).walk q.moves := by
  have hmoves : (p.join q).moves = p.moves ++ q.moves := by
    simp only [moves, words_join h, List.filter_append, List.map_append]
  rw [Route.ofPath, Route.ofPath, Route.walk_parts, Route.walk_parts, hmoves, Route.walk_append]

end Path
end MarkupSplice
