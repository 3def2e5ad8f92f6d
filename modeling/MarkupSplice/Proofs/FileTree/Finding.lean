import Mathlib.Data.List.Nodup
import MarkupSplice.Discovery
import MarkupSplice.Proofs.FileTree.Replacing

/-!
# Finding files

What files hold has no say in which of them are found (`Twin.found`) and in
where one can be put (`Alike.target`). Without links the search comes to the
same as a plain walk down the tree (`discover_eq`).
-/
namespace MarkupSplice
open scoped List

namespace FileTree

variable {t t' t'' : FileTree} {place q : Place} {e : Entry} {dir p : Path}

def places (t : FileTree) : List Place := t.entries.map Prod.fst

theorem mem_places (hplace : place ≠ []) (h : t.get? place = some e) : place ∈ t.places := by
  rw [get?, if_neg (by simpa using hplace)] at h
  obtain ⟨l, r, hentries, -⟩ := List.lookup_eq_some_iff.1 h
  simp [places, hentries]

theorem places_put (hnodup : t.places.Nodup) (hplace : place ∈ t.places) :
    (t.put place e).places ~ t.places := by
  have hput : (t.put place e).places = place :: t.places.filter (· != place) := by
    simp [places, put, List.filter_map, Function.comp_def]
  rw [hput, ← hnodup.erase_eq_filter]
  exact (List.perm_cons_erase hplace).symm

theorem namesIn_eq (t : FileTree) (place : Place) : t.namesIn place =
    (t.places.filterMap fun p => if p.dropLast = place then p.getLast? else none).mergeSort := by
  rw [namesIn, places, List.filterMap_map]
  rfl

theorem mergeSort_names {as bs : List String} (h : as ~ bs) : as.mergeSort = bs.mergeSort := by
  have hsorted : ∀ cs : List String, cs.mergeSort.Pairwise fun a b => (a ≤ b : Bool) = true := by
    refine List.pairwise_mergeSort ?_ ?_
    · intro a b c hab hbc
      exact decide_eq_true (String.le_trans (of_decide_eq_true hab) (of_decide_eq_true hbc))
    · intro a b
      simpa using String.le_total a b
  have hperm : as.mergeSort ~ bs.mergeSort :=
    ((List.mergeSort_perm as _).trans h).trans (List.mergeSort_perm bs _).symm
  refine hperm.eq_of_pairwise ?_ (hsorted as) (hsorted bs)
  intro a b _ _ hab hba
  exact String.le_antisymm (of_decide_eq_true hab) (of_decide_eq_true hba)

theorem Alike.symm (h : Alike t t') : Alike t' t :=
  ⟨h.workingPlace.symm, fun place => (h.shape place).symm⟩

theorem Alike.trans (h : Alike t t') (h' : Alike t' t'') : Alike t t'' :=
  ⟨h'.workingPlace.trans h.workingPlace, fun place => (h'.shape place).trans (h.shape place)⟩

structure Twin (t t' : FileTree) : Prop extends Alike t t' where
  places : t'.places ~ t.places

namespace Twin

theorem refl (t : FileTree) : Twin t t := ⟨.refl t, .refl _⟩

theorem symm (h : Twin t t') : Twin t' t := ⟨h.toAlike.symm, h.places.symm⟩

theorem trans (h : Twin t t') (h' : Twin t' t'') : Twin t t'' :=
  ⟨h.toAlike.trans h'.toAlike, h'.places.trans h.places⟩

theorem nodup (h : Twin t t') (hnodup : t.places.Nodup) : t'.places.Nodup :=
  h.places.nodup_iff.2 hnodup

theorem put {old new : Text.Bytes} (hnodup : t.places.Nodup) (hplace : place ≠ [])
    (hold : t.get? place = some (.file old)) : Twin t (t.put place (.file new)) :=
  ⟨alike_put hplace hold, places_put hnodup (mem_places hplace hold)⟩

theorem namesIn (h : Twin t t') (place : Place) : t'.namesIn place = t.namesIn place := by
  rw [namesIn_eq, namesIn_eq]
  exact mergeSort_names (h.places.filterMap _)

end Twin

def waysBy (name : String) (below : List (List String)) : Option Entry → List (List String)
  | some (.file _) => [[name]]
  | some .directory => below.map (name :: ·)
  | _ => []

def ways (t : FileTree) : Nat → Place → List (List String)
  | 0, _ => []
  | depth + 1, place => (t.namesIn place).flatMap fun name =>
    waysBy name (t.ways depth (place ++ [name])) (t.get? (place ++ [name]))

def found (t : FileTree) (dir : Path) (files : FileSet) : List Path :=
  match t.locate dir with
  | .error _ => []
  | .ok place =>
    if t.isDirectoryAt place then
      (((t.ways t.maxDepth place).filter fun names => files.accepts (wayText names)).mergeSort
        wayLe).map fun names => dir.join ⟨wayText names⟩
    else []

def UnlinkedBelow (t : FileTree) (place : Place) : Prop :=
  ∀ names target, t.get? (place ++ names) ≠ some (.link target)

theorem Unlinked.below (ht : t.Unlinked) (place : Place) : t.UnlinkedBelow place :=
  fun _ _ => ht _ _

theorem UnlinkedBelow.below (h : t.UnlinkedBelow place) (name : String) :
    t.UnlinkedBelow (place ++ [name]) := by
  intro names target
  rw [List.append_assoc]
  exact h _ target

theorem resolve_eq {name : String} (h : ∀ target, t.get? (place ++ [name]) ≠ some (.link target))
    (visited : List Visited) (path : Path) :
    t.resolve visited path place name = .ok (place ++ [name], t.get? (place ++ [name])) := by
  rw [resolve]
  split
  · rename_i hlink
    exact absurd hlink (h _)
  · rfl

theorem filesBelow_eq (h : t.UnlinkedBelow place) (depth : Nat) (visited : List Visited)
    (path : Path) : t.filesBelow depth visited path place = .ok (t.ways depth place) := by
  induction depth generalizing visited path place with
  | zero => rfl
  | succ depth ih =>
    rw [filesBelow, mapM_eq_ok (k := fun name =>
      waysBy name (t.ways depth (place ++ [name])) (t.get? (place ++ [name])))]
    · rfl
    · intro name _
      simp only [resolve_eq (h [name])]
      cases t.get? (place ++ [name]) with
      | none => rfl
      | some e =>
        cases e with
        | file content => rfl
        | directory =>
          dsimp only [bind, Except.bind]
          rw [ih (h.below name)]
          rfl
        | link target => rfl

theorem discover_eq_of_below (h : ∀ place, t.locate dir = .ok place → t.UnlinkedBelow place)
    (files : FileSet) : t.discover dir files = .ok (t.found dir files) := by
  rw [discover, found]
  cases hlocate : t.locate dir with
  | error e => rfl
  | ok place =>
    by_cases hdir : t.isDirectoryAt place = true
    · simp only [if_pos hdir, filesBelow_eq (h place hlocate)]
      rfl
    · simp only [if_neg hdir]

theorem discover_eq (ht : t.Unlinked) (dir : Path) (files : FileSet) :
    t.discover dir files = .ok (t.found dir files) :=
  discover_eq_of_below (fun place _ => ht.below place) files

theorem waysBy_shape (name : String) (below : List (List String)) (e : Option Entry) :
    waysBy name below (e.map Entry.shape) = waysBy name below e := by
  cases e with
  | none => rfl
  | some e => cases e <;> rfl

theorem Twin.ways (h : Twin t t') (depth : Nat) (place : Place) :
    t'.ways depth place = t.ways depth place := by
  induction depth generalizing place with
  | zero => rfl
  | succ depth ih =>
    rw [FileTree.ways, FileTree.ways, h.namesIn]
    refine List.flatMap_congr fun name _ => ?_
    rw [ih, ← waysBy_shape, h.shape, waysBy_shape]

theorem Twin.found (h : Twin t t') (ht : t.Unlinked) (dir : Path) (files : FileSet) :
    t'.found dir files = t.found dir files := by
  have hdepth : t'.maxDepth = t.maxDepth := by
    have hlength := h.places.length_eq
    rw [FileTree.places, FileTree.places, List.length_map, List.length_map] at hlength
    rw [maxDepth, maxDepth, hlength]
  rw [FileTree.found, FileTree.found, h.locate ht]
  simp only [h.isDirectoryAt, h.ways, hdepth]

theorem Alike.target (h : Alike t t') (ht : t.Unlinked) (p : Path) : t'.target p = t.target p := by
  simp only [FileTree.target, FileTree.directoryAt, h.workingPlace, h.follow ht, h.isDirectoryAt]

end FileTree
end MarkupSplice
