import MarkupSplice.FileTree.Basic
import MarkupSplice.Proofs.Fallible

/-!
# Replacing files

In a tree without links the steps of a path are taken one by one (`follow_eq`)
and lead to one place, whatever the files hold (`Alike.locate`). A file that can
be read and is replaced is replaced at the place where it was read
(`put_of_replaceFile`): no other place changes.
-/
namespace MarkupSplice

def Entry.shape : Entry → Entry
  | .file _ => .file []
  | e => e

namespace FileTree

variable {t t' : FileTree} {place q : Place} {e : Entry} {p : Path} {links : Nat}
  {names behind : List String}

theorem lookup_filter (entries : List (Place × Entry)) (hq : q ≠ place) :
    (entries.filter fun (p, _) => p != place).lookup q = entries.lookup q := by
  induction entries with
  | nil => rfl
  | cons entry entries ih =>
    obtain ⟨r, e⟩ := entry
    by_cases hr : r = place
    · have hqr : (q == r) = false := beq_false_of_ne fun h => hq (h.trans hr)
      rw [List.filter_cons_of_neg (by simp [hr]), List.lookup_cons, hqr, ih]
    · rw [List.filter_cons_of_pos (by simp [hr]), List.lookup_cons, List.lookup_cons, ih]

theorem get?_put (hplace : place ≠ []) (q : Place) :
    (t.put place e).get? q = if q = place then some e else t.get? q := by
  by_cases hq : q = place
  · subst hq
    rw [if_pos rfl, get?, if_neg (by simpa using hplace), put, List.lookup_cons_self]
  · rw [if_neg hq, get?, get?, put, List.lookup_cons, beq_false_of_ne hq]
    simp only [lookup_filter t.entries hq]

def Unlinked (t : FileTree) : Prop := ∀ place target, t.get? place ≠ some (.link target)

theorem unlinked_of_entries {t : FileTree}
    (h : ∀ x ∈ t.entries, ∀ target, x.2 ≠ .link target) : t.Unlinked := by
  intro place target hlink
  rw [get?] at hlink
  split at hlink
  · cases hlink
  · obtain ⟨l, r, hentries, -⟩ := List.lookup_eq_some_iff.1 hlink
    exact h (place, .link target) (by simp [hentries]) target rfl

structure Alike (t t' : FileTree) : Prop where
  workingPlace : t'.workingPlace = t.workingPlace
  shape : ∀ place, (t'.get? place).map Entry.shape = (t.get? place).map Entry.shape

theorem Alike.refl (t : FileTree) : Alike t t := ⟨rfl, fun _ => rfl⟩

theorem alike_put {old new : Text.Bytes} (hplace : place ≠ [])
    (hold : t.get? place = some (.file old)) : Alike t (t.put place (.file new)) := by
  refine ⟨rfl, fun q => ?_⟩
  rw [get?_put hplace]
  split
  · rename_i hq
    rw [hq, hold]
    rfl
  · rfl

section Alike

variable (h : Alike t t')
include h

theorem Alike.isDirectoryAt (place : Place) : t'.isDirectoryAt place = t.isDirectoryAt place := by
  have hshape := h.shape place
  rw [FileTree.isDirectoryAt, FileTree.isDirectoryAt, Bool.eq_iff_iff, beq_iff_eq, beq_iff_eq]
  cases hnew : t'.get? place with
  | none => cases hold : t.get? place <;> simp_all
  | some e' =>
    cases hold : t.get? place with
    | none => simp_all
    | some e => cases e <;> cases e' <;> simp_all [Entry.shape]

theorem Alike.unlinked (ht : t.Unlinked) : t'.Unlinked := by
  intro place target hlink
  have hshape := h.shape place
  rw [hlink] at hshape
  cases hold : t.get? place with
  | none => simp [hold] at hshape
  | some e =>
    cases e with
    | link target' => exact ht place target' hold
    | _ => simp [hold, Entry.shape] at hshape

end Alike

def advance (t : FileTree) (place : Place) (name : String) : Except FileError Place :=
  if !t.isDirectoryAt place then .error .notDirectory
  else if name = "." then .ok place
  else if name = ".." then .ok place.dropLast
  else if isTooLong name then .error .nameTooLong
  else if (t.get? (place ++ [name])).isNone then .error .notFound
  else .ok (place ++ [name])

/-- Without links nothing is put in front of the steps that are left. -/
theorem follow_eq (ht : t.Unlinked) (links : Nat) (place : Place) (names : List String) :
    t.follow links place names = names.foldlM t.advance place := by
  induction names generalizing place with
  | nil =>
    rw [follow]
    rfl
  | cons name names ih =>
    rw [follow, List.foldlM_cons, advance, ih, ih]
    split
    · rfl
    split
    · rfl
    split
    · rfl
    split
    · rfl
    split
    · rename_i hnone
      rw [hnone]
      rfl
    · rename_i hlink
      exact absurd hlink (ht _ _)
    · rename_i hsome
      rw [hsome, ih]
      rfl

theorem follow_append (ht : t.Unlinked) (links : Nat) (place : Place)
    (names behind : List String) : t.follow links place (names ++ behind) =
      t.follow links place names >>= fun place => t.follow links place behind := by
  simp only [follow_eq ht, List.foldlM_append]

theorem locate_eq (ht : t.Unlinked) (p : Path) : t.locate p = (check p >>= fun _ =>
    if p.text.isEmpty then .error .notFound
    else (steps p).foldlM t.advance (start p t.workingPlace)) := by
  rw [locate]
  simp only [follow_eq ht]

theorem Alike.advance (h : Alike t t') (place : Place) (name : String) :
    t'.advance place name = t.advance place name := by
  have hnone : (t'.get? (place ++ [name])).isNone = (t.get? (place ++ [name])).isNone := by
    rw [← Option.isNone_map, h.shape, Option.isNone_map]
  rw [FileTree.advance, FileTree.advance, h.isDirectoryAt, hnone]

theorem Alike.follow (h : Alike t t') (ht : t.Unlinked) (links : Nat) (place : Place)
    (names : List String) : t'.follow links place names = t.follow links place names := by
  have hadvance : t'.advance = t.advance := funext fun place => funext (h.advance place)
  rw [follow_eq (h.unlinked ht), follow_eq ht, hadvance]

theorem Alike.locate (h : Alike t t') (ht : t.Unlinked) (p : Path) : t'.locate p = t.locate p := by
  rw [FileTree.locate, FileTree.locate, h.workingPlace]
  simp only [h.follow ht]

theorem follow_here {r : Place} (h : t.follow links place ["."] = .ok r) : r = place := by
  rw [follow] at h
  split at h
  · cases h
  · rw [if_pos rfl, follow] at h
    exact (Except.ok.inj h).symm

theorem follow_name (ht : t.Unlinked) {name : String} {r : Place}
    (hname : ¬(name = "." ∨ name = "..")) (h : t.follow links place [name] = .ok r) :
    r = place ++ [name] := by
  obtain ⟨hhere, habove⟩ := not_or.1 hname
  rw [follow, if_neg hhere, if_neg habove] at h
  split at h
  · cases h
  · split at h
    · cases h
    · split at h
      · cases h
      · rename_i hlink
        exact absurd hlink (ht _ _)
      · rw [follow] at h
        exact (Except.ok.inj h).symm

theorem follow_of_locate (h : t.locate p = .ok place) :
    t.follow maxLinks (start p t.workingPlace) (steps p) = .ok place := by
  rw [locate] at h
  obtain ⟨_, -, h⟩ := bind_eq_ok.1 h
  split at h
  · cases h
  · exact h

theorem exists_parent (h : t.target p = .ok place) :
    ∃ names name parent, ¬(name = "." ∨ name = "..") ∧ steps p = names ++ [name] ∧
      t.directoryAt (start p t.workingPlace) names = .ok parent ∧ place = parent ++ [name] := by
  rw [target] at h
  split at h
  · cases h
  · rename_i name hlast
    obtain ⟨names, hnames⟩ := List.getLast?_eq_some_iff.1 hlast
    obtain ⟨_, -, h⟩ := bind_eq_ok.1 h
    obtain ⟨_, -, h⟩ := bind_eq_ok.1 h
    obtain ⟨_, -, h⟩ := bind_eq_ok.1 h
    obtain ⟨parent, hparent, h⟩ := bind_eq_ok.1 h
    rw [hnames, List.dropLast_concat] at hparent
    split at h
    · cases h
    · rename_i hname
      split at h
      · cases h
      · split at h
        · cases h
        · rename_i hslash
          split at h
          · cases h
          · refine ⟨names, name, parent, hname, ?_, hparent, (Except.ok.inj h).symm⟩
            simp only [steps, if_neg hslash, hnames]

/-- A file that can be read is put where it is read. -/
theorem held_of_target (ht : t.Unlinked) {old : Text.Bytes} (hread : t.readFile p = .ok old)
    (htarget : t.target p = .ok place) :
    place ≠ [] ∧ t.locate p = .ok place ∧ t.get? place = some (.file old) := by
  rw [readFile] at hread
  obtain ⟨found, hlocate, hread⟩ := bind_eq_ok.1 hread
  have hfile : t.get? found = some (.file old) := by
    split at hread
    · rename_i hget
      rw [hget, Except.ok.inj hread]
    · cases hread
    · cases hread
  obtain rfl : found = place := by
    -- the directory is found by the names in front of the last, which reading follows as well
    obtain ⟨names, name, parent, hname, hsteps, hparent, rfl⟩ := exists_parent htarget
    have hfollow := follow_of_locate hlocate
    rw [directoryAt, follow_append ht] at hparent
    obtain ⟨r, hr, hhere⟩ := bind_eq_ok.1 hparent
    obtain rfl := follow_here hhere
    rw [hsteps, follow_append ht, hr] at hfollow
    exact follow_name ht hname hfollow
  refine ⟨?_, hlocate, hfile⟩
  rintro rfl
  cases hfile

theorem put_of_replaceFile (ht : t.Unlinked) {old new : Text.Bytes}
    (hread : t.readFile p = .ok old) (hreplace : t.replaceFile p new = .ok t') :
    ∃ place, place ≠ [] ∧ t.locate p = .ok place ∧ t.get? place = some (.file old) ∧
      t' = t.put place (.file new) := by
  rw [replaceFile] at hreplace
  cases htarget : t.target p with
  | error e =>
    rw [htarget] at hreplace
    cases hreplace
  | ok place =>
    rw [htarget] at hreplace
    obtain ⟨hinside, hlocate, hheld⟩ := held_of_target ht hread htarget
    exact ⟨place, hinside, hlocate, hheld, (Except.ok.inj hreplace).symm⟩

end FileTree
end MarkupSplice
