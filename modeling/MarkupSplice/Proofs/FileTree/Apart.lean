import MarkupSplice.Proofs.FileTree.Finding
import MarkupSplice.Proofs.Text.Cutting

/-!
# Found files lie apart

In a tree with names that files can have, a search finds no file twice, and no
two of the paths that it finds lead to one place (`found_apart`).
-/
namespace MarkupSplice

namespace FileTree
open Text

variable {t : FileTree} {dir : Path} {place q : Place} {names : List String} {depth : Nat}

structure IsName (name : String) : Prop where
  nonempty : name ≠ ""
  plain : '/' ∉ name.toList
  here : name ≠ "."
  above : name ≠ ".."

instance (name : String) : Decidable (IsName name) :=
  decidable_of_iff (name ≠ "" ∧ '/' ∉ name.toList ∧ name ≠ "." ∧ name ≠ "..")
    ⟨fun h => ⟨h.1, h.2.1, h.2.2.1, h.2.2.2⟩, fun h => ⟨h.nonempty, h.plain, h.here, h.above⟩⟩

theorem IsName.toList_ne_nil {name : String} (h : IsName name) : name.toList ≠ [] :=
  fun hnil => h.nonempty (String.toList_eq_nil_iff.1 hnil)

/-- Whether each entry has a place of its own, with names that files can have. -/
structure WellFormed (t : FileTree) : Prop where
  nodup : t.places.Nodup
  names : ∀ place ∈ t.places, ∀ name ∈ place, IsName name

theorem wayText_cons (name next : String) (names : List String) :
    (wayText (name :: next :: names)).toList =
      name.toList ++ '/' :: (wayText (next :: names)).toList := by
  simp [wayText, String.toList_intercalate]

theorem wayText_singleton (name : String) : (wayText [name]).toList = name.toList := by
  simp [wayText]

theorem ends_wayText (hnames : ∀ name ∈ names, IsName name) (hne : names ≠ []) :
    (wayText names).toList ≠ [] ∧ (wayText names).toList.head? ≠ some '/' ∧
      (wayText names).toList.getLast? ≠ some '/' := by
  induction names with
  | nil => exact absurd rfl hne
  | cons name names ih =>
    have hname := hnames name List.mem_cons_self
    cases names with
    | nil =>
      rw [wayText_singleton]
      exact ⟨hname.toList_ne_nil, fun h => hname.plain (List.mem_of_mem_head? h),
        fun h => hname.plain (List.mem_of_getLast? h)⟩
    | cons next names =>
      obtain ⟨hrest, -, hlast⟩ := ih (fun n hn => hnames n (List.mem_cons_of_mem name hn))
        (List.cons_ne_nil _ _)
      rw [wayText_cons]
      refine ⟨by simp, ?_, ?_⟩
      · rw [List.head?_append_of_ne_nil _ hname.toList_ne_nil]
        exact fun h => hname.plain (List.mem_of_mem_head? h)
      · rwa [List.getLast?_append_cons, List.getLast?_cons_of_ne_nil hrest]

theorem words_wayText (hnames : ∀ name ∈ names, IsName name) :
    Path.words (wayText names).toList = names.map String.toList := by
  have htext : (wayText names).toList = ['/'].intercalate (names.map String.toList) := by
    simp [wayText, String.toList_intercalate]
  rw [htext, Path.words, wordsBy_intercalate]
  intro w hw
  obtain ⟨name, hname, rfl⟩ := List.mem_map.1 hw
  exact ⟨(hnames name hname).toList_ne_nil, (hnames name hname).plain⟩

theorem join_way (hdir : dir.text.toList ≠ []) {w : String} (hw : w.toList.head? ≠ some '/') :
    ∃ a, (dir.join ⟨w⟩).text.toList = a ++ '/' :: w.toList ∧
      Path.words dir.text.toList = Path.words a ∧
      (dir.join ⟨w⟩).text.toList.head? = dir.text.toList.head? := by
  have hrelative : (Path.isAbsolute ⟨w⟩ || dir.text.isEmpty) = false := by
    simp [Path.isAbsolute, hw, ← String.toList_eq_nil_iff, hdir]
  rw [Path.join, hrelative]
  -- a directory with a slash at its end is joined as it is
  by_cases hlast : dir.text.toList.getLast? = some '/'
  · obtain ⟨a, ha⟩ := List.getLast?_eq_some_iff.1 hlast
    have htext : (dir.text ++ w).toList = a ++ '/' :: w.toList := by
      rw [String.toList_append, ha, List.append_assoc]
      rfl
    refine ⟨a, ?_, ?_, ?_⟩
    · simpa [hlast] using htext
    · rw [ha, Path.words, wordsBy_append rfl]
      exact List.append_nil _
    · simp [htext, ha]
  · refine ⟨dir.text.toList, ?_, rfl, ?_⟩
    · simp [hlast]
    · simp [hlast, List.head?_append_of_ne_nil _ hdir]

theorem follow_names (ht : t.Unlinked) {links : Nat} (hnames : ∀ name ∈ names, IsName name)
    (h : t.follow links place names = .ok q) : q = place ++ names := by
  induction names generalizing place with
  | nil =>
    rw [follow] at h
    rw [List.append_nil]
    exact (Except.ok.inj h).symm
  | cons name names ih =>
    have hname := hnames name List.mem_cons_self
    rw [← List.singleton_append, follow_append ht] at h
    obtain ⟨r, hr, h⟩ := bind_eq_ok.1 h
    obtain rfl := follow_name ht (not_or.2 ⟨hname.here, hname.above⟩) hr
    have hrest := ih (fun n hn => hnames n (List.mem_cons_of_mem name hn)) h
    rw [hrest, List.append_assoc, List.singleton_append]

theorem follow_words (ht : t.Unlinked) (h : t.locate dir = .ok place) :
    t.follow maxLinks (start dir t.workingPlace)
      ((Path.words dir.text.toList).map String.ofList) = .ok place := by
  have hfollow := follow_of_locate h
  rw [steps] at hfollow
  split at hfollow
  · rw [follow_append ht] at hfollow
    obtain ⟨r, hr, hhere⟩ := bind_eq_ok.1 hfollow
    rwa [follow_here hhere]
  · exact hfollow

theorem locate_join (ht : t.Unlinked) (hdir : t.locate dir = .ok place)
    (hnames : ∀ name ∈ names, IsName name) (hne : names ≠ [])
    (h : t.locate (dir.join ⟨wayText names⟩) = .ok q) : q = place ++ names := by
  obtain ⟨hway, hhead, hlast⟩ := ends_wayText hnames hne
  have hdirText : dir.text.toList ≠ [] := by
    intro hnil
    rw [locate, String.isEmpty_iff.2 (String.toList_eq_nil_iff.1 hnil)] at hdir
    obtain ⟨_, -, hdir⟩ := bind_eq_ok.1 hdir
    cases hdir
  obtain ⟨a, htext, hwords, hstart⟩ := join_way hdirText hhead
  have hsteps : steps (dir.join ⟨wayText names⟩) =
      (Path.words dir.text.toList).map String.ofList ++ names := by
    have hslash : (dir.join ⟨wayText names⟩).text.toList.getLast? ≠ some '/' := by
      rwa [htext, List.getLast?_append_cons, List.getLast?_cons_of_ne_nil hway]
    have hback : (names.map String.toList).map String.ofList = names := by
      simp [Function.comp_def]
    rw [steps, if_neg hslash, htext, Path.words, wordsBy_append rfl, ← Path.words, ← Path.words,
      words_wayText hnames, List.map_append, hwords, hback]
  have hfollow := follow_of_locate h
  rw [hsteps, follow_append ht, start, Path.isAbsolute, hstart, ← Path.isAbsolute, ← start,
    follow_words ht hdir] at hfollow
  exact follow_names ht hnames hfollow

theorem head_of_mem_waysBy {name : String} {below : List (List String)} {e : Option Entry}
    {names : List String} (h : names ∈ waysBy name below e) :
    ∃ rest, names = name :: rest ∧ (rest = [] ∨ rest ∈ below) := by
  unfold waysBy at h
  split at h
  · exact ⟨[], List.mem_singleton.1 h, Or.inl rfl⟩
  · obtain ⟨rest, hrest, rfl⟩ := List.mem_map.1 h
    exact ⟨rest, rfl, Or.inr hrest⟩
  · cases h

theorem mem_namesIn {name : String} (h : name ∈ t.namesIn place) :
    place ++ [name] ∈ t.places := by
  rw [namesIn_eq, (List.mergeSort_perm _ _).mem_iff] at h
  obtain ⟨p, hp, hname⟩ := List.mem_filterMap.1 h
  rw [Option.ite_none_right_eq_some] at hname
  obtain ⟨hplace, hlast⟩ := hname
  obtain ⟨names, rfl⟩ := List.getLast?_eq_some_iff.1 hlast
  rwa [← hplace, List.dropLast_concat]

theorem nodup_namesIn (hnodup : t.places.Nodup) (place : Place) : (t.namesIn place).Nodup := by
  rw [namesIn_eq, (List.mergeSort_perm _ _).nodup_iff]
  refine hnodup.filterMap fun p p' name hp hp' => ?_
  rw [Option.mem_def, Option.ite_none_right_eq_some] at hp hp'
  obtain ⟨names, rfl⟩ := List.getLast?_eq_some_iff.1 hp.2
  obtain ⟨names', rfl⟩ := List.getLast?_eq_some_iff.1 hp'.2
  have heq := hp.1.trans hp'.1.symm
  rw [List.dropLast_concat, List.dropLast_concat] at heq
  rw [heq]

theorem nodup_ways (hnodup : t.places.Nodup) (depth : Nat) (place : Place) :
    (t.ways depth place).Nodup := by
  induction depth generalizing place with
  | zero => exact List.nodup_nil
  | succ depth ih =>
    rw [ways, List.nodup_flatMap]
    refine ⟨fun name _ => ?_, (nodup_namesIn hnodup place).imp fun hne => ?_⟩
    · unfold waysBy
      split
      · exact List.nodup_singleton _
      · exact (ih _).map (List.cons_injective)
      · exact List.nodup_nil
    · -- ways with different first names are different
      intro names hnames hnames'
      obtain ⟨_, rfl, -⟩ := head_of_mem_waysBy hnames
      obtain ⟨_, hcons, -⟩ := head_of_mem_waysBy hnames'
      exact hne (List.cons.inj hcons).1

theorem mem_ways (hnames : ∀ place ∈ t.places, ∀ name ∈ place, IsName name) {depth : Nat}
    {names : List String} (h : names ∈ t.ways depth place) :
    names ≠ [] ∧ ∀ name ∈ names, IsName name := by
  induction depth generalizing place names with
  | zero => cases h
  | succ depth ih =>
    obtain ⟨name, hname, hmem⟩ := List.mem_flatMap.1 h
    obtain ⟨rest, rfl, hrest⟩ := head_of_mem_waysBy hmem
    have hfirst : IsName name := hnames _ (mem_namesIn hname) name (by simp)
    refine ⟨List.cons_ne_nil _ _, fun n hn => ?_⟩
    rcases List.mem_cons.1 hn with rfl | hn
    · exact hfirst
    · rcases hrest with rfl | hrest
      · cases hn
      · exact (ih hrest).2 n hn

def Apart (t : FileTree) (paths : List Path) : Prop :=
  paths.Pairwise fun p q => ∀ place, t.locate p = .ok place → t.locate q ≠ .ok place

theorem found_apart (ht : t.Unlinked) (hwf : t.WellFormed) (dir : Path) (files : FileSet) :
    t.Apart (t.found dir files) := by
  rw [Apart, found]
  split
  · exact List.Pairwise.nil
  · rename_i place hdir
    split
    · rw [List.pairwise_map]
      have hperm := List.mergeSort_perm
        ((t.ways t.maxDepth place).filter fun names => files.accepts (wayText names)) wayLe
      have hnodup := hperm.nodup_iff.2 ((nodup_ways hwf.nodup t.maxDepth place).filter _)
      refine List.Pairwise.imp_of_mem ?_ hnodup
      intro a b ha hb hne r hr hr'
      have hways : ∀ names ∈ ((t.ways t.maxDepth place).filter fun names =>
          files.accepts (wayText names)).mergeSort wayLe,
          names ≠ [] ∧ ∀ name ∈ names, IsName name :=
        fun names hnames => mem_ways hwf.names (List.mem_of_mem_filter (hperm.subset hnames))
      have hplace := locate_join ht hdir (hways a ha).2 (hways a ha).1 hr
      have hplace' := locate_join ht hdir (hways b hb).2 (hways b hb).1 hr'
      exact hne (List.append_cancel_left (hplace.symm.trans hplace'))
    · exact List.Pairwise.nil

end FileTree
end MarkupSplice
