import Mathlib.Data.List.Sort
import Mathlib.Data.String.Basic
import MarkupSplice.Proofs.FileTree.Apart
import MarkupSplice.Proofs.Path.Matching

/-!
# Which files a search finds

A search finds the files that names lead down to through directories and that
its patterns accept, and no others, each once and in the order of their names
(`discover_exact`). The search goes as deep as the tree does, as the
directories on the way to a file all have places of their own
(`LeadsToFile.length_le`).
-/
namespace MarkupSplice
open scoped List

namespace FileTree

variable {t : FileTree} {dir : Path} {place : Place} {names : List String} {depth : Nat}
  {files files' : FileSet}

/-- Whether names lead from a place through directories down to a file. -/
structure LeadsToFile (t : FileTree) (place : Place) (names : List String) : Prop where
  through : ∀ front, front <+: names → front ≠ names → t.isDirectoryAt (place ++ front) = true
  file : ∃ content, t.get? (place ++ names) = some (.file content)

theorem isDirectoryAt_iff : t.isDirectoryAt place = true ↔ t.get? place = some .directory := by
  rw [isDirectoryAt, beq_iff_eq]

theorem mem_namesIn_of_get? {name : String} {e : Entry} (h : t.get? (place ++ [name]) = some e) :
    name ∈ t.namesIn place := by
  have hplace : place ++ [name] ∈ t.places := mem_places (by simp) h
  rw [namesIn_eq, (List.mergeSort_perm _ _).mem_iff]
  exact List.mem_filterMap.2 ⟨_, hplace, by simp⟩

theorem leadsToFile_cons {name : String} : t.LeadsToFile place (name :: names) ↔
    t.isDirectoryAt place = true ∧ t.LeadsToFile (place ++ [name]) names := by
  constructor
  · intro h
    have hplace := h.through [] (List.nil_prefix) (List.cons_ne_nil _ _).symm
    rw [List.append_nil] at hplace
    refine ⟨hplace, fun front hfront hne => ?_, by simpa using h.file⟩
    have hdir := h.through (name :: front) ((List.prefix_cons_inj name).2 hfront)
      (by simpa using hne)
    simpa using hdir
  · rintro ⟨hplace, h⟩
    refine ⟨fun front hfront hne => ?_, by simpa using h.file⟩
    rcases List.prefix_cons_iff.1 hfront with rfl | ⟨rest, rfl, hrest⟩
    · simpa using hplace
    · have hdir := h.through rest hrest (fun heq => hne (by rw [heq]))
      simpa using hdir

theorem LeadsToFile.exists_entry (h : t.LeadsToFile place names) {front : List String}
    (hfront : front <+: names) : ∃ e, t.get? (place ++ front) = some e := by
  by_cases heq : front = names
  · obtain ⟨content, hfile⟩ := h.file
    exact ⟨_, heq ▸ hfile⟩
  · exact ⟨_, isDirectoryAt_iff.1 (h.through front hfront heq)⟩

/-- No way down is longer than the tree has entries. -/
theorem LeadsToFile.length_le (h : t.LeadsToFile place names) :
    names.length ≤ t.entries.length := by
  let fronts := (List.range names.length).map fun n => place ++ names.take (n + 1)
  have hnodup : fronts.Nodup := by
    refine List.nodup_range.map_on fun m hm n hn heq => ?_
    have hlength := congrArg List.length (List.append_cancel_left heq)
    simp only [List.mem_range, List.length_take] at hm hn hlength
    omega
  have hplaces : fronts ⊆ t.places := by
    intro front hfront
    obtain ⟨n, hn, rfl⟩ := List.mem_map.1 hfront
    obtain ⟨e, he⟩ := h.exists_entry (List.take_prefix (n + 1) names)
    have hne : names.take (n + 1) ≠ [] := by
      rw [Ne, List.take_eq_nil_iff]
      rintro (hzero | rfl)
      · cases hzero
      · cases hn
    exact mem_places (by simp [hne]) he
  have hlength := hnodup.length_le_of_subset hplaces
  simpa [fronts, places] using hlength

theorem mem_ways_iff (hplace : t.isDirectoryAt place = true) : names ∈ t.ways depth place ↔
    names ≠ [] ∧ names.length ≤ depth ∧ t.LeadsToFile place names := by
  induction depth generalizing place names with
  | zero =>
    have hne : names ≠ [] → ¬names.length ≤ 0 := by simp
    simpa [ways] using fun h h' => absurd h' h
  | succ depth ih =>
    rw [ways, List.mem_flatMap]
    constructor
    · rintro ⟨name, hname, hmem⟩
      unfold waysBy at hmem
      split at hmem
      · rename_i content hfile
        rw [List.mem_singleton] at hmem
        subst hmem
        refine ⟨List.cons_ne_nil _ _, by simp, leadsToFile_cons.2
          ⟨hplace, fun front hfront hne => ?_, ⟨content, by simpa using hfile⟩⟩⟩
        exact absurd (List.prefix_nil.1 hfront) hne
      · rename_i hdir
        obtain ⟨rest, hrest, rfl⟩ := List.mem_map.1 hmem
        obtain ⟨-, hlength, hleads⟩ := (ih (isDirectoryAt_iff.2 hdir)).1 hrest
        exact ⟨List.cons_ne_nil _ _, Nat.succ_le_succ hlength, leadsToFile_cons.2 ⟨hplace, hleads⟩⟩
      · cases hmem
    · rintro ⟨hne, hlength, hleads⟩
      cases names with
      | nil => exact absurd rfl hne
      | cons name rest =>
        have hbehind := (leadsToFile_cons.1 hleads).2
        obtain ⟨e, he⟩ := hbehind.exists_entry (List.nil_prefix)
        rw [List.append_nil] at he
        refine ⟨name, mem_namesIn_of_get? he, ?_⟩
        cases rest with
        | nil =>
          obtain ⟨content, hfile⟩ := hbehind.file
          rw [List.append_nil] at hfile
          rw [hfile]
          exact List.mem_singleton.2 rfl
        | cons next rest =>
          have hdir := hbehind.through [] (List.nil_prefix) (List.cons_ne_nil _ _).symm
          rw [List.append_nil] at hdir
          rw [isDirectoryAt_iff.1 hdir]
          exact List.mem_map.2 ⟨_, (ih hdir).2
            ⟨List.cons_ne_nil _ _, Nat.le_of_succ_le_succ hlength, hbehind⟩, rfl⟩

theorem length_le_maxDepth (h : t.LeadsToFile place names) : names.length ≤ t.maxDepth := by
  have hlength := h.length_le
  have hdepth : t.entries.length + 2 ≤ t.maxDepth := Nat.le_mul_of_pos_left _ (by omega)
  omega

theorem lt_of_compare {a b : List String} (h : compare a b = .lt) : a < b := by
  rw [List.compare_eq_compareLex] at h
  induction a generalizing b with
  | nil =>
    cases b with
    | nil => cases h
    | cons name names => exact List.nil_lt_cons _ _
  | cons name names ih =>
    cases b with
    | nil => cases h
    | cons name' names' =>
      rw [List.compareLex_cons_cons, Ordering.then_eq_lt] at h
      rw [List.cons_lt_cons_iff]
      rcases h with h | ⟨heq, h⟩
      · exact Or.inl (Std.LawfulLTCmp.eq_lt_iff_lt.1 h)
      · exact Or.inr ⟨Std.compare_eq_iff_eq.1 heq, ih h⟩

theorem pairwise_sorted (ways : List (List String)) :
    (ways.mergeSort wayLe).Pairwise fun a b => wayLe a b = true := by
  refine List.pairwise_mergeSort (fun a b c hab hbc => ?_) (fun a b => ?_) ways
  · exact Std.TransCmp.isLE_trans hab hbc
  · simp only [wayLe, Bool.or_eq_true]
    have hswap : compare b a = (compare a b).swap := Std.OrientedCmp.eq_swap
    rw [hswap]
    cases compare a b <;> simp

def foundWays (t : FileTree) (dir : Path) (files : FileSet) : List (List String) :=
  match t.locate dir with
  | .error _ => []
  | .ok place =>
    if t.isDirectoryAt place then
      ((t.ways t.maxDepth place).filter fun names => files.accepts (wayText names)).mergeSort wayLe
    else []

theorem found_eq (t : FileTree) (dir : Path) (files : FileSet) : t.found dir files =
    (t.foundWays dir files).map fun names => dir.join ⟨wayText names⟩ := by
  rw [found, foundWays]
  cases t.locate dir with
  | error e => rfl
  | ok place =>
    by_cases hplace : t.isDirectoryAt place = true
    · simp only [if_pos hplace]
    · simp only [if_neg hplace, List.map_nil]

theorem mem_foundWays : names ∈ t.foundWays dir files ↔
    names ≠ [] ∧ (∃ place, t.locate dir = .ok place ∧ t.LeadsToFile place names) ∧
      files.accepts (wayText names) = true := by
  rw [foundWays]
  cases hlocate : t.locate dir with
  | error e => simp
  | ok place =>
    by_cases hplace : t.isDirectoryAt place = true
    · simp only [hplace, if_true, (List.mergeSort_perm _ _).mem_iff, List.mem_filter,
        mem_ways_iff hplace, Except.ok.injEq, exists_eq_left']
      constructor
      · rintro ⟨⟨hne, -, hleads⟩, haccepts⟩
        exact ⟨hne, hleads, haccepts⟩
      · rintro ⟨hne, hleads, haccepts⟩
        exact ⟨⟨hne, length_le_maxDepth hleads, hleads⟩, haccepts⟩
    · simp only [hplace, Except.ok.injEq, exists_eq_left']
      constructor
      · intro h
        cases h
      · -- a way that is not empty begins in a directory
        rintro ⟨hne, hleads, -⟩
        have hdir := hleads.through [] (List.nil_prefix) hne.symm
        rw [List.append_nil] at hdir
        exact absurd hdir hplace

theorem pairwise_foundWays (hnodup : t.places.Nodup) (dir : Path) (files : FileSet) :
    (t.foundWays dir files).Pairwise (· < ·) := by
  rw [foundWays]
  split
  · exact List.Pairwise.nil
  · split
    · rename_i place _ _
      have hways := (nodup_ways hnodup t.maxDepth place).filter
        fun names => files.accepts (wayText names)
      have hapart := (List.mergeSort_perm _ wayLe).nodup_iff.2 hways
      refine (pairwise_sorted _).imp₂ (fun a b hle hne => lt_of_compare ?_) hapart
      rw [wayLe] at hle
      cases hcompare : compare a b with
      | lt => rfl
      | eq => exact absurd (Std.compare_eq_iff_eq.1 hcompare) hne
      | gt =>
        rw [hcompare] at hle
        cases hle
    · exact List.Pairwise.nil

theorem foundWays_sublist (hnodup : t.places.Nodup)
    (h : ∀ path, files.accepts path = true → files'.accepts path = true) :
    t.foundWays dir files <+ t.foundWays dir files' := by
  have hsorted := pairwise_foundWays hnodup dir files
  refine List.sublist_of_subperm_of_pairwise (r := (· < ·))
    (List.subperm_of_subset hsorted.nodup fun names hnames => ?_) hsorted
    (pairwise_foundWays hnodup dir files')
  rw [mem_foundWays] at hnames ⊢
  exact ⟨hnames.1, hnames.2.1, h _ hnames.2.2⟩

theorem exists_join (dir : Path) : ∃ front, ∀ w : String, w.toList.head? ≠ some '/' →
    dir.join ⟨w⟩ = ⟨front ++ w⟩ := by
  by_cases hdir : dir.text.isEmpty = true
  · exact ⟨"", fun w _ => by simp [Path.join, hdir]⟩
  · by_cases hlast : dir.text.toList.getLast? = some '/'
    · exact ⟨dir.text, fun w hw => by simp [Path.join, Path.isAbsolute, hdir, hlast, hw]⟩
    · exact ⟨dir.text ++ "/", fun w hw => by simp [Path.join, Path.isAbsolute, hdir, hlast, hw]⟩

theorem join_way_inj {a b : List String} (ha : ∀ name ∈ a, IsName name) (hane : a ≠ [])
    (hb : ∀ name ∈ b, IsName name) (hbne : b ≠ [])
    (h : dir.join ⟨wayText a⟩ = dir.join ⟨wayText b⟩) : a = b := by
  obtain ⟨front, hfront⟩ := exists_join dir
  rw [hfront _ (ends_wayText ha hane).2.1, hfront _ (ends_wayText hb hbne).2.1] at h
  have htext : (wayText a).toList = (wayText b).toList := by
    have hchars := congrArg (fun p : Path => p.text.toList) h
    simpa using hchars
  have hwords := congrArg Path.words htext
  rw [words_wayText ha, words_wayText hb] at hwords
  exact List.map_injective_iff.2 (fun _ _ => String.toList_injective) hwords

theorem nodup_found (hwf : t.WellFormed) (dir : Path) (files : FileSet) :
    (t.found dir files).Nodup := by
  have hways : ∀ names ∈ t.foundWays dir files, names ≠ [] ∧ ∀ name ∈ names, IsName name := by
    intro names hnames
    obtain ⟨hne, ⟨place, -, hleads⟩, -⟩ := mem_foundWays.1 hnames
    obtain ⟨content, hfile⟩ := hleads.file
    have hplace := mem_places (by simp [hne]) hfile
    exact ⟨hne, fun name hname => hwf.names _ hplace name (List.mem_append_right _ hname)⟩
  rw [found_eq]
  refine List.Nodup.map_on (fun a ha b hb heq => ?_) (pairwise_foundWays hwf.nodup dir files).nodup
  exact join_way_inj (hways a ha).2 (hways a ha).1 (hways b hb).2 (hways b hb).1 heq

theorem found_sublist (hnodup : t.places.Nodup)
    (h : ∀ path, files.accepts path = true → files'.accepts path = true) :
    t.found dir files <+ t.found dir files' := by
  rw [found_eq, found_eq]
  exact (foundWays_sublist hnodup h).map _

/-- Below a directory without links, exactly the files are found that the
patterns accept, in order and each once. More patterns to include never lose a
file, unless they stand in for the default, and more patterns to exclude never
add one. -/
theorem discover_exact (hwf : t.WellFormed) (dir : Path)
    (hlinks : ∀ place, t.locate dir = .ok place → t.UnlinkedBelow place) (files : FileSet) :
    ∃ ways : List (List String), ∃ paths : List Path,
      t.discover dir files = .ok paths ∧
      paths = ways.map (fun names => dir.join ⟨wayText names⟩) ∧
      ways.Pairwise (· < ·) ∧
      paths.Nodup ∧
      (∀ names, names ∈ ways ↔
        names ≠ [] ∧ (∃ place, t.locate dir = .ok place ∧ t.LeadsToFile place names) ∧
        (∃ p ∈ files.patterns, FileSet.MatchedBy (wayText names) p) ∧
        ¬∃ p ∈ files.excludes, FileSet.MatchedBy (wayText names) p) ∧
      (∀ includes, files.includes ≠ [] → files.includes ⊆ includes →
        ∃ more, t.discover dir { files with includes } = .ok more ∧ paths <+ more) ∧
      (∀ excludes, files.excludes ⊆ excludes →
        ∃ fewer, t.discover dir { files with excludes } = .ok fewer ∧ fewer <+ paths) := by
  refine ⟨t.foundWays dir files, t.found dir files, discover_eq_of_below hlinks files,
    found_eq t dir files, pairwise_foundWays hwf.nodup dir files, nodup_found hwf dir files,
    fun names => ?_, fun includes hne hsub => ?_, fun excludes hsub => ?_⟩
  · rw [mem_foundWays, FileSet.accepts_iff]
  · refine ⟨_, discover_eq_of_below hlinks _, found_sublist hwf.nodup fun path haccepts => ?_⟩
    obtain ⟨⟨p, hp, hmatch⟩, hexcludes⟩ := FileSet.accepts_iff.1 haccepts
    refine FileSet.accepts_iff.2 ⟨⟨p, ?_, hmatch⟩, hexcludes⟩
    rw [FileSet.patterns, if_neg (by simpa using hne)] at hp
    rw [FileSet.patterns, if_neg (by simpa using List.ne_nil_of_mem (hsub hp))]
    exact hsub hp
  · refine ⟨_, discover_eq_of_below hlinks _, found_sublist hwf.nodup fun path haccepts => ?_⟩
    obtain ⟨hincludes, hexcludes⟩ := FileSet.accepts_iff.1 haccepts
    refine FileSet.accepts_iff.2 ⟨hincludes, ?_⟩
    rintro ⟨p, hp, hmatch⟩
    exact hexcludes ⟨p, hsub hp, hmatch⟩

theorem discover_exact_pages :
    let t : FileTree := ⟨[(["d"], .directory), (["d", "x.txt"], .file []),
      (["d", "a"], .directory), (["d", "a", "z.html"], .file [])], []⟩
    t.WellFormed ∧ t.Unlinked ∧
      ∃ ways : List (List String),
        t.discover ⟨"/d"⟩ ⟨[], []⟩ =
          .ok (ways.map fun names => Path.join ⟨"/d"⟩ ⟨wayText names⟩) ∧
        ways.Pairwise (· < ·) ∧ ["a", "z.html"] ∈ ways ∧ ["x.txt"] ∉ ways := by
  intro t
  have hwf : t.WellFormed := ⟨by decide, by decide +kernel⟩
  have hunlinked : t.Unlinked := unlinked_of_entries (by simp [t])
  obtain ⟨ways, paths, hpaths, rfl, hsorted, -, hmem, -⟩ :=
    discover_exact hwf ⟨"/d"⟩ (fun place _ => hunlinked.below place) ⟨[], []⟩
  have hlocate : t.locate ⟨"/d"⟩ = .ok ["d"] := by
    rw [locate_eq hunlinked]
    decide +kernel
  have hleads : t.LeadsToFile ["d"] ["a", "z.html"] := by
    refine leadsToFile_cons.2 ⟨by decide +kernel, leadsToFile_cons.2 ⟨by decide +kernel, ?_⟩⟩
    exact ⟨fun front hfront hne => absurd (List.prefix_nil.1 hfront) hne, [], by decide +kernel⟩
  have hpage : (⟨[], []⟩ : FileSet).accepts (wayText ["a", "z.html"]) = true := by
    decide +kernel
  have hother : (⟨[], []⟩ : FileSet).accepts (wayText ["x.txt"]) = false := by decide +kernel
  refine ⟨hwf, hunlinked, ways, hpaths, hsorted, ?_, fun h => ?_⟩
  · exact (hmem _).2 ⟨by simp, ⟨_, hlocate, hleads⟩, FileSet.accepts_iff.1 hpage⟩
  · have haccepts := FileSet.accepts_iff.2 ((hmem _).1 h).2.2
    rw [hother] at haccepts
    cases haccepts

end FileTree
end MarkupSplice
