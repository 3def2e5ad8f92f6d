import MarkupSplice.Layout
import MarkupSplice.Proofs.Path.Normal

/-!
# Where references lead

A reference is a path that a document's directory is joined with, and it leads to
the normal form of the joined path. Where document and script are taken as they
lie, this is always the normal form of the script's path (`reference_physical`).
Where each is taken below its root, the reference leads to the script unless the
document lies further outside its root than the script does: then there is no way
without the names of the directories in between, and the reference says nothing
(`reference_below_roots`).
-/
namespace MarkupSplice
open Text
open FileTree (IsName)

theorem withSlashes_of_plain {s : String} (h : '\\' ∉ s.toList) : withSlashes s = s := by
  have hsame : ∀ c ∈ s.toList, (if c = '\\' then '/' else c) = c :=
    fun c hc => if_neg fun hslash : c = '\\' => h (hslash ▸ hc)
  rw [← String.toList_inj, withSlashes, String.toList_map, List.map_congr_left hsame, List.map_id']

theorem webForm_cases (s : String) :
    (webForm s = withSlashes s ∧ ((withSlashes s).toList.head? = some '.' ∨
      (withSlashes s).toList.head? = some '/')) ∨ webForm s = "./" ++ withSlashes s := by
  unfold webForm
  dsimp only
  split
  · rename_i h
    exact Or.inl ⟨rfl, Or.inr h⟩
  · rename_i h
    exact Or.inl ⟨rfl, Or.inl h⟩
  · exact Or.inr rfl

theorem head_webForm (s : String) :
    (webForm s).toList.head? = some '.' ∨ (webForm s).toList.head? = some '/' := by
  rcases webForm_cases s with ⟨hs, hhead⟩ | hs
  · rwa [hs]
  · simp [hs]

namespace Route

variable {r document script : Route} {dir : Path}

theorem plain_toText (hplain : ∀ n ∈ r.names, '\\' ∉ n.toList) : '\\' ∉ r.toText.toList := by
  rw [toList_toText]
  intro hmem
  rcases mem_intercalate hmem with hslash | ⟨w, hw, hmem⟩
  · cases hslash
  · rcases List.mem_append.1 hw with hw | hw
    · rw [List.eq_of_mem_replicate hw] at hmem
      revert hmem
      decide
    · obtain ⟨n, hn, rfl⟩ := List.mem_map.1 hw
      exact hplain n hn hmem

theorem moves_webForm (hnames : ∀ n ∈ r.names, IsName n)
    (hplain : ∀ n ∈ r.names, '\\' ∉ n.toList) :
    (Path.mk (webForm r.toText)).isAbsolute = false ∧
      (Path.mk (webForm r.toText)).moves = r.steps := by
  have hwords := words_toText hnames
  rcases webForm_cases r.toText with ⟨h, -⟩ | h <;>
    rw [h, withSlashes_of_plain (plain_toText hplain)]
  · refine ⟨?_, moves_of_words hnames (Or.inl hwords)⟩
    simpa [Path.isAbsolute] using head_toText hnames
  · have htext : ("./" ++ r.toText).toList = ['.'] ++ '/' :: r.toText.toList := by simp
    refine ⟨by simp [Path.isAbsolute], moves_of_words hnames (Or.inr ?_)⟩
    rw [htext, Path.words_append, hwords]
    rfl

theorem parent_of_up (h : r.up = 0) : r.parent = ⟨0, r.names.dropLast⟩ := by
  rw [parent, h]
  split
  · rename_i hnil
    rw [List.isEmpty_iff.1 hnil]
    rfl
  · rfl

section Between

variable (hnames : ∀ n ∈ script.names, IsName n) (hplain : ∀ n ∈ script.names, '\\' ∉ n.toList)

include hnames hplain

theorem ofPath_join_between (dir : Path) (document : Route) :
    ofPath (dir.join ⟨Layout.between document script⟩) =
      (ofPath dir).walk (document.parent.relative script).steps := by
  obtain ⟨hrelative, hmoves⟩ := moves_webForm (r := document.parent.relative script)
    (fun n hn => hnames n (mem_names_relative hn)) fun n hn => hplain n (mem_names_relative hn)
  rw [Layout.between, Path.ofPath_join hrelative, hmoves]

theorem join_between_iff (hdir : dir.NormalizesTo document.parent) :
    (dir.join ⟨Layout.between document script⟩).NormalizesTo script ↔
      document.parent.up ≤ script.up := by
  rw [Path.normalizesTo_iff, ofPath_join_between hnames hplain, Path.normalizesTo_iff.1 hdir]
  exact ⟨fun h => h ▸ up_le_walk document.parent _, walk_relative⟩

/-- Seen from the place above the document: a route without names has no other parent than the
place above it, which is not the one that its reference is worked out for. -/
theorem join_between_above_iff (hdir : dir.NormalizesTo (document.step .above)) :
    (dir.join ⟨Layout.between document script⟩).NormalizesTo script ↔
      document.names ≠ [] ∧ document.up ≤ script.up := by
  by_cases hnil : document.names = []
  · simp only [hnil, ne_eq, not_true_eq_false, false_and, iff_false]
    rw [Path.normalizesTo_iff, ofPath_join_between hnames hplain, Path.normalizesTo_iff.1 hdir]
    intro hwalk
    have habove : document.step .above = ⟨document.up + 1, []⟩ := by simp [step, hnil]
    have hparent : document.parent = ⟨document.up - 1, []⟩ := by simp [parent, hnil]
    have hle := up_le_walk (document.step .above) (document.parent.relative script).steps
    rw [hwalk, habove] at hle
    -- from the directory that the reference is worked out for, the same steps lead to the script
    have hback : document.parent.walk (document.parent.relative script).steps = script := by
      refine walk_relative ?_
      rw [hparent]
      exact Nat.le_trans (Nat.le_trans (Nat.sub_le _ _) (Nat.le_succ _)) hle
    have hup := congrArg up (hwalk.trans hback.symm)
    rw [walk_steps, walk_steps, habove] at hup
    simp only [hparent, List.length_nil, Nat.sub_zero] at hup
    omega
  · have habove : document.step .above = document.parent := by simp [step, parent, hnil]
    have hup : document.parent.up = document.up := by simp [parent, hnil]
    rw [join_between_iff hnames hplain (habove ▸ hdir), hup]
    simp [hnil]

end Between

theorem between_of_lt (h : script.up < document.parent.up) :
    Layout.between document script = "./" := by
  rw [Layout.between, relative_eq_empty h]
  simp [webForm, withSlashes, toText, empty]

end Route

namespace Layout

variable {l : Layout} {document script : Path}

theorem names_plain (h : '\\' ∉ script.text.toList) {n : String}
    (hn : n ∈ (Route.ofPath script).names) : '\\' ∉ n.toList :=
  fun hslash => h ((Route.mem_names_ofPath hn).2 _ hslash)

/-- The reference between two paths as they lie leads from the document's directory to the script,
and it begins as a path does. -/
theorem reference_physical (htemplate : l.template = none) (hphysical : l.physical = true)
    (hdocument : document.Grounded) (hscript : script.Grounded)
    (hplain : '\\' ∉ script.text.toList) :
    ∃ names scriptNames, document.NormalizesTo ⟨0, names⟩ ∧ script.NormalizesTo ⟨0, scriptNames⟩ ∧
      (∀ dir : Path, dir.NormalizesTo ⟨0, names.dropLast⟩ →
        (dir.join ⟨l.reference document script⟩).NormalizesTo ⟨0, scriptNames⟩) ∧
      ((l.reference document script).toList.head? = some '.' ∨
        (l.reference document script).toList.head? = some '/') := by
  have hreference : l.reference document script = between (.ofPath document) (.ofPath script) := by
    simp [reference, htemplate, hphysical]
  have hparent := Route.parent_of_up hdocument.up_ofPath
  have htarget := Path.normalizesTo_iff.1 hscript.normalizesTo
  rw [hreference]
  refine ⟨_, _, hdocument.normalizesTo, hscript.normalizesTo, fun dir hdir => ?_, head_webForm _⟩
  rw [← hparent] at hdir
  rw [← htarget, Route.join_between_iff (fun n hn => (Route.mem_names_ofPath hn).1)
    (fun n hn => names_plain hplain hn) hdir, hparent]
  exact Nat.zero_le _

theorem reference_physical_hidden :
    let l : Layout := ⟨none, ⟨"/"⟩, ⟨"/"⟩, true⟩
    let document : Path := ⟨"/p/a/../x.html"⟩
    let script : Path := ⟨"/p/./.js//b/../c.js"⟩
    document.Grounded ∧ script.Grounded ∧ ∃ names scriptNames,
      document.NormalizesTo ⟨0, names⟩ ∧ script.NormalizesTo ⟨0, scriptNames⟩ ∧
      (∀ dir : Path, dir.NormalizesTo ⟨0, names.dropLast⟩ →
        (dir.join ⟨l.reference document script⟩).NormalizesTo ⟨0, scriptNames⟩) ∧
      ((l.reference document script).toList.head? = some '.' ∨
        (l.reference document script).toList.head? = some '/') :=
  have hdocument : (Path.mk "/p/a/../x.html").Grounded := by decide +kernel
  have hscript : (Path.mk "/p/./.js//b/../c.js").Grounded := by decide +kernel
  ⟨hdocument, hscript, reference_physical rfl rfl hdocument hscript (by decide)⟩

/-- The reference between two ways below roots leads to the script exactly if the document's
directory lies no further up than the script; it says nothing otherwise. -/
theorem reference_below_roots {root scriptRoot names scriptNames : List String}
    (htemplate : l.template = none) (hphysical : l.physical = false)
    (hroot : l.root.Lists root) (hscriptRoot : l.scriptRoot.Lists scriptRoot)
    (hdocument : document.Lists names) (hscript : script.Lists scriptNames)
    (hplain : '\\' ∉ script.text.toList) :
    let way := l.root.relative document
    let target := l.scriptRoot.relative script
    way.IsWay root names ∧ target.IsWay scriptRoot scriptNames ∧
      (∀ dir : Path, dir.NormalizesTo way.parent →
        ((dir.join ⟨l.reference document script⟩).NormalizesTo target ↔
          way.parent.up ≤ target.up)) ∧
      (∀ dir : Path, dir.NormalizesTo (way.step .above) →
        ((dir.join ⟨l.reference document script⟩).NormalizesTo target ↔
          way.names ≠ [] ∧ way.up ≤ target.up)) ∧
      (target.up < way.parent.up → l.reference document script = "./") := by
  intro way target
  have hreference : l.reference document script = between way target := by
    simp [reference, htemplate, hphysical, way, target]
  have hway : way = Route.relative ⟨0, root⟩ ⟨0, names⟩ := by
    simp only [way, Path.relative, hroot.ofPath, hdocument.ofPath]
  have htarget : target = Route.relative ⟨0, scriptRoot⟩ ⟨0, scriptNames⟩ := by
    simp only [target, Path.relative, hscriptRoot.ofPath, hscript.ofPath]
  have hmem : ∀ n ∈ target.names, n ∈ (Route.ofPath script).names :=
    fun n hn => Route.mem_names_relative hn
  have hnames : ∀ n ∈ target.names, IsName n :=
    fun n hn => (Route.mem_names_ofPath (hmem n hn)).1
  have hplain' : ∀ n ∈ target.names, '\\' ∉ n.toList :=
    fun n hn => names_plain hplain (hmem n hn)
  rw [hreference]
  exact ⟨hway ▸ Route.isWay_relative root names,
    htarget ▸ Route.isWay_relative scriptRoot scriptNames,
    fun dir hdir => Route.join_between_iff hnames hplain' hdir,
    fun dir hdir => Route.join_between_above_iff hnames hplain' hdir, Route.between_of_lt⟩

theorem reference_below_roots_outside :
    let l : Layout := ⟨none, ⟨"/p/webapp"⟩, ⟨"/p/target"⟩, false⟩
    let document : Path := ⟨"/p/other/index.html"⟩
    let script : Path := ⟨"/p/target/js/app.js"⟩
    l.root.relative document = ⟨1, ["other", "index.html"]⟩ ∧
      l.scriptRoot.relative script = ⟨0, ["js", "app.js"]⟩ ∧
      l.reference document script = "./" ∧
      ¬((⟨"../other"⟩ : Path).join ⟨l.reference document script⟩).NormalizesTo
        ⟨0, ["js", "app.js"]⟩ := by
  intro l document script
  have hway : l.root.relative document = ⟨1, ["other", "index.html"]⟩ := by decide +kernel
  have htarget : l.scriptRoot.relative script = ⟨0, ["js", "app.js"]⟩ := by decide +kernel
  have hdir : (⟨"../other"⟩ : Path).NormalizesTo ⟨1, ["other"]⟩ := by decide +kernel
  obtain ⟨-, -, hleads, -, hnowhere⟩ := @reference_below_roots l document script
    ["p", "webapp"] ["p", "target"] ["p", "other", "index.html"] ["p", "target", "js", "app.js"]
    rfl rfl ⟨by decide, by decide⟩ ⟨by decide, by decide⟩ ⟨by decide, by decide⟩
    ⟨by decide, by decide⟩ (by decide)
  rw [hway, htarget] at hleads hnowhere
  exact ⟨hway, htarget, hnowhere (by decide), fun h => absurd ((hleads _ hdir).1 h) (by decide)⟩

end Layout
end MarkupSplice
