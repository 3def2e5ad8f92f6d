import MarkupSplice.Path.Route
import MarkupSplice.Proofs.FileTree.Apart

/-!
# Routes and the texts that they write

A route walks up and then down, so walking it again from somewhere is taking off
names and adding others (`walk_steps`). The way from one route to another, walked
from the end of the first one, leads to the second one (`walk_relative`), unless
the first one begins further up: no walk leads back down from there
(`up_le_walk`). What a route writes is read as the parts that it walks
(`words_toText`, `moves_of_words`).
-/
namespace MarkupSplice
open Text
open FileTree (IsName)

def Part.isName : Part → Bool
  | .name _ => true
  | _ => false

namespace Path

theorem words_append (a b : List Char) : words (a ++ '/' :: b) = words a ++ words b :=
  wordsBy_append rfl a b

def moves (p : Path) : List Part := ((words p.text.toList).filter (· ≠ ['.'])).map partOf

theorem parts_cases (p : Path) :
    p.parts = .root :: p.moves ∨ p.parts = .here :: p.moves ∨ p.parts = p.moves := by
  unfold parts
  dsimp only
  split
  · exact Or.inl rfl
  · split
    · exact Or.inr (Or.inl rfl)
    · exact Or.inr (Or.inr rfl)

theorem name_of_mem_parts {p : Path} {n : String} (h : .name n ∈ p.parts) :
    IsName n ∧ ∀ c ∈ n.toList, c ∈ p.text.toList := by
  have hmoves : Part.name n ∈ p.moves := by
    rcases p.parts_cases with hp | hp | hp <;> simpa [hp] using h
  obtain ⟨w, hw, hpart⟩ := List.mem_map.1 hmoves
  obtain ⟨hword, hhere⟩ := List.mem_filter.1 hw
  obtain ⟨hne, hchars⟩ := mem_wordsBy hword
  rw [partOf] at hpart
  split at hpart
  · cases hpart
  · rename_i habove
    obtain rfl := Part.name.inj hpart
    have hlist : ∀ {s : String}, String.ofList w = s → w = s.toList := fun h => by simp [← h]
    simp only [String.toList_ofList]
    exact ⟨⟨fun hnil => hne (hlist hnil), fun hslash => by simpa using (hchars '/' (by
      simpa using hslash)).2, fun hdot => by simp [hlist hdot] at hhere,
      fun hdots => habove (hlist hdots)⟩, fun c hc => (hchars c hc).1⟩

end Path

namespace Route

variable {r base target : Route} {ps : List Part} {names : List String} {n : String}

def steps (r : Route) : List Part := List.replicate r.up .above ++ r.names.map .name

theorem walk_cons (r : Route) (p : Part) (ps : List Part) :
    r.walk (p :: ps) = (r.step p).walk ps := rfl

theorem walk_append (r : Route) (ps qs : List Part) :
    r.walk (ps ++ qs) = (r.walk ps).walk qs := List.foldl_append

theorem walk_names (r : Route) (names : List String) :
    r.walk (names.map .name) = ⟨r.up, r.names ++ names⟩ := by
  induction names generalizing r with
  | nil => simp [walk]
  | cons n names ih => rw [List.map_cons, walk_cons, ih]; simp [step]

theorem walk_above (r : Route) (k : Nat) :
    r.walk (List.replicate k .above) =
      ⟨r.up + (k - r.names.length), r.names.take (r.names.length - k)⟩ := by
  induction k generalizing r with
  | zero => simp [walk]
  | succ k ih =>
    rw [List.replicate_succ, walk_cons, ih, step]
    by_cases hnames : r.names = []
    · simp [hnames]
      omega
    · have hlength := List.length_pos_of_ne_nil hnames
      simp only [List.isEmpty_iff, hnames, if_false, List.dropLast_eq_take, List.take_take,
        List.length_take, mk.injEq]
      refine ⟨by omega, congrArg (r.names.take ·) (by omega)⟩

theorem walk_steps (r way : Route) :
    r.walk way.steps = ⟨r.up + (way.up - r.names.length),
      r.names.take (r.names.length - way.up) ++ way.names⟩ := by
  rw [steps, walk_append, walk_above, walk_names]

theorem up_le_walk (r : Route) (ps : List Part) : r.up ≤ (r.walk ps).up := by
  induction ps generalizing r with
  | nil => exact Nat.le_refl _
  | cons p ps ih =>
    refine Nat.le_trans ?_ (ih (r.step p))
    cases p with
    | above =>
      rw [step]
      split
      · exact Nat.le_succ _
      · exact Nat.le_refl _
    | _ => exact Nat.le_refl _

theorem mem_names_walk (h : n ∈ (r.walk ps).names) : n ∈ r.names ∨ .name n ∈ ps := by
  induction ps generalizing r with
  | nil => exact Or.inl h
  | cons p ps ih =>
    rcases ih h with hn | hn
    · cases p with
      | above =>
        rw [step] at hn
        split at hn
        · cases hn
        · exact Or.inl (List.dropLast_subset _ hn)
      | name m =>
        rcases List.mem_append.1 hn with hn | hn
        · exact Or.inl hn
        · rw [List.mem_singleton.1 hn]
          exact Or.inr List.mem_cons_self
      | _ => exact Or.inl hn
    · exact Or.inr (List.mem_cons_of_mem p hn)

theorem up_walk_eq_zero (hr : r.up = 0)
    (h : ∀ qs, qs <+: ps → qs.count .above ≤ r.names.length + qs.countP Part.isName) :
    (r.walk ps).up = 0 := by
  induction ps generalizing r with
  | nil => exact hr
  | cons p ps ih =>
    have hcons : ∀ qs, qs <+: ps → (p :: qs).count .above ≤
        r.names.length + (p :: qs).countP Part.isName :=
      fun qs hqs => h (p :: qs) (List.cons_prefix_cons.2 ⟨rfl, hqs⟩)
    rw [walk_cons]
    cases p with
    | above =>
      have hnames : r.names ≠ [] := by
        intro hnil
        simpa [hnil, Part.isName] using hcons [] List.nil_prefix
      have hlength := List.length_pos_of_ne_nil hnames
      have hstep : r.step .above = ⟨r.up, r.names.dropLast⟩ := by simp [step, hnames]
      rw [hstep]
      refine ih hr fun qs hqs => ?_
      have hle := hcons qs hqs
      rw [List.count_cons_self, List.countP_cons_of_neg (by decide)] at hle
      rw [List.length_dropLast]
      omega
    | name n =>
      refine ih hr fun qs hqs => ?_
      have hle := hcons qs hqs
      rw [List.count_cons_of_ne (by simp), List.countP_cons_of_pos rfl] at hle
      simp only [step, List.length_append, List.length_singleton]
      omega
    | root => exact ih hr fun qs hqs => by simpa [step, Part.isName] using hcons qs hqs
    | here => exact ih hr fun qs hqs => by simpa [step, Part.isName] using hcons qs hqs

theorem dropCommon_spec {α : Type} [DecidableEq α] (s t : List α) :
    ∃ common, s = common ++ (dropCommon s t).1 ∧ t = common ++ (dropCommon s t).2 ∧
      ∀ a, (dropCommon s t).1.head? = some a → (dropCommon s t).2.head? ≠ some a := by
  fun_induction dropCommon s t with
  | case1 s a t ih =>
    obtain ⟨common, hs, ht, hhead⟩ := ih
    exact ⟨a :: common, by rw [List.cons_append, ← hs], by rw [List.cons_append, ← ht], hhead⟩
  | case2 a s b t hne => exact ⟨[], rfl, rfl, by simpa using fun h => hne h.symm⟩
  | case3 s t hne =>
    refine ⟨[], rfl, rfl, fun a hs ht => ?_⟩
    obtain ⟨s, rfl⟩ := List.head?_eq_some_iff.1 hs
    obtain ⟨t, rfl⟩ := List.head?_eq_some_iff.1 ht
    exact hne a s a t rfl rfl

theorem walk_relative (h : base.up ≤ target.up) :
    base.walk (base.relative target).steps = target := by
  obtain ⟨common, hbase, htarget, -⟩ := dropCommon_spec base.names target.names
  rw [walk_steps, relative, if_neg (Nat.not_lt.2 h)]
  split
  · rename_i hlt
    have htake : base.names.length - (base.names.length + (target.up - base.up)) = 0 := by omega
    have hup : base.up +
        (base.names.length + (target.up - base.up) - base.names.length) = target.up := by omega
    simp only [hup, htake, List.take_zero, List.nil_append]
  · have hlength := congrArg List.length hbase
    rw [List.length_append] at hlength
    have hup : base.up + ((dropCommon base.names target.names).1.length - base.names.length) =
        target.up := by omega
    have htake : base.names.take
        (base.names.length - (dropCommon base.names target.names).1.length) = common :=
      (congrArg (List.take _) hbase).trans (List.take_left' (by omega))
    simp only [hup, htake, ← htarget]

theorem relative_eq_empty (h : target.up < base.up) : base.relative target = empty := if_pos h

theorem mem_names_relative (h : n ∈ (base.relative target).names) : n ∈ target.names := by
  obtain ⟨common, -, htarget, -⟩ := dropCommon_spec base.names target.names
  rw [relative] at h
  split at h
  · cases h
  · split at h
    · exact h
    · rw [htarget]
      exact List.mem_append_right common h

/-- Whether a route is the way between two ends below one place: up to where the two part, and
down from there. -/
def IsWay (way : Route) (base target : List String) : Prop :=
  ∃ common left, base = common ++ left ∧ target = common ++ way.names ∧ way.up = left.length ∧
    ∀ n, left.head? = some n → way.names.head? ≠ some n

theorem isWay_relative (base target : List String) :
    (relative ⟨0, base⟩ ⟨0, target⟩).IsWay base target := by
  obtain ⟨common, hbase, htarget, hhead⟩ := dropCommon_spec base target
  exact ⟨common, _, hbase, htarget, rfl, hhead⟩

def words (r : Route) : List (List Char) :=
  List.replicate r.up ['.', '.'] ++ r.names.map String.toList

theorem toList_toText (r : Route) : r.toText.toList = ['/'].intercalate r.words := by
  simp [toText, words, String.toList_intercalate]

theorem plain_of_mem_words (hnames : ∀ n ∈ r.names, IsName n) {w : List Char} (hw : w ∈ r.words) :
    w ≠ [] ∧ '/' ∉ w ∧ w ≠ ['.'] := by
  rcases List.mem_append.1 hw with hw | hw
  · rw [List.eq_of_mem_replicate hw]
    decide
  · obtain ⟨n, hn, rfl⟩ := List.mem_map.1 hw
    have hname := hnames n hn
    refine ⟨hname.toList_ne_nil, hname.plain, fun hdot => hname.here ?_⟩
    rw [← String.ofList_toList (s := n), hdot]

theorem map_partOf_words (hnames : ∀ n ∈ r.names, IsName n) :
    r.words.map Path.partOf = r.steps := by
  rw [words, steps, List.map_append, List.map_replicate, List.map_map]
  congr 1
  refine List.map_congr_left fun n hn => ?_
  have habove : n.toList ≠ ['.', '.'] := fun hdots => (hnames n hn).above (by
    rw [← String.ofList_toList (s := n), hdots])
  simp [Path.partOf, habove]

theorem head_toText (hnames : ∀ n ∈ r.names, IsName n) : r.toText.toList.head? ≠ some '/' := by
  rw [toList_toText]
  have hplain := fun w hw => plain_of_mem_words hnames (w := w) hw
  cases hwords : r.words with
  | nil => simp
  | cons w ws =>
    obtain ⟨hne, hslash, -⟩ := hplain w (by simp [hwords])
    have hhead : (['/'].intercalate (w :: ws)).head? = w.head? := by
      cases ws with
      | nil => simp
      | cons v ws =>
        rw [List.intercalate_cons_cons, List.append_assoc, List.head?_append_of_ne_nil _ hne]
    rw [hhead]
    exact fun h => hslash (List.mem_of_mem_head? h)

theorem words_toText (hnames : ∀ n ∈ r.names, IsName n) : Path.words r.toText.toList = r.words := by
  rw [toList_toText, Path.words, wordsBy_intercalate]
  exact fun w hw => ⟨(plain_of_mem_words hnames hw).1, (plain_of_mem_words hnames hw).2.1⟩

theorem moves_of_words {p : Path} (hnames : ∀ n ∈ r.names, IsName n)
    (hwords : Path.words p.text.toList = r.words ∨ Path.words p.text.toList = ['.'] :: r.words) :
    p.moves = r.steps := by
  have hself : r.words.filter (· ≠ ['.']) = r.words :=
    List.filter_eq_self.2 fun w hw => by simpa using (plain_of_mem_words hnames hw).2.2
  rw [Path.moves, ← map_partOf_words hnames]
  rcases hwords with hwords | hwords
  · rw [hwords, hself]
  · rw [hwords, List.filter_cons_of_neg (by simp), hself]

theorem walk_parts (r : Route) (p : Path) : r.walk p.parts = r.walk p.moves := by
  rcases p.parts_cases with h | h | h <;> rw [h] <;> rfl

theorem mem_names_ofPath {p : Path} (h : n ∈ (ofPath p).names) :
    IsName n ∧ ∀ c ∈ n.toList, c ∈ p.text.toList :=
  Path.name_of_mem_parts ((mem_names_walk h).resolve_left List.not_mem_nil)

end Route
end MarkupSplice
