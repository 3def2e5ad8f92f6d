import Mathlib.Data.List.Basic

/-!
# Computations that may fail

A sequence of computations has a result when each of them has one, and each
member of the result comes from one of them. A reader is such a computation that
leaves a rest, of which its type says that it is shorter; `Yields` says what was
read and what was left, and nothing of lengths.
-/
namespace MarkupSplice

variable {α β ι ε : Type}

theorem bind_eq_ok {x : Except ε α} {g : α → Except ε β} {b : β} :
    x >>= g = .ok b ↔ ∃ a, x = .ok a ∧ g a = .ok b := by
  constructor
  · intro h
    cases x with
    | error err => cases h
    | ok a => exact ⟨a, rfl, h⟩
  · rintro ⟨a, rfl, h⟩
    exact h

theorem toOption_eq_some {x : Except ε α} {a : α} : x.toOption = some a ↔ x = .ok a := by
  cases x <;> simp [Except.toOption]

/-- Whether something was read and `r` was left. -/
def Yields {P : List β → Prop} (result : Except ε (α × Subtype P)) (x : α) (r : List β) : Prop :=
  ∃ h, result = .ok (x, ⟨r, h⟩)

theorem Yields.unique {P : List β → Prop} {result : Except ε (α × Subtype P)} {x y : α}
    {r r' : List β} (h : Yields result x r) (h' : Yields result y r') : x = y ∧ r = r' := by
  obtain ⟨hr, h⟩ := h
  obtain ⟨hr', h'⟩ := h'
  obtain ⟨rfl, heq⟩ := Prod.mk.inj (Except.ok.inj (h.symm.trans h'))
  exact ⟨rfl, congrArg Subtype.val heq⟩

section Yields

variable {P Q : List β → Prop} {x x' : α} {r : List β}

theorem yields_ok {y : Subtype P} :
    Yields (.ok (x, y) : Except ε (α × Subtype P)) x' r ↔ x = x' ∧ y.val = r := by
  constructor
  · rintro ⟨hr, h⟩
    obtain ⟨hx, rfl⟩ := Prod.mk.inj (Except.ok.inj h)
    exact ⟨hx, rfl⟩
  · rintro ⟨rfl, rfl⟩
    exact ⟨y.property, rfl⟩

theorem not_yields_error {e : ε} :
    ¬Yields (.error e : Except ε (α × Subtype P)) x r := by
  rintro ⟨_, h⟩
  cases h

theorem yields_bind {result : Except ε (α × Subtype P)}
    {g : α × Subtype P → Except ε (ι × Subtype Q)} {z : ι} {r' : List β} :
    Yields (result >>= g) z r' ↔ ∃ x r h, result = .ok (x, ⟨r, h⟩) ∧ Yields (g (x, ⟨r, h⟩)) z r' := by
  constructor
  · rintro ⟨hr', h⟩
    obtain ⟨⟨x, r, hr⟩, hresult, h⟩ := bind_eq_ok.1 h
    exact ⟨x, r, hr, hresult, hr', h⟩
  · rintro ⟨x, r, hr, rfl, h⟩
    exact h

end Yields

section MapM

variable {g : ι → Except ε (List α)} {ids : List ι}

theorem exists_mapM (h : ∀ id ∈ ids, ∃ as, g id = .ok as) : ∃ ass, ids.mapM g = .ok ass := by
  induction ids with
  | nil => exact ⟨[], rfl⟩
  | cons id ids ih =>
    obtain ⟨as, has⟩ := h id List.mem_cons_self
    obtain ⟨ass, hass⟩ := ih fun id' hid' => h id' (List.mem_cons_of_mem _ hid')
    exact ⟨as :: ass, by rw [List.mapM_cons, has, hass]; rfl⟩

theorem mem_of_mapM {ass : List (List α)} (h : ids.mapM g = .ok ass) {a : α}
    (ha : a ∈ ass.flatten) : ∃ id ∈ ids, ∃ as, g id = .ok as ∧ a ∈ as := by
  induction ids generalizing ass with
  | nil =>
    obtain rfl : [] = ass := Except.ok.inj h
    cases ha
  | cons id ids ih =>
    rw [List.mapM_cons] at h
    obtain ⟨as, has, h⟩ := bind_eq_ok.1 h
    obtain ⟨rest, hrest, h⟩ := bind_eq_ok.1 h
    obtain rfl : as :: rest = ass := Except.ok.inj h
    rcases List.mem_append.1 ha with ha | ha
    · exact ⟨id, List.mem_cons_self, as, has, ha⟩
    · obtain ⟨id', hid', as', has', ha'⟩ := ih hrest ha
      exact ⟨id', List.mem_cons_of_mem _ hid', as', has', ha'⟩

theorem mapM_eq_ok {k : ι → List α} (h : ∀ id ∈ ids, g id = .ok (k id)) :
    ids.mapM g = .ok (ids.map k) := by
  induction ids with
  | nil => rfl
  | cons id ids ih =>
    rw [List.mapM_cons, h id List.mem_cons_self,
      ih fun id' hid' => h id' (List.mem_cons_of_mem _ hid')]
    rfl

end MapM

section FilterMapM

variable {g : ι → Except ε (Option α)} {ids : List ι}

theorem sublist_of_filterMapM {k : ι → α} (hk : ∀ id a, g id = .ok (some a) → a = k id)
    {as : List α} (h : ids.filterMapM g = .ok as) : as.Sublist (ids.map k) := by
  induction ids generalizing as with
  | nil =>
    obtain rfl : [] = as := Except.ok.inj h
    exact List.Sublist.refl _
  | cons id ids ih =>
    rw [List.filterMapM_cons] at h
    obtain ⟨kept, hid, h⟩ := bind_eq_ok.1 h
    cases kept with
    | none => exact (ih h).cons _
    | some a =>
      obtain ⟨rest, hrest, h⟩ := bind_eq_ok.1 h
      obtain rfl : a :: rest = as := Except.ok.inj h
      rw [List.map_cons, ← hk id a hid]
      exact (ih hrest).cons_cons _

theorem filterMapM_eq_ok {k : ι → Option α} (h : ∀ id ∈ ids, g id = .ok (k id)) :
    ids.filterMapM g = .ok (ids.filterMap k) := by
  induction ids with
  | nil => rfl
  | cons id ids ih =>
    rw [List.filterMapM_cons, h id List.mem_cons_self,
      ih fun id' hid' => h id' (List.mem_cons_of_mem _ hid')]
    cases hk : k id with
    | none => rw [List.filterMap_cons_none hk]; rfl
    | some a => rw [List.filterMap_cons_some hk]; rfl

end FilterMapM
end MarkupSplice
