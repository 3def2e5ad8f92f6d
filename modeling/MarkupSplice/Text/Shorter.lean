/-!
# Rests of a text

What a reader leaves of its text, with the proof that it has become shorter, or
at least not longer, so that reading on ends.
-/
namespace MarkupSplice.Text

abbrev Shorter {α : Type} (s : List α) := { r : List α // r.length < s.length }

abbrev NoLonger {α : Type} (s : List α) := { r : List α // r.length ≤ s.length }

variable {α : Type} {r s : List α}

theorem length_dropWhile_le (p : α → Bool) (s : List α) : (s.dropWhile p).length ≤ s.length :=
  (List.dropWhile_suffix p).length_le

theorem length_drop_le (n : Nat) (s : List α) : (s.drop n).length ≤ s.length :=
  (List.drop_suffix n s).length_le

theorem length_lt_cons_of_le (c : α) (h : r.length ≤ s.length) : r.length < (c :: s).length :=
  Nat.lt_succ_of_le h

theorem length_lt_cons_of_lt (c : α) (h : r.length < s.length) : r.length < (c :: s).length :=
  Nat.lt_succ_of_lt h

theorem length_lt_of_cons_lt {c : α} (h : (c :: r).length < s.length) : r.length < s.length :=
  Nat.lt_of_succ_lt h

namespace NoLonger

def all (s : List α) : NoLonger s := ⟨s, Nat.le_refl _⟩

def drop (n : Nat) (s : List α) : NoLonger s := ⟨s.drop n, length_drop_le n s⟩

def dropWhile (p : α → Bool) (s : List α) : NoLonger s := ⟨s.dropWhile p, length_dropWhile_le p s⟩

def behind (c : α) (r : NoLonger s) : Shorter (c :: s) := ⟨r.val, length_lt_cons_of_le c r.property⟩

def trans (r : NoLonger s) (r' : NoLonger r.val) : NoLonger s :=
  ⟨r'.val, Nat.le_trans r'.property r.property⟩

def next (r : NoLonger s) (r' : Shorter r.val) : Shorter s :=
  ⟨r'.val, Nat.lt_of_lt_of_le r'.property r.property⟩

end NoLonger

namespace Shorter

def tail (c : α) (s : List α) : Shorter (c :: s) := ⟨s, Nat.lt_succ_self _⟩

def behind (c : α) (r : Shorter s) : Shorter (c :: s) := ⟨r.val, length_lt_cons_of_lt c r.property⟩

def noLonger (r : Shorter s) : NoLonger s := ⟨r.val, Nat.le_of_lt r.property⟩

def trans (r : Shorter s) (r' : NoLonger r.val) : Shorter s :=
  ⟨r'.val, Nat.lt_of_le_of_lt r'.property r.property⟩

def next (r : Shorter s) (r' : Shorter r.val) : Shorter s := r.trans r'.noLonger

end Shorter
end MarkupSplice.Text
