import MarkupSplice.Markup.Tree
import MarkupSplice.Proofs.Edit.Schedule

/-!
# Texts in stretches

A text is cut into stretches, some of which are to be replaced. The edits that
replace them can be given in any order that keeps the insertions at one place
as they are, and are made in one go (`apply_stretches`), also behind a
byte-order mark that none of their offsets counts (`applyEdits_stretches`).
-/
namespace MarkupSplice
open Text

structure Stretch where
  old : List Char
  new : Option (List Char)
deriving DecidableEq, Repr

namespace Stretch

def keep (s : List Char) : Stretch := ⟨s, none⟩

def replace (s t : List Char) : Stretch := ⟨s, some t⟩

def insert (t : List Char) : Stretch := ⟨[], some t⟩

def oldText (xs : List Stretch) : List Char := xs.flatMap old

def newText (xs : List Stretch) : List Char := xs.flatMap fun x => x.new.getD x.old

def edits (n : Nat) : List Stretch → List Edit
  | [] => []
  | x :: xs =>
    (x.new.map fun t => ⟨n, n + byteLength x.old, String.ofList t⟩).toList ++
      edits (n + byteLength x.old) xs

@[simp] theorem oldText_nil : oldText [] = [] := rfl

@[simp] theorem oldText_cons (x : Stretch) (xs : List Stretch) :
    oldText (x :: xs) = x.old ++ oldText xs := rfl

@[simp] theorem oldText_append (xs ys : List Stretch) :
    oldText (xs ++ ys) = oldText xs ++ oldText ys := List.flatMap_append

@[simp] theorem newText_nil : newText [] = [] := rfl

@[simp] theorem newText_cons (x : Stretch) (xs : List Stretch) :
    newText (x :: xs) = x.new.getD x.old ++ newText xs := rfl

@[simp] theorem newText_append (xs ys : List Stretch) :
    newText (xs ++ ys) = newText xs ++ newText ys := List.flatMap_append

@[simp] theorem edits_nil (n : Nat) : edits n [] = [] := rfl

@[simp] theorem edits_keep (n : Nat) (s : List Char) (xs : List Stretch) :
    edits n (keep s :: xs) = edits (n + byteLength s) xs := rfl

@[simp] theorem edits_replace (n : Nat) (s t : List Char) (xs : List Stretch) :
    edits n (replace s t :: xs) =
      ⟨n, n + byteLength s, String.ofList t⟩ :: edits (n + byteLength s) xs := rfl

@[simp] theorem edits_insert (n : Nat) (t : List Char) (xs : List Stretch) :
    edits n (insert t :: xs) = .insert n (String.ofList t) :: edits n xs := rfl

theorem edits_append (n : Nat) (xs ys : List Stretch) :
    edits n (xs ++ ys) = edits n xs ++ edits (n + byteLength (oldText xs)) ys := by
  induction xs generalizing n with
  | nil => rfl
  | cons x xs ih => simp [edits, ih, Nat.add_assoc]

theorem edits_shift (n m : Nat) (xs : List Stretch) :
    edits (n + m) xs = (edits n xs).map (Edit.shift m) := by
  induction xs generalizing n with
  | nil => rfl
  | cons x xs ih =>
    have hcomm : n + m + byteLength x.old = n + byteLength x.old + m := by omega
    simp only [edits, List.map_append, ← ih, hcomm]
    cases x.new <;> rfl

theorem offsets_of_mem {n : Nat} {xs : List Stretch} {e : Edit} (he : e ∈ edits n xs) :
    ∃ a x b t, xs = a ++ x :: b ∧ x.new = some t ∧ e.start = n + byteLength (oldText a) ∧
      e.stop = e.start + byteLength x.old ∧ e.text = String.ofList t := by
  induction xs generalizing n with
  | nil => cases he
  | cons x xs ih =>
    rcases List.mem_append.1 he with he | he
    · cases hx : x.new with
      | none => simp [hx] at he
      | some t =>
        simp only [hx, Option.map_some, Option.toList_some, List.mem_singleton] at he
        subst he
        exact ⟨[], x, xs, t, rfl, hx, by simp, rfl, rfl⟩
    · obtain ⟨a, y, b, t, rfl, hy, hstart, hstop, htext⟩ := ih he
      refine ⟨x :: a, y, b, t, rfl, hy, ?_, hstop, htext⟩
      rw [hstart, oldText_cons, byteLength_append, Nat.add_assoc]

theorem start_le_of_mem {n : Nat} {xs : List Stretch} {e : Edit} (he : e ∈ edits n xs) :
    n ≤ e.start ∧ e.start ≤ e.stop ∧ e.stop ≤ n + byteLength (oldText xs) := by
  obtain ⟨a, x, b, t, rfl, -, hstart, hstop, -⟩ := offsets_of_mem he
  simp only [oldText_append, oldText_cons, byteLength_append]
  omega

theorem validate_edits (pre : List Char) {xs : List Stretch} {e : Edit}
    (he : e ∈ edits (byteLength pre) xs) : e.validate (pre ++ oldText xs) = .ok () := by
  obtain ⟨a, x, b, t, rfl, -, hstart, hstop, -⟩ := offsets_of_mem he
  have hfirst : e.start = byteLength (pre ++ oldText a) := by
    rw [hstart, byteLength_append]
  have hlast : e.stop = byteLength (pre ++ oldText a ++ x.old) := by
    rw [hstop, hfirst, ← byteLength_append]
  have htext : pre ++ oldText (a ++ x :: b) = pre ++ oldText a ++ (x.old ++ oldText b) := by
    simp
  have htext' : pre ++ oldText (a ++ x :: b) = pre ++ oldText a ++ x.old ++ oldText b := by
    simp
  have hboundary : isBoundary (pre ++ oldText (a ++ x :: b)) e.start = true := by
    rw [isBoundary, hfirst, htext, cutBytes_byteLength]
    rfl
  have hboundary' : isBoundary (pre ++ oldText (a ++ x :: b)) e.stop = true := by
    rw [isBoundary, hlast, htext', cutBytes_byteLength]
    rfl
  have hle : ¬(e.start > e.stop ∨ e.stop > byteLength (pre ++ oldText (a ++ x :: b))) := by
    rw [htext', byteLength_append, ← hlast]
    omega
  unfold Edit.validate
  rw [if_neg hle, hboundary, hboundary']
  rfl

theorem splice_replace (pre old post t : List Char) :
    Edit.splice (pre ++ old ++ post)
        ⟨byteLength pre, byteLength pre + byteLength old, String.ofList t⟩ =
      pre ++ t ++ post := by
  have hstart : cutBytes (pre ++ old ++ post) (byteLength pre) = some (pre, old ++ post) := by
    rw [List.append_assoc]
    exact cutBytes_byteLength _ _
  have hstop : cutBytes (pre ++ old ++ post) (byteLength pre + byteLength old) =
      some (pre ++ old, post) := by
    rw [← byteLength_append]
    exact cutBytes_byteLength _ _
  simp only [Edit.splice, hstart, hstop, String.toList_ofList]

theorem foldl_splice (pre : List Char) (xs : List Stretch) :
    (edits (byteLength pre) xs).reverse.foldl Edit.splice (pre ++ oldText xs) =
      pre ++ newText xs := by
  induction xs generalizing pre with
  | nil => rfl
  | cons x xs ih =>
    have hrest := ih (pre ++ x.old)
    rw [byteLength_append] at hrest
    rw [edits, List.reverse_append, List.foldl_append, oldText_cons, ← List.append_assoc, hrest]
    cases hx : x.new with
    | none => simp [hx]
    | some t => simpa [hx] using splice_replace pre x.old (newText xs) t

theorem pairwise_edits (n : Nat) (xs : List Stretch) :
    (edits n xs).Pairwise fun a b => a.stop ≤ b.start := by
  induction xs generalizing n with
  | nil => exact List.Pairwise.nil
  | cons x xs ih =>
    refine List.pairwise_append.2 ⟨?_, ih _, ?_⟩
    · cases x.new <;> simp
    · intro a ha b hb
      have hle := (start_le_of_mem hb).1
      cases hx : x.new with
      | none => simp [hx] at ha
      | some t =>
        simp only [hx, Option.map_some, Option.toList_some, List.mem_singleton] at ha
        subst ha
        exact hle

def Distinct (xs : List Stretch) : Prop :=
  (edits 0 xs).Pairwise fun a b =>
    a.start = b.start → b.stop = b.start ∧ ¬a.text.toList <+: b.text.toList

theorem before_of_distinct {xs : List Stretch} (h : Distinct xs) :
    (edits 0 xs).Pairwise Edit.Before :=
  (pairwise_edits 0 xs).imp₂ (fun _ _ hstop hdistinct => ⟨hstop, hdistinct⟩) h

theorem apply_stretches {es : List Edit} {xs : List Stretch} (h : Distinct xs)
    (hes : ∀ o, Edit.startingAt o es = Edit.startingAt o (edits 0 xs)) :
    Edit.apply (oldText xs) es = .ok (newText xs) := by
  have happly := Edit.apply_of_before (s := oldText xs) (fun _ he => validate_edits [] he)
    (before_of_distinct h) hes
  rw [happly]
  exact congrArg Except.ok (foldl_splice [] xs)

def mark (s : List Char) : List Char := if s.head? = some '\ufeff' then ['\ufeff'] else []

theorem mark_append (s : List Char) : mark s ++ (Document.stripMark s).1 = s := by
  cases s with
  | nil => rfl
  | cons c s =>
    by_cases hc : c = '\ufeff'
    · simp [mark, Document.stripMark, Document.byteOrderMark, hc]
    · simp [mark, Document.stripMark, Document.byteOrderMark, hc]

theorem shiftPastMark_eq (s : List Char) (es : List Edit) :
    Edit.shiftPastMark s es = es.map (Edit.shift (byteLength (mark s))) := by
  unfold Edit.shiftPastMark mark
  split
  · rfl
  · exact (List.map_id es).symm

theorem startingAt_shift (n o : Nat) (es : List Edit) :
    Edit.startingAt o (es.map (Edit.shift n)) =
      if n ≤ o then (Edit.startingAt (o - n) es).map (Edit.shift n) else [] := by
  have hstart : ∀ e : Edit, ((e.shift n).start == o) = (decide (n ≤ o) && (e.start == o - n)) := by
    intro e
    rw [Bool.eq_iff_iff]
    simp only [Edit.shift, Bool.and_eq_true, beq_iff_eq, decide_eq_true_eq]
    omega
  simp only [Edit.startingAt, List.filter_map, Function.comp_def, hstart]
  split
  · rename_i hle
    simp [hle]
  · rename_i hgt
    simp [hgt]

theorem applyEdits_stretches {text : String} {es : List Edit} {xs : List Stretch}
    (htext : (Document.stripMark text.toList).1 = oldText xs) (h : Distinct xs)
    (hes : ∀ o, Edit.startingAt o es = Edit.startingAt o (edits 0 xs)) :
    applyEdits text (Edit.shiftPastMark text.toList es) =
      .ok (String.ofList (mark text.toList ++ newText xs)) := by
  have hsplit : oldText (keep (mark text.toList) :: xs) = text.toList := by
    rw [oldText_cons, ← htext]
    exact mark_append _
  have hedits : edits 0 (keep (mark text.toList) :: xs) =
      (edits 0 xs).map (Edit.shift (byteLength (mark text.toList))) := by
    rw [edits_keep, edits_shift]
  have hdistinct : Distinct (keep (mark text.toList) :: xs) := by
    rw [Distinct, hedits, List.pairwise_map]
    refine List.Pairwise.imp ?_ h
    intro a b hab heq
    obtain ⟨h1, h2⟩ := hab (Nat.add_right_cancel heq)
    exact ⟨congrArg (· + _) h1, h2⟩
  have hshift : ∀ o, Edit.startingAt o (Edit.shiftPastMark text.toList es) =
      Edit.startingAt o (edits 0 (keep (mark text.toList) :: xs)) := by
    intro o
    rw [hedits, shiftPastMark_eq, startingAt_shift, startingAt_shift, hes]
  have happly := apply_stretches hdistinct hshift
  rw [hsplit] at happly
  rw [applyEdits, happly]
  rfl

end Stretch
end MarkupSplice
