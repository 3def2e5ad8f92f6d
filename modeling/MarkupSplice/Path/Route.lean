import MarkupSplice.Path.Basic

/-!
# Routes

A route leads from some directory a number of levels up and then down through
names. Each path is one: its names and `..` are walked, and where it begins is
left open. `relative` is the way from one route's end to the end of another. To
undo a step up one would have to know the name of a directory, so there is no
way when the first route goes up further than the second; the empty route then
stands in for it.
-/
namespace MarkupSplice

structure Route where
  up : Nat
  names : List String
deriving DecidableEq, Repr

def dropCommon {α : Type} [DecidableEq α] : List α → List α → List α × List α
  | a :: s, b :: t => if a = b then dropCommon s t else (a :: s, b :: t)
  | s, t => (s, t)

namespace Route

def empty : Route := ⟨0, []⟩

def parent (r : Route) : Route :=
  if r.names.isEmpty then ⟨r.up - 1, []⟩ else ⟨r.up, r.names.dropLast⟩

def step (r : Route) : Part → Route
  | .root | .here => r
  | .above => if r.names.isEmpty then ⟨r.up + 1, []⟩ else ⟨r.up, r.names.dropLast⟩
  | .name n => ⟨r.up, r.names ++ [n]⟩

def walk (r : Route) (ps : List Part) : Route := ps.foldl step r

def ofPath (p : Path) : Route := empty.walk p.parts

def relative (base target : Route) : Route :=
  if target.up < base.up then empty
  else if base.up < target.up then
    ⟨base.names.length + (target.up - base.up), target.names⟩
  else
    let (left, right) := dropCommon base.names target.names
    ⟨left.length, right⟩

def toText (r : Route) : String := "/".intercalate (List.replicate r.up ".." ++ r.names)

end Route

/-- The way from the directory `base` to `target`, both beginning at one place. -/
def Path.relative (base target : Path) : Route := (Route.ofPath base).relative (Route.ofPath target)

end MarkupSplice
