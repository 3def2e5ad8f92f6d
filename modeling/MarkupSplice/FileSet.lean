import MarkupSplice.Path.Glob

/-!
# File sets

The paths below a directory that match one of some patterns and none of some
others. Without patterns of the first kind all HTML files are meant.
-/
namespace MarkupSplice

structure FileSet where
  includes : List String
  excludes : List String
deriving DecidableEq, Repr, Inhabited

namespace FileSet

def defaultInclude : String := "**/*.html"

def patterns (s : FileSet) : List String :=
  if s.includes.isEmpty then [defaultInclude] else s.includes

def accepts (s : FileSet) (path : String) : Bool :=
  s.patterns.any (Glob.accepts · path) && !s.excludes.any (Glob.accepts · path)

def toText (s : FileSet) : String :=
  "includes [" ++ ", ".intercalate s.patterns ++ "]" ++
    if s.excludes.isEmpty then "" else ", excludes [" ++ ", ".intercalate s.excludes ++ "]"

end FileSet
end MarkupSplice
