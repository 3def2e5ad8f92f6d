import MarkupSplice.Path.Basic

/-!
# The two dialects of markup

HTML compares names without regard to ASCII case and keeps them in lower case;
XML takes them as they are written. Some HTML elements never have content
(`voidNames`), and the content of some is read up to their own end tag without
looking for markup (`verbatimNames`).
-/
namespace MarkupSplice

inductive Flavor
  | html
  | xml
deriving DecidableEq, Repr, Inhabited

namespace Flavor

/-- Letters outside ASCII keep their case. -/
def foldName (name : String) : String := name.map Char.toLower

def normalize : Flavor → String → String
  | .html, name => foldName name
  | .xml, name => name

def namesMatch : Flavor → String → String → Bool
  | .html, a, b => foldName a == foldName b
  | .xml, a, b => a == b

def voidNames : List String :=
  ["area", "base", "br", "col", "embed", "hr", "img", "input", "link", "meta", "param", "source",
    "track", "wbr"]

def verbatimNames : List String := ["script", "style", "textarea", "title"]

def isVoid (f : Flavor) (name : String) : Bool := f == .html && voidNames.contains name

def isVerbatim (f : Flavor) (name : String) : Bool := f == .html && verbatimNames.contains name

/-- A file is HTML when its name says so in lower case, and XML otherwise. -/
def ofPath (p : Path) : Flavor :=
  if p.extension? = some "html" ∨ p.extension? = some "htm" then .html else .xml

end Flavor
end MarkupSplice
