import MarkupSplice.Markup.Flavor

/-!
# Escaping attribute values

An escaped value can stand between quotes of either kind. XML also escapes the
white space that reading an attribute would turn into blanks, and writes a
blank for each character that XML 1.0 does not allow.
-/
namespace MarkupSplice.Markup

def escapeChar (c : Char) : List Char :=
  match c with
  | '&' => ['&', 'a', 'm', 'p', ';']
  | '<' => ['&', 'l', 't', ';']
  | '>' => ['&', 'g', 't', ';']
  | '"' => ['&', 'q', 'u', 'o', 't', ';']
  | '\'' => ['&', '#', 'x', '2', '7', ';']
  | c => [c]

/-- The characters that an XML 1.0 document may hold. -/
def isXmlChar (c : Char) : Bool :=
  c == '\t' || c == '\n' || c == '\r' || (0x20 ≤ c.toNat && c.toNat ≤ 0xD7FF) ||
    (0xE000 ≤ c.toNat && c.toNat ≤ 0xFFFD) || (0x10000 ≤ c.toNat && c.toNat ≤ 0x10FFFF)

def escapeXmlChar (c : Char) : List Char :=
  match c with
  | '\t' => ['&', '#', 'x', '9', ';']
  | '\n' => ['&', '#', 'x', 'A', ';']
  | '\r' => ['&', '#', 'x', 'D', ';']
  | c => if isXmlChar c then escapeChar c else [' ']

def escapeChars (f : Flavor) (s : List Char) : List Char :=
  match f with
  | .html => s.flatMap escapeChar
  | .xml => s.flatMap escapeXmlChar

def isXmlEscaped (c : Char) : Bool :=
  c == '&' || c == '<' || c == '>' || c == '"' || c == '\'' ||
    c == '\t' || c == '\n' || c == '\r' || !isXmlChar c

/-- A value for XML in which nothing has to be escaped is taken as it is. -/
def escape (f : Flavor) (s : String) : String :=
  if f == .xml && !s.toList.any isXmlEscaped then s else String.ofList (escapeChars f s.toList)

end MarkupSplice.Markup
